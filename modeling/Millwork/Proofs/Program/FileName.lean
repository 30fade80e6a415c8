import Millwork.Program.FileName
import Millwork.Proofs.File.Location

namespace Millwork

namespace FileName

def IsLabel (c : Char) : Prop :=
  ('a' ≤ c ∧ c ≤ 'z') ∨ ('A' ≤ c ∧ c ≤ 'Z') ∨ ('0' ≤ c ∧ c ≤ '9') ∨ c = '_' ∨ c = '-'

instance (c : Char) : Decidable (IsLabel c) := inferInstanceAs (Decidable (_ ∨ _))

def label? (c : Char) : Option Char :=
  if c = ' ' then some '_' else if IsLabel c then some c else none

def labels (name : String) : List Char := name.toList.filterMap label?

/-- What the name of a panel is reduced to: the first of the characters that stand for its own. -/
structure IsStem (name stem : String) : Prop where
  nonempty : stem ≠ ""
  length_le : stem.length ≤ 50
  isLabel : ∀ c ∈ stem.toList, IsLabel c
  fixed : FileName.stem stem = stem
  chosen : labels name ≠ [] → stem.toList = (labels name).take 50
  fallback : labels name = [] → stem = "program"

/-! ## Kept characters -/

theorem isKept_iff (c : Char) : isKept c = true ↔ IsLabel c := by
  have letters : c.isAlpha =
      (decide ('A' ≤ c ∧ c ≤ 'Z') || (decide ('a' ≤ c) && decide (c ≤ 'z'))) := rfl
  have digits : c.isDigit = (decide ('0' ≤ c) && decide (c ≤ '9')) := rfl
  simp only [isKept, Char.isAlphanum, letters, digits, Bool.or_eq_true, Bool.and_eq_true,
    decide_eq_true_eq, beq_iff_eq, IsLabel]
  tauto

theorem isLabel_of_label? {c label : Char} (kept : label? c = some label) : IsLabel label := by
  unfold label? at kept
  split_ifs at kept with blank plain
  · obtain rfl := Option.some.inj kept
    decide
  · obtain rfl := Option.some.inj kept
    exact plain

theorem label?_of_isLabel {c : Char} (plain : IsLabel c) : label? c = some c := by
  have solid : c ≠ ' ' := by
    rintro rfl
    exact absurd plain (by decide)
  rw [label?, if_neg solid, if_pos plain]

theorem kept_eq (name : String) : kept name.toList = (labels name).take 50 := by
  have all (characters : List Char) :
      (characters.map fun c => if c = ' ' then '_' else c).filter isKept =
        characters.filterMap label? := by
    induction characters with
    | nil => rfl
    | cons c rest ih =>
        by_cases blank : c = ' '
        · simpa [blank, label?, (isKept_iff '_').2 (by decide)] using ih
        · by_cases plain : IsLabel c
          · simpa [blank, label?, (isKept_iff c).2 plain, plain] using ih
          · simpa [blank, label?, mt (isKept_iff c).1 plain, plain] using ih
  rw [kept, all, lengthLimit, labels]

/-! ## Reduced names -/

theorem toList_stem (name : String) :
    (stem name).toList = if labels name = [] then "program".toList else (labels name).take 50 := by
  rw [stem, kept_eq]
  by_cases empty : labels name = []
  · simp [empty]
  · simp [empty]

theorem isLabel_of_mem_stem (name : String) : ∀ c ∈ (stem name).toList, IsLabel c := by
  rw [toList_stem]
  split_ifs
  · have letters : "program".toList.all (IsLabel ·) = true := by decide
    exact fun c mem => of_decide_eq_true (List.all_eq_true.mp letters c mem)
  · intro c inside
    obtain ⟨entry, -, kept⟩ := List.mem_filterMap.1 (List.mem_of_mem_take inside)
    exact isLabel_of_label? kept

theorem labels_of_isLabel {name : String} (plain : ∀ c ∈ name.toList, IsLabel c) :
    labels name = name.toList := by
  rw [labels, List.filterMap_congr fun c inside => label?_of_isLabel (plain c inside),
    List.filterMap_some]

theorem length_stem_le (name : String) : (stem name).length ≤ 50 := by
  rw [← String.length_toList, toList_stem]
  split_ifs
  · decide
  · exact List.length_take_le ..

theorem stem_ne_empty (name : String) : stem name ≠ "" := by
  rw [Ne, ← String.toList_eq_nil_iff, toList_stem]
  split_ifs with empty
  · decide
  · simpa using empty

theorem stem_stem (name : String) : stem (stem name) = stem name := by
  have plain := labels_of_isLabel (isLabel_of_mem_stem name)
  apply String.toList_injective
  rw [toList_stem, plain, if_neg (mt String.toList_eq_nil_iff.1 (stem_ne_empty name)),
    List.take_of_length_le (by rw [String.length_toList]; exact length_stem_le name)]

theorem isStem (name : String) : IsStem name (stem name) where
  nonempty := stem_ne_empty name
  length_le := length_stem_le name
  isLabel := isLabel_of_mem_stem name
  fixed := stem_stem name
  chosen nonempty := by rw [toList_stem, if_neg nonempty]
  fallback empty := String.toList_injective (by rw [toList_stem, if_pos empty])

/-! ## Paths of programs -/

theorem utf8ByteSize_le (text : String) : text.utf8ByteSize ≤ 4 * text.length := by
  have all (characters : List Char) :
      (String.ofList characters).utf8ByteSize ≤ 4 * characters.length := by
    induction characters with
    | nil => simp
    | cons c rest ih =>
        have split : String.ofList (c :: rest) = String.singleton c ++ String.ofList rest :=
          String.toList_injective (by simp)
        have := c.utf8Size_le_four
        rw [split, String.utf8ByteSize_append, String.utf8ByteSize_singleton, List.length_cons]
        omega
  simpa [String.length_toList] using all text.toList

theorem isEntryName {stem : String} (plain : ∀ c ∈ stem.toList, IsLabel c)
    (short : stem.length ≤ 50) (nonempty : stem ≠ "") : FileTree.IsEntryName (stem ++ ".nc") := by
  have absent {c : Char} (other : ¬ IsLabel c) (outside : c ∉ ".nc".toList) :
      c ∉ (stem ++ ".nc").toList := fun inside => by
    rcases List.mem_append.1 (String.toList_append ▸ inside) with within | within
    · exact other (plain c within)
    · exact outside within
  have length : (stem ++ ".nc").length = stem.length + 3 := String.length_append ..
  have nonzero : stem.length ≠ 0 := mt String.length_eq_zero_iff.1 nonempty
  have ne {other : String} (shorter : other.length ≤ 3) : stem ++ ".nc" ≠ other := by
    rintro rfl
    omega
  exact {
    nonempty := ne (by decide)
    ne_dot := ne (by decide)
    ne_dots := ne (by decide)
    slash_not_mem := absent (by decide) (by decide)
    zero_not_mem := absent (by decide) (by decide)
    size_le := by
      have := utf8ByteSize_le (stem ++ ".nc")
      rw [FileTree.stepLimit]
      omega }

/-- Whatever the name of a panel, its program is filed in the directory that is meant, under the
reduced name. -/
theorem path_confined (name : String) :
    IsStem name (stem name) ∧
      ∀ directory, FilePath.LeadsInto (path directory name) directory (stem name ++ ".nc") := by
  have is := isStem name
  exact ⟨is, fun directory =>
    FilePath.leadsInto_join directory (isEntryName is.isLabel is.length_le is.nonempty)⟩

example : path "out" "/../../etc/Side panel" = "out/etcSide_panel.nc" := by decide +kernel

end FileName

end Millwork
