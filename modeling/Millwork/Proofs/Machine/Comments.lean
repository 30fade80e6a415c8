import Millwork.Proofs.Controller.View
import Millwork.Proofs.Text.OneLine

namespace Millwork

namespace Text

/-- The control characters of Unicode, category Cc. -/
def controlRanges : List (Nat × Nat) := [(0x00, 0x1F), (0x7F, 0x9F)]

def isUnwanted (c : Char) : Bool := inRanges controlRanges c || isLineEnd c

def isSoftBreak (c : Char) : Bool := isLineEnd c && !isControl c

def isVisible (c : Char) : Bool := !isBlank c && !isControl c

/-- The character stands somewhere with a visible one not behind it and one not in front of it. -/
def Shows (text : List Char) (c : Char) : Prop :=
  ∃ front back, text = front ++ c :: back ∧ (∃ v ∈ front ++ [c], isVisible v = true) ∧
    ∃ v ∈ c :: back, isVisible v = true

/-- A text that takes more than one line where it stands in a comment of its own. -/
def Breaks (text : List Char) : Prop := ∃ c, isSoftBreak c = true ∧ Shows text c

/-! ## Trimming -/

theorem dropWhile_eq_append_cons_iff {drops : Char → Bool} {text back : List Char} {c : Char} :
    (∃ rest, text.dropWhile drops = rest ++ c :: back) ↔
      ∃ front, text = front ++ c :: back ∧ ∃ v ∈ front ++ [c], drops v = false := by
  induction text with
  | nil => simp
  | cons d text ih =>
      cases dropped : drops d with
      | true =>
          rw [List.dropWhile_cons_of_pos dropped, ih]
          constructor
          · rintro ⟨front, rfl, v, mem, stays⟩
            exact ⟨d :: front, rfl, v, List.mem_cons_of_mem _ mem, stays⟩
          · rintro ⟨front, same, v, mem, stays⟩
            cases front with
            | nil =>
                obtain ⟨rfl, -⟩ := List.cons.inj same
                rw [List.mem_singleton.mp mem, dropped] at stays
                cases stays
            | cons e front =>
                obtain ⟨rfl, rfl⟩ := List.cons.inj same
                rcases List.mem_cons.mp mem with rfl | mem
                · rw [dropped] at stays
                  cases stays
                · exact ⟨front, rfl, v, mem, stays⟩
      | false =>
          rw [List.dropWhile_cons_of_neg (by simp [dropped])]
          refine exists_congr fun front => (and_iff_left_of_imp fun same => ⟨d, ?_, dropped⟩).symm
          cases front with
          | nil => exact List.mem_singleton.mpr (List.cons.inj same).1
          | cons e front => exact List.mem_cons.mpr (.inl (List.cons.inj same).1)

theorem mem_trim_iff {text : List Char} {c : Char} :
    c ∈ trim text ↔ ∃ front back, text = front ++ c :: back ∧
      (∃ v ∈ front ++ [c], isBlank v = false) ∧ ∃ v ∈ c :: back, isBlank v = false := by
  rw [trim, List.mem_reverse, List.mem_iff_append]
  constructor
  · rintro ⟨rest, front, same⟩
    obtain ⟨back, turned, last⟩ := dropWhile_eq_append_cons_iff.mp ⟨rest, same⟩
    have kept : text.dropWhile isBlank = front.reverse ++ c :: back.reverse := by
      rw [← List.reverse_inj, turned]
      simp
    obtain ⟨front', whole, first⟩ := dropWhile_eq_append_cons_iff.mp ⟨_, kept⟩
    exact ⟨front', back.reverse, whole, first, by simpa [or_comm] using last⟩
  · rintro ⟨front, back, whole, first, last⟩
    obtain ⟨rest, kept⟩ := dropWhile_eq_append_cons_iff.mpr ⟨front, whole, first⟩
    have turned : ∃ rest', (text.dropWhile isBlank).reverse.dropWhile isBlank =
        rest' ++ c :: rest.reverse :=
      dropWhile_eq_append_cons_iff.mpr ⟨back.reverse, by simp [kept], by simpa [or_comm] using last⟩
    obtain ⟨rest', same⟩ := turned
    exact ⟨rest', rest.reverse, same⟩

/-! ## Control characters -/

theorem any_head?_append_cons {c : Char} (clean : isControl c = false) (front back : List Char) :
    (front ++ c :: back).head?.any isControl = front.head?.any isControl := by
  cases front <;> simp [clean]

theorem flatten_append_cons {c : Char} (clean : isControl c = false) (front back : List Char) :
    flatten (front ++ c :: back) = flatten front ++ c :: flatten back := by
  induction front with
  | nil => simp [flatten, clean]
  | cons d front ih =>
      rw [List.cons_append, flatten, flatten, any_head?_append_cons clean, ih]
      split_ifs <;> rfl

theorem flatten_eq_append_cons {c : Char} (solid : c ≠ ' ') {text front back : List Char}
    (same : flatten text = front ++ c :: back) :
    ∃ front' back', text = front' ++ c :: back' ∧
      flatten front' = front ∧ flatten back' = back := by
  have clean : isControl c = false := isControl_flatten text c (same ▸ by simp)
  induction text generalizing front with
  | nil => simp [flatten] at same
  | cons d text ih =>
      rw [flatten] at same
      split_ifs at same with plain run
      · cases front with
        | nil =>
            obtain ⟨rfl, rest⟩ := List.cons.inj same
            exact ⟨[], text, rfl, rfl, rest⟩
        | cons e front =>
            obtain ⟨rfl, rest⟩ := List.cons.inj same
            obtain ⟨front', back', rfl, first, second⟩ := ih rest
            exact ⟨d :: front', back', rfl, by rw [flatten, if_pos plain, first], second⟩
      · obtain ⟨front', back', rfl, first, second⟩ := ih same
        rw [any_head?_append_cons clean] at run
        exact ⟨d :: front', back', rfl, by rw [flatten, if_neg plain, if_pos run, first], second⟩
      · cases front with
        | nil => exact absurd (List.cons.inj same).1.symm solid
        | cons e front =>
            obtain ⟨rfl, rest⟩ := List.cons.inj same
            obtain ⟨front', back', rfl, first, second⟩ := ih rest
            rw [any_head?_append_cons clean] at run
            exact ⟨d :: front', back', rfl,
              by rw [flatten, if_neg plain, if_neg run, first], second⟩

theorem mem_flatten {c : Char} (solid : c ≠ ' ') (text : List Char) :
    c ∈ flatten text ↔ c ∈ text ∧ isControl c = false := by
  constructor
  · intro mem
    obtain ⟨front, back, same⟩ := List.mem_iff_append.mp mem
    obtain ⟨front', back', rfl, -, -⟩ := flatten_eq_append_cons solid same
    exact ⟨by simp, isControl_flatten _ c mem⟩
  · rintro ⟨mem, clean⟩
    obtain ⟨front, back, rfl⟩ := List.mem_iff_append.mp mem
    rw [flatten_append_cons clean]
    simp

theorem exists_mem_flatten (text : List Char) :
    (∃ v ∈ flatten text, isBlank v = false) ↔ ∃ v ∈ text, isVisible v = true := by
  simp only [isVisible, Bool.and_eq_true, Bool.not_eq_true']
  refine exists_congr fun v => ?_
  by_cases blank : isBlank v = true
  · simp [blank]
  · have solid : v ≠ ' ' := by
      rintro rfl
      exact blank (by decide)
    rw [mem_flatten solid, and_assoc, and_comm (a := isControl v = false)]

theorem mem_trim_flatten_iff {c : Char} (solid : c ≠ ' ') (text : List Char) :
    c ∈ trim (flatten text) ↔ isControl c = false ∧ Shows text c := by
  rw [mem_trim_iff]
  constructor
  · rintro ⟨front, back, same, first, last⟩
    have clean : isControl c = false := isControl_flatten text c (same ▸ by simp)
    obtain ⟨front', back', rfl, rfl, rfl⟩ := flatten_eq_append_cons solid same
    have behind : flatten front' ++ [c] = flatten (front' ++ [c]) :=
      (flatten_append_cons clean front' []).symm
    have before : c :: flatten back' = flatten (c :: back') :=
      (flatten_append_cons clean [] back').symm
    rw [behind, exists_mem_flatten] at first
    rw [before, exists_mem_flatten] at last
    exact ⟨clean, front', back', rfl, first, last⟩
  · rintro ⟨clean, front, back, rfl, first, last⟩
    rw [← exists_mem_flatten, flatten_append_cons clean] at first
    rw [← exists_mem_flatten, ← List.nil_append (c :: back), flatten_append_cons clean] at last
    exact ⟨flatten front, flatten back, flatten_append_cons clean front back, first, last⟩

end Text

/-! ## Comments -/

theorem CommentStyle.mem_body_iff (style : CommentStyle) {c : Char} (solid : c ≠ ' ')
    (apart : c ∉ ['(', ')', '[', ']']) (text : String) :
    c ∈ style.body text ↔ Text.isControl c = false ∧ Text.Shows text.toList c := by
  rw [← Text.mem_trim_flatten_iff solid]
  unfold body
  cases style with
  | semicolon => rfl
  | brackets => simp [squareBracket_eq_iff apart]

theorem Spelling.mem_comment_iff (spelling : Spelling) {c : Char}
    (unwanted : Text.isUnwanted c = true) (text : String) :
    c ∈ (spelling.comment text).toList ↔
      Text.isControl c = false ∧ Text.Shows text.toList c := by
  have absent {marks : List Char} (wanted : marks.any Text.isUnwanted = false) : c ∉ marks :=
    fun mem => List.any_eq_false.mp wanted c mem unwanted
  have opening : c ∉ spelling.comments.opening.toList := by
    cases spelling.comments <;> exact absent (by decide)
  have closing : c ∉ spelling.comments.closing.toList := by
    cases spelling.comments <;> exact absent (by decide)
  rw [toList_comment, List.mem_append, List.mem_append, or_iff_left closing, or_iff_right opening,
    CommentStyle.mem_body_iff _ (by rintro rfl; cases unwanted) (absent (by decide))]

theorem Spelling.oneLine_comment_iff (spelling : Spelling) (text : String) :
    Text.OneLine (spelling.comment text) ↔ ¬ Text.Breaks text.toList := by
  constructor
  · rintro one ⟨c, soft, shows⟩
    rw [Text.isSoftBreak, Bool.and_eq_true, Bool.not_eq_true'] at soft
    have mem := (spelling.mem_comment_iff (by simp [Text.isUnwanted, soft.1]) text).mpr
      ⟨soft.2, shows⟩
    simp [one c mem] at soft
  · intro whole c mem
    by_contra ending
    rw [Bool.not_eq_false] at ending
    obtain ⟨clean, shows⟩ :=
      (spelling.mem_comment_iff (by simp [Text.isUnwanted, ending]) text).mp mem
    exact whole ⟨c, by simp [Text.isSoftBreak, ending, clean], shows⟩

/-! ## Texts between words -/

namespace Text

/-- Words that a remark puts around a text: one line, of which something is seen. -/
structure Frames (words : String) : Prop where
  oneLine : OneLine words
  visible : ∃ v ∈ words.toList, isVisible v = true

def Trails (text : List Char) : Prop :=
  ∃ front c back, text = front ++ c :: back ∧ isSoftBreak c = true ∧ ∃ v ∈ back, isVisible v = true

theorem isBlank_of_isLineEnd {c : Char} (ending : isLineEnd c = true) : isBlank c = true :=
  inRanges_of_nested (by decide) ending

theorem isVisible_of_isSoftBreak {c : Char} (soft : isSoftBreak c = true) :
    isVisible c = false := by
  rw [isSoftBreak, Bool.and_eq_true] at soft
  simp [isVisible, isBlank_of_isLineEnd soft.1]

theorem OneLine.not_isSoftBreak {text : String} (one : OneLine text) {c : Char}
    (mem : c ∈ text.toList) : ¬ isSoftBreak c = true := by
  simp [isSoftBreak, one c mem]

theorem OneLine.not_breaks {text : String} (one : OneLine text) : ¬ Breaks text.toList :=
  fun ⟨_, soft, _, _, same, _⟩ => one.not_isSoftBreak (by simp [same]) soft

theorem OneLine.not_trails {text : String} (one : OneLine text) : ¬ Trails text.toList :=
  fun ⟨_, _, _, same, soft, _⟩ => one.not_isSoftBreak (by simp [same]) soft

theorem breaks_append_iff {front : String} (frames : Frames front) (text : String) :
    Breaks (front ++ text).toList ↔ Trails text.toList := by
  rw [String.toList_append]
  constructor
  · rintro ⟨c, soft, before, behind, same, -, v, mem, visible⟩
    have late : v ∈ behind := by
      rcases List.mem_cons.mp mem with rfl | late
      · simp [isVisible_of_isSoftBreak soft] at visible
      · exact late
    rcases List.append_eq_append_iff.mp same with ⟨rest, rfl, same'⟩ | ⟨rest, split, same'⟩
    · exact ⟨rest, c, behind, same', soft, v, late, visible⟩
    · cases rest with
      | nil => exact ⟨[], c, behind, same'.symm, soft, v, late, visible⟩
      | cons d rest =>
          obtain ⟨rfl, -⟩ := List.cons.inj same'
          exact absurd soft (frames.oneLine.not_isSoftBreak (by simp [split]))
  · rintro ⟨before, c, behind, same, soft, v, late, visible⟩
    obtain ⟨w, mem, seen⟩ := frames.visible
    exact ⟨c, soft, front.toList ++ before, behind, by simp [same], ⟨w, by simp [mem], seen⟩, v,
      List.mem_cons_of_mem _ late, visible⟩

theorem breaks_between_iff {front back : String} (before : Frames front) (behind : Frames back)
    (text : String) :
    Breaks (front ++ (text ++ back)).toList ↔ ∃ c ∈ text.toList, isSoftBreak c = true := by
  rw [breaks_append_iff before, String.toList_append]
  constructor
  · rintro ⟨first, c, rest, same, soft, -⟩
    have among : c ∈ text.toList ++ back.toList := by simp [same]
    rcases List.mem_append.mp among with mem | mem
    · exact ⟨c, mem, soft⟩
    · exact absurd soft (behind.oneLine.not_isSoftBreak mem)
  · rintro ⟨c, mem, soft⟩
    obtain ⟨first, rest, same⟩ := List.mem_iff_append.mp mem
    obtain ⟨v, member, visible⟩ := behind.visible
    exact ⟨first, c, rest ++ back.toList, by simp [same], soft, v, by simp [member], visible⟩

end Text

end Millwork
