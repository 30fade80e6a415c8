import Mathlib.Data.List.TakeWhile
import Millwork.Json.Display
import Millwork.Proofs.Number.Operand

namespace Millwork

namespace Text

def OneLine (text : String) : Prop := ∀ c ∈ text.toList, isLineEnd c = false

theorem isLineEnd_of_any {text : List Char} (unbroken : text.any isLineEnd = false) :
    ∀ c ∈ text, isLineEnd c = false := by
  simpa using unbroken

instance (text : String) : Decidable (OneLine text) :=
  decidable_of_iff (text.toList.any isLineEnd = false) (by simp [OneLine])

@[simp] theorem oneLine_append {front back : String} :
    OneLine (front ++ back) ↔ OneLine front ∧ OneLine back := by
  simp only [OneLine, String.toList_append, List.forall_mem_append]

theorem OneLine.append {front back : String} (first : OneLine front) (second : OneLine back) :
    OneLine (front ++ back) :=
  oneLine_append.mpr ⟨first, second⟩

@[simp] theorem oneLine_ofList {text : List Char} :
    OneLine (.ofList text) ↔ ∀ c ∈ text, isLineEnd c = false := by
  rw [OneLine, String.toList_ofList]

/-- The characters of a literal are told by unification, without taking the text apart. -/
theorem OneLine.literal {text : List Char} (plain : text.any isLineEnd = false) :
    OneLine (.ofList text) :=
  oneLine_ofList.mpr (isLineEnd_of_any plain)

theorem oneLine_intercalate {separator : String} (between : OneLine separator)
    {texts : List String} (each : ∀ text ∈ texts, OneLine text) :
    OneLine (separator.intercalate texts) := by
  induction texts with
  | nil => exact nofun
  | cons first rest ih =>
      rw [List.forall_mem_cons] at each
      cases rest with
      | nil => simpa using each.1
      | cons second rest =>
          rw [String.intercalate_cons_cons]
          exact (OneLine.append each.1 between).append (ih each.2)

/-! ## Characters -/

theorem inRanges_of_nested {inner outer : List (Nat × Nat)}
    (nested : ∀ range ∈ inner, ∃ wider ∈ outer, wider.1 ≤ range.1 ∧ range.2 ≤ wider.2) {c : Char}
    (mem : inRanges inner c = true) : inRanges outer c = true := by
  simp only [inRanges, List.any_eq_true, Bool.and_eq_true, decide_eq_true_eq] at mem ⊢
  obtain ⟨range, within, low, high⟩ := mem
  obtain ⟨wider, among, below, above⟩ := nested range within
  exact ⟨wider, among, Nat.le_trans below low, Nat.le_trans high above⟩

theorem isLineEnd_of_isPrintable {c : Char} (printable : isPrintable c = true) :
    isLineEnd c = false := by
  refine Bool.eq_false_iff.mpr fun ending => ?_
  have unprintable : inRanges unprintableRanges c = true :=
    inRanges_of_nested (by decide +kernel) ending
  rw [isPrintable, unprintable] at printable
  cases printable

theorem isLineEnd_of_isDigit {c : Char} (digit : c.isDigit = true) : isLineEnd c = false := by
  have range : 48 ≤ c.toNat ∧ c.toNat ≤ 57 := Char.isDigit_iff_toNat.mp digit
  simp [isLineEnd, inRanges, lineEndRanges]
  omega

/-! ## Quotations -/

theorem isLineEnd_hexadecimal (width n : Nat) : ∀ c ∈ hexadecimal width n, isLineEnd c = false := by
  have digit : ∀ d < 16, isLineEnd (Nat.digitChar d) = false := by decide
  induction width with
  | zero => exact nofun
  | succ width ih =>
      rw [hexadecimal, List.forall_mem_cons]
      exact ⟨digit _ (Nat.mod_lt _ (by decide)), ih⟩

theorem isLineEnd_escaped {mark : Char} (plain : isLineEnd mark = false) (given : Char) :
    ∀ c ∈ escaped mark given, isLineEnd c = false := by
  have code (letter : Char) (width : Nat) (plain : isLineEnd letter = false) :
      ∀ c ∈ '\\' :: letter :: hexadecimal width given.toNat, isLineEnd c = false := by
    rw [List.forall_mem_cons, List.forall_mem_cons]
    exact ⟨rfl, plain, isLineEnd_hexadecimal _ _⟩
  unfold escaped
  split
  · rename_i special
    have own : isLineEnd given = false := by
      rcases special with rfl | rfl
      · exact plain
      · rfl
    rw [List.forall_mem_cons, List.forall_mem_cons]
    exact ⟨rfl, own, nofun⟩
  · split
    · exact isLineEnd_of_any rfl
    · split
      · exact isLineEnd_of_any rfl
      · split
        · exact isLineEnd_of_any rfl
        · split
          · rename_i printable
            simpa using isLineEnd_of_isPrintable printable
          · split
            · exact code 'x' 2 rfl
            · split
              · exact code 'u' 4 rfl
              · exact code 'U' 8 rfl

theorem oneLine_quoted (text : String) : OneLine (quoted text) := by
  have mark : isLineEnd (quotationMark text.toList) = false := by
    rw [quotationMark]
    split <;> rfl
  rw [quoted, oneLine_ofList]
  simp only [List.cons_append, List.forall_mem_cons, List.forall_mem_append, List.mem_flatMap]
  refine ⟨mark, ?_, mark, nofun⟩
  rintro c ⟨given, -, mem⟩
  exact isLineEnd_escaped mark given c mem

end Text

open Text

/-! ## Numbers -/

theorem Decimal.isLineEnd_digits (n : Nat) : ∀ c ∈ digits n, isLineEnd c = false :=
  fun _ mem => isLineEnd_of_isDigit (Nat.isDigit_of_mem_toDigits (by decide) (by decide) mem)

namespace Double

theorem isLineEnd_layout {digits : List Char} (plain : ∀ c ∈ digits, isLineEnd c = false)
    (point : Int) : ∀ c ∈ layout digits point, isLineEnd c = false := by
  have zeros (n : Int) : ∀ c ∈ List.replicate n.toNat '0', isLineEnd c = false := by
    intro c mem
    rw [List.eq_of_mem_replicate mem]
    rfl
  have taken (n : Nat) : ∀ c ∈ digits.take n, isLineEnd c = false :=
    fun c mem => plain c (List.mem_of_mem_take mem)
  have dropped (n : Nat) : ∀ c ∈ digits.drop n, isLineEnd c = false :=
    fun c mem => plain c (List.mem_of_mem_drop mem)
  have dot : isLineEnd '.' = false := rfl
  unfold layout
  split
  · split
    · simp only [List.cons_append, List.forall_mem_cons, List.forall_mem_append]
      exact ⟨rfl, rfl, zeros _, plain⟩
    · split
      · simp only [List.forall_mem_append, List.forall_mem_cons]
        exact ⟨⟨plain, zeros _⟩, rfl, rfl, nofun⟩
      · simp only [List.forall_mem_append, List.forall_mem_cons]
        exact ⟨taken _, rfl, dropped _⟩
  · have behind : ∀ c ∈ (if digits.length ≤ 1 then [] else '.' :: digits.drop 1),
        isLineEnd c = false := by
      split
      · exact nofun
      · rw [List.forall_mem_cons]
        exact ⟨rfl, dropped 1⟩
    have written := Decimal.isLineEnd_digits (point - 1).natAbs
    simp only [List.forall_mem_append, List.forall_mem_cons]
    refine ⟨⟨taken 1, behind⟩, rfl, ?_, ?_⟩
    · split <;> rfl
    · split
      · rw [List.forall_mem_cons]
        exact ⟨rfl, written⟩
      · exact written

theorem oneLine_text (x : Double) : OneLine x.text := by
  cases x with
  | nan => decide
  | infinite negative => cases negative <;> decide
  | finite negative units fits =>
      have sign : ∀ c ∈ (if negative then ['-'] else []), isLineEnd c = false := by
        cases negative <;> exact isLineEnd_of_any rfl
      rw [text]
      split
      · rw [oneLine_ofList, List.forall_mem_append]
        exact ⟨sign, isLineEnd_of_any rfl⟩
      · obtain ⟨digits, exponent⟩ := shortestDigits units
        rw [oneLine_ofList, List.forall_mem_append]
        refine ⟨sign, isLineEnd_layout (fun c mem => ?_) _⟩
        exact Decimal.isLineEnd_digits _ c (Decimal.mem_of_mem_dropTrailingZeros mem)

end Double

theorem oneLine_toString_nat (n : Nat) : OneLine (toString n) := by
  intro c mem
  exact Decimal.isLineEnd_digits n c (by simpa [Decimal.digits] using mem)

theorem oneLine_toString_int (n : Int) : OneLine (toString n) := by
  cases n with
  | ofNat n => exact oneLine_toString_nat n
  | negSucc n =>
      change OneLine ("-" ++ toString (n + 1))
      exact .append (.literal rfl) (oneLine_toString_nat _)

theorem Number.oneLine_text (a : Number) : OneLine a.text := by
  cases a with
  | whole n => exact oneLine_toString_int n
  | double x => exact x.oneLine_text

/-! ## Values -/

namespace Json

mutual

theorem oneLine_shown : ∀ value : Json, OneLine value.shown
  | null => .literal rfl
  | bool true => .literal rfl
  | bool false => .literal rfl
  | number a => by
      rw [shown]
      exact a.oneLine_text
  | text value => by
      rw [shown]
      exact oneLine_quoted value
  | list items => by
      rw [shown]
      exact .append (.append (.literal rfl) (oneLine_shownItems items)) (.literal rfl)
  | object members => by
      rw [shown]
      exact .append (.append (.literal rfl) (oneLine_shownMembers members)) (.literal rfl)

theorem oneLine_shownItems : ∀ items : List Json, OneLine (shownItems items)
  | [] => .literal rfl
  | [item] => by
      rw [shownItems]
      exact oneLine_shown item
  | item :: second :: rest => by
      rw [shownItems]
      · exact ((oneLine_shown item).append (.literal rfl)).append
          (oneLine_shownItems (second :: rest))
      · exact nofun

theorem oneLine_shownMembers : ∀ members : List (String × Json), OneLine (shownMembers members)
  | [] => .literal rfl
  | [(name, value)] => by
      rw [shownMembers]
      exact ((oneLine_quoted name).append (.literal rfl)).append (oneLine_shown value)
  | (name, value) :: second :: rest => by
      rw [shownMembers]
      · exact ((((oneLine_quoted name).append (.literal rfl)).append (oneLine_shown value)).append
          (.literal rfl)).append (oneLine_shownMembers (second :: rest))
      · exact nofun

end

end Json

/-! ## Lines of texts -/

namespace Text

theorem lines_of_oneLine {text : List Char} (one : ∀ c ∈ text, isLineEnd c = false)
    (nonempty : text ≠ []) : lines text = [text] := by
  cases text with
  | nil => exact absurd rfl nonempty
  | cons c rest =>
      have all : ∀ c' ∈ c :: rest, (!isLineEnd c') = true := by simpa using one
      rw [lines, List.takeWhile_eq_self_iff.mpr all, List.dropWhile_eq_nil_iff.mpr all,
        dropLineEnd, lines]

theorem lines_append_newline {text : List Char} (one : ∀ c ∈ text, isLineEnd c = false)
    (rest : List Char) : lines (text ++ '\n' :: rest) = text :: lines rest := by
  have all : ∀ c ∈ text, (!isLineEnd c) = true := by simpa using one
  have before : (text ++ '\n' :: rest).takeWhile (!isLineEnd ·) = text := by
    rw [List.takeWhile_append_of_pos all, List.takeWhile_cons_of_neg (by decide), List.append_nil]
  have behind : dropLineEnd ((text ++ '\n' :: rest).dropWhile (!isLineEnd ·)) = rest := by
    rw [List.dropWhile_append_of_pos all, List.dropWhile_cons_of_neg (by decide)]
    rfl
  cases whole : text ++ '\n' :: rest with
  | nil => simp at whole
  | cons c others => rw [lines, ← whole, before, behind]

theorem lines_intercalate {texts : List String} (one : ∀ text ∈ texts, OneLine text)
    (nonempty : ∀ text ∈ texts, text ≠ "") :
    lines ("\n".intercalate texts).toList = texts.map String.toList := by
  induction texts with
  | nil => simp [lines]
  | cons first rest ih =>
      rw [List.forall_mem_cons] at one nonempty
      cases rest with
      | nil =>
          rw [String.intercalate_singleton]
          exact lines_of_oneLine one.1 (mt String.toList_eq_nil_iff.mp nonempty.1)
      | cons second rest =>
          have newline : "\n".toList = ['\n'] := rfl
          rw [String.intercalate_cons_cons, String.toList_append, String.toList_append, newline,
            List.append_assoc, List.singleton_append, lines_append_newline one.1,
            ih one.2 nonempty.2, ← List.map_cons]

end Text

end Millwork
