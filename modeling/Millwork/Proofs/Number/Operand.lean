import Millwork.Number.Fixed

namespace Millwork

attribute [local instance (high)] instPowNat

namespace Decimal

theorem isDigit_of_mem_fraction {c : Char} (places rest : Nat) (below : rest < 10 ^ places)
    (mem : c ∈ fraction places rest) : c.isDigit = true := by
  induction places generalizing rest with
  | zero => cases mem
  | succ places ih =>
      have positive : 0 < 10 ^ places := Nat.pow_pos (by decide)
      rcases List.mem_cons.mp mem with rfl | mem
      · have digit : rest / 10 ^ places < 10 := by
          rw [Nat.div_lt_iff_lt_mul positive, Nat.mul_comm]
          exact below
        rw [Nat.isDigit_digitChar]
        exact decide_eq_true digit
      · exact ih _ (Nat.mod_lt _ positive) mem

theorem mem_of_mem_dropTrailingZeros {c : Char} {digits : List Char}
    (mem : c ∈ dropTrailingZeros digits) : c ∈ digits := by
  have kept := (List.dropWhile_sublist (· == '0')).subset (List.mem_reverse.mp mem)
  exact List.mem_reverse.mp kept

theorem mem_numeral {c : Char} {negative : Bool} {places scaled : Nat}
    (mem : c ∈ numeral negative places scaled) : c.isDigit = true ∨ c = '-' ∨ c = '.' := by
  simp only [numeral, List.mem_append] at mem
  rcases mem with (sign | front) | behind
  · split at sign
    · exact .inr (.inl (List.mem_singleton.mp sign))
    · cases sign
  · exact .inl (Nat.isDigit_of_mem_toDigits (by decide) (by decide) front)
  · split at behind
    · cases behind
    · rcases List.mem_cons.mp behind with point | digit
      · exact .inr (.inr point)
      · exact .inl (isDigit_of_mem_fraction _ _ (Nat.mod_lt _ (Nat.pow_pos (by decide)))
          (mem_of_mem_dropTrailingZeros digit))

end Decimal

namespace Double

theorem mem_operand {c : Char} {x : Double} (mem : c ∈ x.operand.toList) :
    c.isDigit = true ∨ c = '-' ∨ c = '.' ∨ c ∈ ['n', 'a', 'i', 'f'] := by
  cases x with
  | nan =>
      have word : c ∈ ['n', 'a', 'n'] := mem
      simp at word ⊢
      grind
  | infinite negative =>
      have word : c ∈ ['-', 'i', 'n', 'f'] := by
        cases negative with
        | true => exact mem
        | false => exact List.mem_cons_of_mem _ mem
      simp at word ⊢
      grind
  | finite negative units fits =>
      rw [operand, fixed, String.toList_ofList] at mem
      rcases Decimal.mem_numeral mem with digit | sign | point
      · exact .inl digit
      · exact .inr (.inl sign)
      · exact .inr (.inr (.inl point))

end Double

/-! ## Plain decimals -/

/-- Digits, perhaps behind a sign, and perhaps a point with further digits. Zero has no sign. -/
structure PlainDecimal where
  negative : Bool
  front : List Char
  behind : List Char
  front_ne : front ≠ []
  digits : ∀ c ∈ front ++ behind, c.isDigit = true
  sign : negative = true → ∃ c ∈ front ++ behind, c ≠ '0'

def PlainDecimal.text (decimal : PlainDecimal) : String :=
  .ofList ((if decimal.negative then ['-'] else []) ++ decimal.front ++
    if decimal.behind.isEmpty then [] else '.' :: decimal.behind)

namespace Decimal

theorem eq_zero_of_digits {n : Nat} (zeros : ∀ c ∈ digits n, c = '0') : n = 0 := by
  have value : Nat.ofDigitChars 10 (digits n) 0 = n :=
    Nat.ofDigitChars_toDigits (by decide) (by decide)
  rw [← value, List.eq_replicate_of_mem zeros, Nat.ofDigitChars_replicate_zero]
  simp

theorem eq_zero_of_fraction {places rest : Nat} (below : rest < 10 ^ places)
    (zeros : ∀ c ∈ fraction places rest, c = '0') : rest = 0 := by
  induction places generalizing rest with
  | zero => exact Nat.lt_one_iff.mp below
  | succ places ih =>
      rw [fraction, List.forall_mem_cons] at zeros
      have positive : 0 < 10 ^ places := Nat.pow_pos (by decide)
      have first : rest / 10 ^ places = 0 := Nat.digitChar_eq_zero.mp zeros.1
      have small : rest < 10 ^ places := (Nat.div_eq_zero_iff_lt positive).mp first
      apply ih small
      rw [← Nat.mod_eq_of_lt small]
      exact zeros.2

theorem eq_zero_of_dropTrailingZeros {text : List Char}
    (zeros : ∀ c ∈ dropTrailingZeros text, c = '0') : ∀ c ∈ text, c = '0' := by
  intro c mem
  rw [← List.mem_reverse, ← @List.takeWhile_append_dropWhile _ (· == '0') text.reverse,
    List.mem_append] at mem
  rcases mem with dropped | kept
  · exact beq_iff_eq.mp (List.all_eq_true.mp List.all_takeWhile c dropped)
  · exact zeros c (List.mem_reverse.mpr kept)

theorem eq_zero_of_zeros {places scaled : Nat} (zeros : ∀ c ∈ digits (scaled / 10 ^ places) ++
      dropTrailingZeros (fraction places (scaled % 10 ^ places)), c = '0') : scaled = 0 := by
  rw [List.forall_mem_append] at zeros
  have below : scaled % 10 ^ places < 10 ^ places := Nat.mod_lt _ (Nat.pow_pos (by decide))
  have whole := eq_zero_of_digits zeros.1
  have rest := eq_zero_of_fraction below (eq_zero_of_dropTrailingZeros zeros.2)
  rw [← Nat.div_add_mod scaled (10 ^ places), whole, rest]
  rfl

def plain (negative : Bool) (places scaled : Nat) : PlainDecimal where
  negative := negative && scaled != 0
  front := digits (scaled / 10 ^ places)
  behind := dropTrailingZeros (fraction places (scaled % 10 ^ places))
  front_ne := Nat.toDigits_ne_nil
  digits c mem := by
    rcases List.mem_append.mp mem with front | behind
    · exact Nat.isDigit_of_mem_toDigits (by decide) (by decide) front
    · exact isDigit_of_mem_fraction _ _ (Nat.mod_lt _ (Nat.pow_pos (by decide)))
        (mem_of_mem_dropTrailingZeros behind)
  sign signed := by
    by_cases zeros : ∀ c ∈ digits (scaled / 10 ^ places) ++
        dropTrailingZeros (fraction places (scaled % 10 ^ places)), c = '0'
    · rw [eq_zero_of_zeros zeros, Bool.and_eq_true] at signed
      cases signed.2
    · simpa only [Classical.not_forall, exists_prop] using zeros

end Decimal

theorem Double.exists_plainDecimal {x : Double} (finite : x.isFinite = true) :
    ∃ decimal : PlainDecimal, x.operand = decimal.text := by
  cases x with
  | nan => cases finite
  | infinite negative => cases finite
  | finite negative units fits => exact ⟨Decimal.plain _ _ _, rfl⟩

end Millwork
