import Mathlib.Algebra.Order.Field.Basic
import Mathlib.Algebra.Order.Ring.Rat
import Mathlib.Tactic.FieldSimp
import Mathlib.Tactic.Linarith
import Millwork.Proofs.Number.Operand

namespace Millwork

attribute [local instance (high)] instPowNat

/-! ## Reading -/

namespace Decimal

def magnitude (digits : List Char) (places : Nat) : ℚ :=
  (Nat.ofDigitChars 10 digits 0 : ℚ) / (10 : ℚ) ^ places

def unsigned? (text : List Char) : Option ℚ :=
  let front := text.takeWhile Char.isDigit
  match text.dropWhile Char.isDigit with
  | [] => if front.isEmpty then none else some (magnitude front 0)
  | '.' :: behind =>
    if front.isEmpty || behind.isEmpty || !behind.all Char.isDigit then none
    else some (magnitude (front ++ behind) behind.length)
  | _ => none

def read? (text : String) : Option ℚ :=
  match text.toList with
  | '-' :: rest => (unsigned? rest).map (- ·)
  | rest => unsigned? rest

end Decimal

def PlainDecimal.value (decimal : PlainDecimal) : ℚ :=
  let magnitude := Decimal.magnitude (decimal.front ++ decimal.behind) decimal.behind.length
  if decimal.negative then -magnitude else magnitude

namespace Decimal

theorem unsigned?_text (decimal : PlainDecimal) :
    unsigned? (decimal.front ++ if decimal.behind.isEmpty then [] else '.' :: decimal.behind) =
      some (magnitude (decimal.front ++ decimal.behind) decimal.behind.length) := by
  obtain ⟨front, behind⟩ := List.forall_mem_append.mp decimal.digits
  have nonempty : decimal.front.isEmpty = false := List.isEmpty_eq_false_iff.mpr decimal.front_ne
  rw [unsigned?, List.takeWhile_append_of_pos front, List.dropWhile_append_of_pos front]
  cases places : decimal.behind with
  | nil => simp [nonempty]
  | cons c rest =>
      rw [places] at behind
      have all : (c :: rest).all Char.isDigit = true := List.all_eq_true.mpr behind
      have point : '.'.isDigit = false := rfl
      simp [nonempty, all, point]

theorem read?_text (decimal : PlainDecimal) : read? decimal.text = some decimal.value := by
  have read := unsigned?_text decimal
  rw [read?, PlainDecimal.text, String.toList_ofList, PlainDecimal.value]
  cases negative : decimal.negative with
  | true => simpa [List.append_assoc] using read
  | false =>
      -- The text starts with a digit, which is no sign.
      obtain ⟨c, rest, front⟩ := List.exists_cons_of_ne_nil decimal.front_ne
      have digit : c.isDigit = true := decimal.digits c (by simp [front])
      have unsigned : c ≠ '-' := by
        rintro rfl
        cases digit
      rw [front] at read ⊢
      simpa [unsigned] using read

/-! ## Writing -/

theorem length_fraction (places rest : Nat) : (fraction places rest).length = places := by
  induction places generalizing rest with
  | zero => rfl
  | succ places ih => rw [fraction, List.length_cons, ih]

theorem ofDigitChars_fraction {places rest : Nat} (below : rest < 10 ^ places) :
    Nat.ofDigitChars 10 (fraction places rest) 0 = rest := by
  induction places generalizing rest with
  | zero => exact (Nat.lt_one_iff.mp below).symm
  | succ places ih =>
      have positive : 0 < 10 ^ places := Nat.pow_pos (by decide)
      have digit : rest / 10 ^ places < 10 := by
        rw [Nat.div_lt_iff_lt_mul positive, Nat.mul_comm]
        exact below
      rw [fraction, Nat.ofDigitChars_cons_digitChar_of_lt_ten digit,
        Nat.ofDigitChars_eq_ofDigitChars_zero, length_fraction, ih (Nat.mod_lt _ positive)]
      rw [Nat.mul_zero, Nat.zero_add]
      exact Nat.div_add_mod _ _

theorem eq_dropTrailingZeros_append (text : List Char) :
    ∃ zeros, text = dropTrailingZeros text ++ List.replicate zeros '0' := by
  have split := @List.takeWhile_append_dropWhile _ (· == '0') text.reverse
  have zeros : text.reverse.takeWhile (· == '0') =
      List.replicate (text.reverse.takeWhile (· == '0')).length '0' := by
    rw [List.eq_replicate_iff]
    refine ⟨rfl, fun c mem => ?_⟩
    exact beq_iff_eq.mp (List.all_eq_true.mp List.all_takeWhile c mem)
  refine ⟨(text.reverse.takeWhile (· == '0')).length, ?_⟩
  rw [dropTrailingZeros, ← List.reverse_replicate, ← zeros, ← List.reverse_append, split,
    List.reverse_reverse]

theorem magnitude_replicate_zero (digits : List Char) (places zeros : Nat) :
    magnitude (digits ++ List.replicate zeros '0') (places + zeros) = magnitude digits places := by
  have scaled : (0 : ℚ) < 10 ^ zeros := by positivity
  rw [magnitude, magnitude, Nat.ofDigitChars_append, Nat.ofDigitChars_replicate_zero,
    pow_add (10 : ℚ), Nat.cast_mul, Nat.cast_pow, mul_comm]
  exact mul_div_mul_right _ _ scaled.ne'

theorem magnitude_plain (negative : Bool) (places scaled : Nat) :
    magnitude ((plain negative places scaled).front ++ (plain negative places scaled).behind)
      (plain negative places scaled).behind.length = (scaled : ℚ) / (10 : ℚ) ^ places := by
  have below : scaled % 10 ^ places < 10 ^ places := Nat.mod_lt _ (Nat.pow_pos (by decide))
  have whole : Nat.ofDigitChars 10 (plain negative places scaled).front 0 = scaled / 10 ^ places :=
    Nat.ofDigitChars_ten_toDigits
  obtain ⟨zeros, split⟩ : ∃ zeros, fraction places (scaled % 10 ^ places) =
      (plain negative places scaled).behind ++ List.replicate zeros '0' :=
    eq_dropTrailingZeros_append _
  have length := congrArg List.length split
  rw [length_fraction, List.length_append, List.length_replicate] at length
  -- With its zeros put back the fraction has all of its places.
  rw [← magnitude_replicate_zero _ _ zeros, List.append_assoc, ← split, ← length, magnitude,
    Nat.ofDigitChars_append, whole, Nat.ofDigitChars_eq_ofDigitChars_zero, length_fraction,
    ofDigitChars_fraction below, Nat.div_add_mod]

theorem value_plain (negative : Bool) (places scaled : Nat) :
    (plain negative places scaled).value =
      (if negative then -(scaled : ℚ) else scaled) / (10 : ℚ) ^ places := by
  rw [PlainDecimal.value, magnitude_plain, plain]
  by_cases zero : scaled = 0
  · cases negative <;> simp [zero]
  · cases negative <;> simp [zero, neg_div]

end Decimal

/-! ## Doubles -/

theorem nearestQuotient_pos_iff {num den : Nat} (positive : 0 < den) :
    0 < nearestQuotient num den ↔ den < 2 * num := by
  rcases Nat.lt_or_ge num den with less | more
  · have division : num / den = 0 := Nat.div_eq_of_lt less
    have rest : num % den = num := Nat.mod_eq_of_lt less
    simp only [nearestQuotient, division, rest]
    split
    · omega
    · split <;> omega
  · have division : 1 ≤ num / den := (Nat.one_le_div_iff positive).mpr more
    rcases nearestQuotient_cases num den with same | next <;> omega

theorem abs_nearestQuotient_sub_le (num : Nat) {den : Nat} (positive : 0 < den) :
    |(nearestQuotient num den : ℚ) - (num : ℚ) / (den : ℚ)| ≤ 1 / 2 := by
  have scale : (0 : ℚ) < den := Nat.cast_pos.mpr positive
  obtain ⟨upper, lower⟩ := nearestQuotient_near num den positive
  have upper : 2 * ((nearestQuotient num den : ℚ) * den) ≤ 2 * num + den := by exact_mod_cast upper
  have lower : 2 * (num : ℚ) ≤ 2 * ((nearestQuotient num den : ℚ) * den) + den := by
    exact_mod_cast lower
  have split : (nearestQuotient num den : ℚ) - num / den =
      ((nearestQuotient num den : ℚ) * den - num) / den := by
    field_simp
  rw [split, abs_div, abs_of_pos scale, div_le_iff₀ scale, abs_le]
  constructor <;> linarith

namespace Double

theorem unitsPerOne_cast_pos : (0 : ℚ) < unitsPerOne := Nat.cast_pos.mpr unitsPerOne_pos

theorem unitsPerOne_cast_ne : (unitsPerOne : ℚ) ≠ 0 := unitsPerOne_cast_pos.ne'

def value : Double → ℚ
  | finite negative units _ => (signed negative units : ℚ) / (unitsPerOne : ℚ)
  | _ => 0

theorem read?_fixed (places : Nat) (negative : Bool) (units : Nat) (fits : Representable units) :
    Decimal.read? ((finite negative units fits).fixed places) =
      some ((signed negative (nearestQuotient (units * 10 ^ places) unitsPerOne) : ℚ) /
        (10 : ℚ) ^ places) := by
  have read := Decimal.read?_text
    (Decimal.plain negative places (nearestQuotient (units * 10 ^ places) unitsPerOne))
  rw [Decimal.value_plain] at read
  refine read.trans ?_
  generalize nearestQuotient (units * 10 ^ places) unitsPerOne = rounded
  cases negative <;> simp [signed]

theorem abs_fixed_sub_value_le (places : Nat) (negative : Bool) {units : Nat}
    (fits : Representable units) :
    |(signed negative (nearestQuotient (units * 10 ^ places) unitsPerOne) : ℚ) /
      (10 : ℚ) ^ places - (finite negative units fits).value| ≤ 1 / 2 / (10 : ℚ) ^ places := by
  have near := abs_nearestQuotient_sub_le (units * 10 ^ places) unitsPerOne_pos
  change |(nearestQuotient (units * 10 ^ places) unitsPerOne : ℚ) - _ / (unitsPerOne : ℚ)| ≤ _
    at near
  generalize nearestQuotient (units * 10 ^ places) unitsPerOne = rounded at near ⊢
  rw [Nat.cast_mul, Nat.cast_pow, Nat.cast_ofNat] at near
  have scale : (0 : ℚ) < 10 ^ places := by positivity
  have same : (rounded : ℚ) / 10 ^ places - (units : ℚ) / (unitsPerOne : ℚ) =
      ((rounded : ℚ) - units * 10 ^ places / (unitsPerOne : ℚ)) / 10 ^ places := by
    rw [sub_div, mul_div_right_comm, mul_div_cancel_right₀ _ scale.ne']
  have magnitude : |(rounded : ℚ) / 10 ^ places - (units : ℚ) / (unitsPerOne : ℚ)| ≤
      1 / 2 / 10 ^ places := by
    rw [same, abs_div, abs_of_pos scale]
    exact div_le_div_of_nonneg_right near scale.le
  cases negative with
  | false => exact magnitude
  | true =>
      rw [value, signed, signed, if_pos rfl, if_pos rfl, Int.cast_neg, Int.cast_neg, neg_div,
        neg_div, neg_sub_neg, abs_sub_comm]
      exact magnitude

end Double

namespace Number

def value : Number → ℚ
  | whole n => n
  | double x => x.value

end Number

end Millwork
