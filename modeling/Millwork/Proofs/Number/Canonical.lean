import Millwork.Proofs.Number.Nearest

namespace Millwork

attribute [local instance (high)] instPowNat

/-- No zero stands in front of other digits, none ends the places, and a point has digits behind
it. -/
structure PlainDecimal.Canonical (decimal : PlainDecimal) (places : ℕ) : Prop where
  front : decimal.front = ['0'] ∨ decimal.front.head? ≠ some '0'
  behind : decimal.behind.getLast? ≠ some '0'
  places : decimal.behind.length ≤ places

namespace Decimal

theorem head_digits {n : ℕ} (nonzero : n ≠ 0) : (digits n).head? ≠ some '0' := by
  induction n using Nat.strongRecOn with
  | ind n ih =>
      rw [digits]
      rcases Nat.lt_or_ge n 10 with single | more
      · rw [Nat.toDigits_of_lt_base single, List.head?_singleton]
        exact fun zero => nonzero (Nat.digitChar_eq_zero.mp (Option.some.inj zero))
      · have front := ih (n / 10) (by omega) (by omega)
        rw [Nat.toDigits_of_base_le (by decide) more,
          List.head?_append_of_ne_nil _ Nat.toDigits_ne_nil]
        exact front

theorem front_digits (n : ℕ) : digits n = ['0'] ∨ (digits n).head? ≠ some '0' := by
  rcases Nat.eq_zero_or_pos n with rfl | positive
  · exact .inl rfl
  · exact .inr (head_digits positive.ne')

theorem getLast?_dropTrailingZeros (text : List Char) :
    (dropTrailingZeros text).getLast? ≠ some '0' := by
  have first := List.head?_dropWhile_not (· == '0') text.reverse
  rw [dropTrailingZeros, List.getLast?_reverse]
  intro zero
  rw [zero] at first
  cases first

theorem length_dropTrailingZeros_le (text : List Char) :
    (dropTrailingZeros text).length ≤ text.length := by
  rw [dropTrailingZeros, List.length_reverse, ← text.length_reverse]
  exact (List.dropWhile_sublist _).length_le

theorem canonical_plain (negative : Bool) (places scaled : ℕ) :
    (plain negative places scaled).Canonical places where
  front := front_digits _
  behind := getLast?_dropTrailingZeros _
  places := (length_dropTrailingZeros_le _).trans (length_fraction _ _).le

/-! ## Exact numbers -/

def written (places : ℕ) (q : ℚ) : String :=
  let scaled := halfEven (q * 10 ^ places)
  .ofList (numeral (scaled < 0) places scaled.natAbs)

theorem written_eq_text (places : ℕ) (q : ℚ) : ∃ decimal : PlainDecimal,
    decimal.Canonical places ∧ written places q = decimal.text :=
  ⟨_, canonical_plain _ _ _, rfl⟩

theorem read?_written (places : ℕ) (q : ℚ) :
    read? (written places q) = some (rounded places q) := by
  have read := read?_text (plain (halfEven (q * 10 ^ places) < 0) places
    (halfEven (q * 10 ^ places)).natAbs)
  rw [value_plain] at read
  refine read.trans (congrArg some ?_)
  rw [rounded, Nat.cast_natAbs]
  rcases lt_or_ge (halfEven (q * 10 ^ places)) 0 with negative | nonneg
  · rw [decide_eq_true negative, if_pos rfl, abs_of_neg negative, Int.cast_neg, neg_neg]
  · rw [decide_eq_false (not_lt.mpr nonneg), if_neg Bool.false_ne_true, abs_of_nonneg nonneg]

theorem written_eq_iff {places : ℕ} {q r : ℚ} :
    written places q = written places r ↔ rounded places q = rounded places r := by
  constructor
  · intro same
    have read := read?_written places q
    rw [same, read?_written] at read
    exact (Option.some.inj read).symm
  · intro same
    rw [written, rounded_eq_iff.mp same, written]

theorem written_ne_signed_zero (places : ℕ) (q : ℚ) : written places q ≠ "-0" := by
  intro same
  have read := read?_written places q
  have zero : read? "-0" = some 0 := by decide +kernel
  rw [same, zero, ← rounded_zero places] at read
  -- What is rounded to zero is written as zero is, and that starts with a digit.
  rw [← written_eq_iff.mpr (Option.some.inj read), written, zero_mul, ← Int.cast_zero,
    halfEven_intCast, ← String.toList_inj, String.toList_ofList, numeral, Int.natAbs_zero,
    Nat.zero_div] at same
  cases same

end Decimal

/-! ## Doubles -/

namespace Double

theorem fixed_eq_written {x : Double} (finite : x.isFinite = true) (places : ℕ) :
    x.fixed places = Decimal.written places x.value := by
  cases x with
  | nan => cases finite
  | infinite negative => cases finite
  | finite negative units fits =>
      rw [fixed, Decimal.written, halfEven_value, natAbs_signed]
      generalize nearestQuotient (units * 10 ^ places) unitsPerOne = scaled
      have sign : (negative && scaled != 0) =
          (decide (signed negative scaled < 0) && scaled != 0) := by
        cases negative <;> by_cases zero : scaled = 0 <;> simp [signed, zero]
        omega
      simp only [Decimal.numeral, sign]

theorem fixed_eq_of_abs_le {x y : Double} (finite : x.isFinite = true) (finite' : y.isFinite = true)
    {places : ℕ} (near : |y.value - Decimal.rounded places x.value| ≤
      |x.value - Decimal.rounded places x.value|) :
    y.fixed places = x.fixed places := by
  have scale : (0 : ℚ) < 10 ^ places := by positivity
  obtain ⟨within, even⟩ := halfEven_near (x.value * 10 ^ places)
  rw [abs_sub_comm, abs_sub_comm x.value, Decimal.abs_rounded_sub, Decimal.abs_rounded_sub,
    div_le_div_iff_of_pos_right scale] at near
  rw [fixed_eq_written finite', fixed_eq_written finite, Decimal.written_eq_iff,
    Decimal.rounded_eq_iff]
  exact halfEven_eq_of_near ⟨near.trans within, fun tie => even (le_antisymm within (tie ▸ near))⟩

end Double

/-! ## Numbers of a job -/

structure Number.WrittenAs (a : Number) (places : ℕ) (text : String) : Prop where
  written : text = Decimal.written places a.toDouble.value
  canonical : ∃ decimal : PlainDecimal, decimal.Canonical places ∧ text = decimal.text
  unsigned : text ≠ "-0"
  value : Decimal.read? text = some (Decimal.rounded places a.toDouble.value)
  near : |Decimal.rounded places a.toDouble.value - a.toDouble.value| ≤ 1 / 2 / 10 ^ places
  /-- The number that is written is written so itself. -/
  settled : ∀ value ∈ Decimal.read? text, Decimal.written places value = text
  /-- So is every double that is no farther from it than the number was. -/
  stable : ∀ y : Double, y.isFinite = true → (∀ value ∈ Decimal.read? text,
    |y.value - value| ≤ |a.toDouble.value - value|) → y.fixed places = text

namespace Number

theorem fixed?_ok {a : Number} (finite : a.isFinite = true) (places : ℕ) :
    a.fixed? places = .ok (a.toDouble.fixed places) := by
  rw [fixed?, toDouble?_of_isFinite finite]
  rfl

theorem writtenAs_fixed {a : Number} (finite : a.isFinite = true) (places : ℕ) :
    a.WrittenAs places (a.toDouble.fixed places) := by
  have finite : a.toDouble.isFinite = true := finite
  have value := Double.read?_fixed_eq finite places
  have same := Double.fixed_eq_written finite places
  refine ⟨same, same ▸ Decimal.written_eq_text _ _, same ▸ Decimal.written_ne_signed_zero _ _,
    value, Decimal.abs_rounded_sub_le _ _, fun v read => ?_, fun y finite' closer => ?_⟩
  · cases value.symm.trans read
    rw [same, Decimal.written_eq_iff, Decimal.rounded_rounded]
  · exact Double.fixed_eq_of_abs_le finite finite' (closer _ value)

/-- The texts of two numbers are ordered as the numbers are, and differ unless these are rounded to
the same. -/
theorem fixed?_canonical (places : ℕ) {a b : Number} (finite : a.isFinite = true)
    (finite' : b.isFinite = true) :
    ∃ text text', a.fixed? places = .ok text ∧ b.fixed? places = .ok text' ∧
      a.WrittenAs places text ∧ b.WrittenAs places text' ∧
      (a ≤ b → ∀ v ∈ Decimal.read? text, ∀ w ∈ Decimal.read? text', v ≤ w) ∧
      (text = text' ↔
        Decimal.rounded places a.toDouble.value = Decimal.rounded places b.toDouble.value) := by
  have written := writtenAs_fixed finite places
  have written' := writtenAs_fixed finite' places
  refine ⟨_, _, fixed?_ok finite places, fixed?_ok finite' places, written, written', ?_, ?_⟩
  · intro le v read w read'
    cases written.value.symm.trans read
    cases written'.value.symm.trans read'
    exact Decimal.rounded_mono (toDouble_mono finite finite' le)
  · have finite : a.toDouble.isFinite = true := finite
    have finite' : b.toDouble.isFinite = true := finite'
    rw [Double.fixed_eq_written finite, Double.fixed_eq_written finite', Decimal.written_eq_iff]

/-- A half goes to the even neighbour, and zero has no sign. -/
theorem fixed?_canonical_of_halves :
    let a : Number := .double (.ofDecimal true 5 (-1))
    let b : Number := .double (.ofDecimal false 25 (-1))
    (a.isFinite = true ∧ b.isFinite = true) ∧ (a.fixed? 0 = .ok "0" ∧ b.fixed? 0 = .ok "2") ∧
      ∃ text text', a.fixed? 0 = .ok text ∧ b.fixed? 0 = .ok text' ∧
        a.WrittenAs 0 text ∧ b.WrittenAs 0 text' ∧
        (a ≤ b → ∀ v ∈ Decimal.read? text, ∀ w ∈ Decimal.read? text', v ≤ w) ∧
        (text = text' ↔
          Decimal.rounded 0 a.toDouble.value = Decimal.rounded 0 b.toDouble.value) :=
  ⟨by decide +kernel, by decide +kernel,
    fixed?_canonical 0 (by decide +kernel) (by decide +kernel)⟩

end Number

end Millwork
