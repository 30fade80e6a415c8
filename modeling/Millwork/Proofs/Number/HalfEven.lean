import Mathlib.Data.Rat.Floor
import Millwork.Proofs.Number.Decimal

namespace Millwork

attribute [local instance (high)] instPowNat

def halfEven (q : ℚ) : ℤ :=
  if q - ⌊q⌋ < 1 / 2 then ⌊q⌋
  else if 1 / 2 < q - ⌊q⌋ then ⌊q⌋ + 1
  else ⌊q⌋ + ⌊q⌋ % 2

def NearestEven (n : ℤ) (q : ℚ) : Prop := |n - q| ≤ 1 / 2 ∧ (|n - q| = 1 / 2 → n % 2 = 0)

theorem halfEven_near (q : ℚ) : NearestEven (halfEven q) q := by
  have lower := Int.floor_le q
  have upper := Int.lt_floor_add_one q
  rw [halfEven]
  split
  · rename_i below
    have near : |(⌊q⌋ : ℚ) - q| < 1 / 2 := by
      rw [abs_lt]
      constructor <;> linarith
    exact ⟨near.le, fun tie => absurd tie near.ne⟩
  · split
    · rename_i above
      have near : |((⌊q⌋ + 1 : ℤ) : ℚ) - q| < 1 / 2 := by
        push_cast
        rw [abs_lt]
        constructor <;> linarith
      exact ⟨near.le, fun tie => absurd tie near.ne⟩
    · refine ⟨?_, fun _ => by omega⟩
      have parity : ⌊q⌋ % 2 = 0 ∨ ⌊q⌋ % 2 = 1 := by omega
      rcases parity with even | odd
      · rw [even, abs_le]
        push_cast
        constructor <;> linarith
      · rw [odd, abs_le]
        push_cast
        constructor <;> linarith

theorem halfEven_eq_of_near {n : ℤ} {q : ℚ} (near : NearestEven n q) : halfEven q = n := by
  obtain ⟨within, even⟩ := halfEven_near q
  obtain ⟨within', even'⟩ := near
  have apart : |((halfEven q - n : ℤ) : ℚ)| ≤ |halfEven q - q| + |n - q| := by
    push_cast
    rw [abs_sub_comm (n : ℚ)]
    exact abs_sub_le _ _ _
  have bound : |halfEven q - n| ≤ 1 := by
    have : |((halfEven q - n : ℤ) : ℚ)| ≤ 1 := by linarith
    exact_mod_cast this
  by_contra different
  -- Two that are one apart are both in the middle, so both are even.
  have one : |halfEven q - n| = 1 := by
    have := abs_pos.mpr (sub_ne_zero.mpr different)
    omega
  have one' : |((halfEven q - n : ℤ) : ℚ)| = 1 := by exact_mod_cast one
  have first := even (by linarith)
  have second := even' (by linarith)
  rcases abs_eq (by norm_num) |>.mp one with up | down <;> omega

theorem abs_halfEven_sub_le (q : ℚ) (n : ℤ) : |(halfEven q : ℚ) - q| ≤ |(n : ℚ) - q| := by
  have near := (halfEven_near q).1
  rcases eq_or_ne n (halfEven q) with rfl | other
  · exact le_rfl
  · have step : (1 : ℚ) ≤ |(n : ℚ) - halfEven q| := by
      exact_mod_cast Int.one_le_abs (sub_ne_zero.mpr other)
    have apart := abs_sub_le (n : ℚ) q (halfEven q)
    rw [abs_sub_comm q] at apart
    linarith

theorem halfEven_intCast (n : ℤ) : halfEven (n : ℚ) = n :=
  halfEven_eq_of_near ⟨by simp, by simp⟩

theorem halfEven_neg (q : ℚ) : halfEven (-q) = -halfEven q := by
  have mirrored : |((-halfEven q : ℤ) : ℚ) - -q| = |halfEven q - q| := by
    push_cast
    rw [neg_sub_neg, abs_sub_comm]
  obtain ⟨within, even⟩ := halfEven_near q
  refine halfEven_eq_of_near ⟨mirrored ▸ within, fun tie => ?_⟩
  have := even (mirrored ▸ tie)
  omega

theorem halfEven_mono {q r : ℚ} (le : q ≤ r) : halfEven q ≤ halfEven r := by
  obtain ⟨near, even⟩ := halfEven_near q
  obtain ⟨near', even'⟩ := halfEven_near r
  rw [abs_le] at near near'
  by_contra less
  -- The number between them is in the middle of both.
  have step : (halfEven r : ℚ) + 1 ≤ halfEven q := by exact_mod_cast Int.not_le.mp less
  have same : q = r := by linarith
  exact less (same ▸ le_refl _)

/-- Halfway above an even number is rounded down to it. -/
theorem halfEven_le_iff {q : ℚ} {n : ℤ} (even : n % 2 = 0) : halfEven q ≤ n ↔ q ≤ n + 1 / 2 := by
  obtain ⟨near, tie⟩ := halfEven_near q
  constructor
  · intro le
    have le : (halfEven q : ℚ) ≤ n := by exact_mod_cast le
    linarith [(abs_le.mp near).1]
  · intro le
    by_contra more
    have more : n + 1 ≤ halfEven q := Int.not_le.mp more
    have step : (n : ℚ) + 1 ≤ halfEven q := by exact_mod_cast more
    have middle : |halfEven q - q| = 1 / 2 := by
      refine le_antisymm near (le_trans ?_ (le_abs_self _))
      linarith
    have upper := (abs_le.mp near).2
    have next : (halfEven q : ℚ) < (n + 2 : ℤ) := by
      push_cast
      linarith
    have next : halfEven q < n + 2 := by exact_mod_cast next
    have := tie middle
    omega

/-! ## Quotients of whole numbers -/

theorem halfEven_div (num : ℕ) {den : ℕ} (positive : 0 < den) :
    halfEven ((num : ℚ) / den) = nearestQuotient num den := by
  have scale : (0 : ℚ) < den := Nat.cast_pos.mpr positive
  have whole : ⌊(num : ℚ) / den⌋ = (num / den : ℕ) := Rat.floor_natCast_div_natCast num den
  have rest : (num : ℚ) / den - ⌊(num : ℚ) / den⌋ = (num % den : ℕ) / den := by
    have division : (num : ℚ) = den * (num / den : ℕ) + (num % den : ℕ) := by
      exact_mod_cast (Nat.div_add_mod num den).symm
    rw [whole, Int.cast_natCast, eq_div_iff scale.ne', sub_mul, div_mul_cancel₀ _ scale.ne']
    linarith
  have below : ((num % den : ℕ) : ℚ) / den < 1 / 2 ↔ 2 * (num % den) < den := by
    rw [div_lt_div_iff₀ scale two_pos, one_mul, mul_comm]
    exact_mod_cast Iff.rfl
  have above : 1 / 2 < ((num % den : ℕ) : ℚ) / den ↔ den < 2 * (num % den) := by
    rw [div_lt_div_iff₀ two_pos scale, one_mul, mul_comm]
    exact_mod_cast Iff.rfl
  rw [halfEven, rest, whole, nearestQuotient]
  simp only [below, above]
  split_ifs <;> push_cast <;> rfl

theorem halfEven_signed (negative : Bool) (num : ℕ) {den : ℕ} (positive : 0 < den) :
    halfEven ((Double.signed negative num : ℚ) / den) =
      Double.signed negative (nearestQuotient num den) := by
  have plain := halfEven_div num positive
  cases negative with
  | false => exact plain
  | true =>
      rw [Double.signed, Double.signed, if_pos rfl, if_pos rfl, Int.cast_neg, neg_div, halfEven_neg,
        Int.cast_natCast, plain]

/-! ## Decimal places -/

namespace Decimal

def rounded (places : ℕ) (q : ℚ) : ℚ := halfEven (q * 10 ^ places) / 10 ^ places

theorem abs_rounded_sub (places : ℕ) (q r : ℚ) :
    |rounded places q - r| = |halfEven (q * 10 ^ places) - r * 10 ^ places| / 10 ^ places := by
  have scale : (0 : ℚ) < 10 ^ places := by positivity
  have same : rounded places q - r =
      (halfEven (q * 10 ^ places) - r * 10 ^ places) / 10 ^ places := by
    rw [rounded, sub_div, mul_div_cancel_right₀ _ scale.ne']
  rw [same, abs_div, abs_of_pos scale]

theorem abs_rounded_sub_le (places : ℕ) (q : ℚ) :
    |rounded places q - q| ≤ 1 / 2 / 10 ^ places := by
  have scale : (0 : ℚ) < 10 ^ places := by positivity
  rw [abs_rounded_sub]
  exact div_le_div_of_nonneg_right (halfEven_near _).1 scale.le

theorem rounded_mono {places : ℕ} {q r : ℚ} (le : q ≤ r) : rounded places q ≤ rounded places r := by
  have scale : (0 : ℚ) < 10 ^ places := by positivity
  refine div_le_div_of_nonneg_right ?_ scale.le
  exact Int.cast_le.mpr (halfEven_mono (mul_le_mul_of_nonneg_right le scale.le))

theorem rounded_zero (places : ℕ) : rounded places 0 = 0 := by
  rw [rounded, zero_mul, ← Int.cast_zero, halfEven_intCast, Int.cast_zero, zero_div]

theorem rounded_eq_iff {places : ℕ} {q r : ℚ} : rounded places q = rounded places r ↔
    halfEven (q * 10 ^ places) = halfEven (r * 10 ^ places) := by
  have scale : (10 : ℚ) ^ places ≠ 0 := by positivity
  rw [rounded, rounded, div_left_inj' scale, Int.cast_inj]

theorem rounded_rounded (places : ℕ) (q : ℚ) :
    rounded places (rounded places q) = rounded places q := by
  have scale : (10 : ℚ) ^ places ≠ 0 := by positivity
  rw [rounded_eq_iff, rounded, div_mul_cancel₀ _ scale, halfEven_intCast]

theorem rounded_le_iff {places : ℕ} (nonzero : places ≠ 0) {q : ℚ} {n : ℤ} :
    rounded places q ≤ n ↔ q ≤ n + 1 / 2 / 10 ^ places := by
  have scale : (0 : ℚ) < 10 ^ places := by positivity
  have even : n * 10 ^ places % 2 = 0 := by
    have ten : Even (10 : ℤ) := by decide
    exact Int.even_iff.mp ((ten.pow_of_ne_zero nonzero).mul_left n)
  have scaled : ((n * 10 ^ places : ℤ) : ℚ) = n * 10 ^ places := by push_cast; rfl
  rw [rounded, div_le_iff₀ scale, ← scaled, Int.cast_le, halfEven_le_iff even, scaled,
    ← mul_le_mul_iff_left₀ scale (b := q), add_mul, div_mul_cancel₀ _ scale.ne']

end Decimal

namespace Double

theorem signed_natAbs (n : ℤ) : signed (n < 0) n.natAbs = n := by
  rw [signed]
  split
  · rename_i below
    rw [Int.ofNat_natAbs_of_nonpos (of_decide_eq_true below).le, Int.neg_neg]
  · rename_i above
    exact Int.natAbs_of_nonneg (by simpa using above)

theorem signed_mul (negative : Bool) (m n : ℕ) :
    signed negative (m * n) = signed negative m * n := by
  cases negative <;> simp [signed]

theorem scaled_value (places : ℕ) (negative : Bool) {units : ℕ} (fits : Representable units) :
    (finite negative units fits).value * 10 ^ places =
      (signed negative (units * 10 ^ places) : ℚ) / unitsPerOne := by
  rw [value, div_mul_eq_mul_div, signed_mul]
  push_cast
  rfl

theorem halfEven_value (places : ℕ) (negative : Bool) {units : ℕ} (fits : Representable units) :
    halfEven ((finite negative units fits).value * 10 ^ places) =
      signed negative (nearestQuotient (units * 10 ^ places) unitsPerOne) := by
  rw [scaled_value, halfEven_signed _ _ unitsPerOne_pos]

theorem read?_fixed_eq {x : Double} (finite : x.isFinite = true) (places : ℕ) :
    Decimal.read? (x.fixed places) = some (Decimal.rounded places x.value) := by
  cases x with
  | nan => cases finite
  | infinite negative => cases finite
  | finite negative units fits =>
      rw [read?_fixed, Decimal.rounded, halfEven_value]

end Double

end Millwork
