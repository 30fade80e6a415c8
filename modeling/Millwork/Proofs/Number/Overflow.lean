import Millwork.Number.Basic

namespace Millwork

attribute [local instance (high)] instPowNat

/-- Halfway below an even number a quotient is rounded up to it. -/
theorem nearestQuotient_lt_iff {num den n : Nat} (positive : 0 < den) (even : n % 2 = 0)
    (pos : 0 < n) : nearestQuotient num den < n ↔ 2 * num < (2 * n - 1) * den := by
  have division : num / den * den + num % den = num := by
    rw [Nat.mul_comm]
    exact Nat.div_add_mod num den
  have below : num % den < den := Nat.mod_lt _ positive
  have around := nearestQuotient_cases num den
  -- Only the floor just below `n` is in question; it is odd, so that its half is rounded up.
  rcases Nat.lt_trichotomy (num / den + 1) n with less | same | more
  · have scaled : (num / den + 1) * den ≤ (n - 1) * den := Nat.mul_le_mul_right _ (by omega)
    rw [Nat.add_mul, Nat.one_mul] at scaled
    have double : (2 * n - 1) * den = 2 * ((n - 1) * den) + den := by
      rw [show 2 * n - 1 = 2 * (n - 1) + 1 by omega, Nat.add_mul, Nat.mul_assoc, Nat.one_mul]
    omega
  · have double : (2 * n - 1) * den = 2 * (num / den * den) + den := by
      rw [← same, show 2 * (num / den + 1) - 1 = 2 * (num / den) + 1 by omega, Nat.add_mul,
        Nat.mul_assoc, Nat.one_mul]
    have odd : num / den % 2 = 1 := by omega
    rw [double, nearestQuotient, odd]
    split
    · omega
    · split <;> omega
  · have scaled : n * den ≤ num / den * den := Nat.mul_le_mul_right _ (by omega)
    have double : (2 * n - 1) * den ≤ 2 * (n * den) := by
      rw [← Nat.mul_assoc]
      exact Nat.mul_le_mul_right _ (by omega)
    omega

namespace Double

def halfPlaces : Nat := 970

def halfStep : Nat := 2 ^ (binaryPlaces + halfPlaces)

def overflow : Nat := (2 ^ (54 : Nat) - 1) * halfStep

theorem halfStep_pos : 0 < halfStep := Nat.two_pow_pos _

/-- What is as large is rounded to infinity: half a step below the power of two that is the first
to be out of range. -/
def threshold : Nat := (2 ^ (54 : Nat) - 1) * 2 ^ halfPlaces

private theorem two_pow_eq {k m : Nat} (n : Nat) (sum : k = n + m) : 2 ^ k = 2 ^ n * 2 ^ m := by
  rw [sum, Nat.pow_add]

theorem top_eq : 2 ^ (binaryPlaces + 1023) = 2 ^ (53 : Nat) * halfStep := by
  unfold halfStep
  exact two_pow_eq 53 (by rw [halfPlaces]; omega)

theorem limit_eq : limit = 2 ^ (54 : Nat) * halfStep := by
  unfold limit halfStep
  exact two_pow_eq 54 (by rw [halfPlaces]; omega)

theorem spacing_of_log2 {units : Nat} (log : units.log2 = binaryPlaces + 1023) :
    spacing units = 2 ^ (1 : Nat) * halfStep := by
  unfold spacing halfStep precision
  exact two_pow_eq 1 (by rw [halfPlaces]; omega)

private theorem mul_two_pow_eq (factor places : Nat) :
    factor * 2 ^ (binaryPlaces + places) = factor * 2 ^ places * unitsPerOne := by
  unfold unitsPerOne
  rw [Nat.add_comm, Nat.pow_add, Nat.mul_assoc]

theorem overflow_eq : overflow = threshold * unitsPerOne := by
  unfold overflow threshold halfStep
  exact mul_two_pow_eq _ halfPlaces

theorem two_pow_log2_le_roundUnits {num den : Nat} (large : num / den ≠ 0) :
    2 ^ (num / den).log2 ≤ roundUnits num den := by
  have lower : num / (den * spacing (num / den)) ≤
      nearestQuotient num (den * spacing (num / den)) := by
    rcases nearestQuotient_cases num (den * spacing (num / den)) with same | next <;> omega
  rw [← Nat.div_div_eq_div_mul] at lower
  refine Nat.le_trans ?_ (Nat.mul_le_mul_right _ lower)
  -- The power of two is a multiple of the spacing, and it is not above the quotient.
  have multiple : spacing (num / den) ∣ 2 ^ (num / den).log2 :=
    Nat.pow_dvd_pow 2 (by rw [precision]; omega)
  obtain ⟨k, power⟩ := multiple
  have reached : k ≤ num / den / spacing (num / den) := by
    rw [Nat.le_div_iff_mul_le (spacing_pos _), Nat.mul_comm, ← power]
    exact Nat.log2_self_le large
  rw [power, Nat.mul_comm]
  exact Nat.mul_le_mul_right _ reached

theorem roundUnits_le (num den : Nat) :
    roundUnits num den ≤ num / den + spacing (num / den) := by
  have upper : nearestQuotient num (den * spacing (num / den)) ≤
      num / den / spacing (num / den) + 1 := by
    rw [Nat.div_div_eq_div_mul]
    rcases nearestQuotient_cases num (den * spacing (num / den)) with same | next <;> omega
  calc roundUnits num den
      ≤ (num / den / spacing (num / den) + 1) * spacing (num / den) :=
        Nat.mul_le_mul_right _ upper
    _ = num / den / spacing (num / den) * spacing (num / den) + spacing (num / den) := by
        rw [Nat.add_mul, Nat.one_mul]
    _ ≤ num / den + spacing (num / den) := Nat.add_le_add_right (Nat.div_mul_le_self _ _) _

theorem log2_of_le_of_lt {units : Nat} (lower : 2 ^ (binaryPlaces + 1023) ≤ units)
    (upper : units < limit) : units.log2 = binaryPlaces + 1023 := by
  have nonzero : units ≠ 0 := by
    rintro rfl
    exact absurd lower (Nat.not_le.mpr (Nat.two_pow_pos _))
  have above := (Nat.log2_lt nonzero).mpr upper
  have below := (Nat.le_log2 nonzero).mpr lower
  omega

theorem spacing_le_of_lt {units : Nat} (small : units < 2 ^ (binaryPlaces + 1023)) :
    spacing units ≤ 2 ^ (binaryPlaces + 1023) := by
  refine Nat.pow_le_pow_right Nat.two_pos ?_
  rcases Nat.eq_zero_or_pos units with rfl | positive
  · rw [Nat.log2_zero, precision]
    omega
  · have := (Nat.log2_lt (Nat.pos_iff_ne_zero.mp positive)).mpr small
    rw [precision]
    omega

theorem roundUnits_lt_limit_iff {num den : Nat} (positive : 0 < den) :
    roundUnits num den < limit ↔ num < overflow * den := by
  have step := halfStep_pos
  have lower : num / den * den ≤ num := Nat.div_mul_le_self num den
  have upper : num < (num / den + 1) * den := Nat.lt_mul_of_div_lt (Nat.lt_succ_self _) positive
  rcases Nat.lt_or_ge (num / den) (2 ^ (binaryPlaces + 1023)) with small | notSmall
  · -- Far below the limit nothing is rounded that far.
    have rounded := roundUnits_le num den
    have gap := spacing_le_of_lt small
    rw [top_eq] at small gap
    have reached : (num / den + 1) * den ≤ overflow * den :=
      Nat.mul_le_mul_right _ (by rw [overflow]; omega)
    rw [limit_eq]
    constructor <;> omega
  · rcases Nat.lt_or_ge (num / den) limit with within | beyond
    · -- Among the greatest doubles the limit is an even multiple of the spacing.
      have gap := spacing_of_log2 (log2_of_le_of_lt notSmall within)
      have multiple : limit = 2 ^ (53 : Nat) * (2 ^ (1 : Nat) * halfStep) := by
        rw [limit_eq]
        omega
      rw [roundUnits, gap, multiple, Nat.mul_lt_mul_right (by omega),
        nearestQuotient_lt_iff (Nat.mul_pos positive (by omega)) (by decide) (by decide), overflow,
        Nat.mul_assoc, Nat.mul_left_comm den, Nat.mul_comm den]
      omega
    · -- Beyond the limit nothing is rounded below it.
      clear notSmall
      have large : num / den ≠ 0 := by
        have := limit_pos
        omega
      have rounded := two_pow_log2_le_roundUnits large
      have power : limit ≤ 2 ^ (num / den).log2 :=
        Nat.pow_le_pow_right Nat.two_pos ((Nat.le_log2 large).mpr beyond)
      have reached : overflow * den ≤ num / den * den :=
        Nat.mul_le_mul_right _ (by rw [limit_eq] at beyond; rw [overflow]; omega)
      generalize 2 ^ (num / den).log2 = top at rounded power
      constructor <;> omega

theorem isFinite_nearest_iff {num den : Nat} (negative : Bool) (positive : 0 < den) :
    (nearest negative num den).isFinite = true ↔ num < overflow * den := by
  rw [← roundUnits_lt_limit_iff positive, nearest]
  split
  · rename_i inRange
    exact iff_of_true rfl inRange
  · rename_i beyond
    exact iff_of_false Bool.false_ne_true beyond

theorem isFinite_ofInt_iff (n : Int) : (ofInt n).isFinite = true ↔ n.natAbs < threshold := by
  rw [ofInt, isFinite_nearest_iff _ Nat.one_pos, Nat.mul_one, overflow_eq]
  exact Nat.mul_lt_mul_right unitsPerOne_pos

theorem isFinite_quotient_iff {num den : Nat} (negative : Bool) (positive : 0 < den) :
    (nearest negative (num * unitsPerOne) den).isFinite = true ↔ num < threshold * den := by
  rw [isFinite_nearest_iff negative positive, overflow_eq, Nat.mul_right_comm]
  exact Nat.mul_lt_mul_right unitsPerOne_pos

theorem add_halfStep_le {units : Nat} (fits : Representable units) :
    units + halfStep ≤ overflow := by
  have positive := halfStep_pos
  rcases Nat.lt_or_ge units (2 ^ (binaryPlaces + 1023)) with small | large
  · rw [top_eq] at small
    rw [overflow]
    omega
  · have gap := spacing_of_log2 (log2_of_le_of_lt large fits.2)
    obtain ⟨k, multiple⟩ := fits.1
    have below := fits.2
    rw [limit_eq] at below
    rw [gap] at multiple
    have few : k < 2 ^ (53 : Nat) := by
      apply Nat.lt_of_mul_lt_mul_left (a := 2 ^ (1 : Nat) * halfStep)
      omega
    have next : 2 ^ (1 : Nat) * halfStep * (k + 1) ≤ 2 ^ (1 : Nat) * halfStep * 2 ^ (53 : Nat) :=
      Nat.mul_le_mul_left _ few
    rw [Nat.mul_succ] at next
    clear large
    rw [overflow]
    omega

theorem isFinite_roundPlaces {x : Double} (finite : x.isFinite = true) (places : Nat) :
    (x.roundPlaces places).isFinite = true := by
  cases x with
  | nan => cases finite
  | infinite negative => cases finite
  | finite negative units fits =>
      have scale : 0 < 10 ^ places := Nat.pow_pos (by decide)
      rw [roundPlaces, isFinite_nearest_iff negative scale]
      have near := (nearestQuotient_near (units * 10 ^ places) unitsPerOne unitsPerOne_pos).1
      have one : unitsPerOne ≤ halfStep := by
        unfold unitsPerOne halfStep
        exact Nat.pow_le_pow_right Nat.two_pos (Nat.le_add_right _ _)
      have room : (units + halfStep) * 10 ^ places ≤ overflow * 10 ^ places :=
        Nat.mul_le_mul_right _ (add_halfStep_le fits)
      have step : halfStep ≤ halfStep * 10 ^ places := Nat.le_mul_of_pos_right _ scale
      have positive := halfStep_pos
      rw [Nat.add_mul] at room
      omega

end Double

end Millwork
