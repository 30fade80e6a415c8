import Millwork.Proofs.Number.Overflow

namespace Millwork

attribute [local instance (high)] instPowNat

namespace Double

theorem isFinite_neg (x : Double) : (-x).isFinite = x.isFinite := by
  cases x <;> rfl

/-- Neither the greatest finite number nor its opposite is moved out of range by so little. -/
def IsSmall (x : Double) : Prop := ∃ negative n fits, x = .finite negative n fits ∧ n < halfStep

theorem isSmall_ofInt {n : Nat} (small : n < 2 ^ precision) : IsSmall (ofInt n) := by
  refine ⟨false, _, _, ofInt_natCast (Nat.le_of_lt small), ?_⟩
  have places : precision ≤ halfPlaces := by
    rw [precision, halfPlaces]
    omega
  have less : n < 2 ^ halfPlaces :=
    Nat.lt_of_lt_of_le small (Nat.pow_le_pow_right Nat.two_pos places)
  have step : halfStep = 2 ^ halfPlaces * unitsPerOne := by
    unfold halfStep unitsPerOne
    rw [Nat.add_comm, Nat.pow_add]
  rw [step]
  generalize 2 ^ halfPlaces = bound at less
  exact Nat.mul_lt_mul_of_pos_right less unitsPerOne_pos

theorem natAbs_signed (negative : Bool) (units : Nat) : (signed negative units).natAbs = units := by
  cases negative
  · rfl
  · exact Int.natAbs_neg units

theorem isFinite_add {x y : Double} (finite : x.isFinite = true) (small : y.IsSmall) :
    (x + y).isFinite = true := by
  obtain ⟨negative', n, fits', rfl, less⟩ := small
  cases x with
  | nan => cases finite
  | infinite negative => cases finite
  | finite negative m fits =>
      change (if signed negative m + signed negative' n = 0 then zero (negative && negative')
        else nearest _ (signed negative m + signed negative' n).natAbs 1).isFinite = true
      split
      · rfl
      · rw [isFinite_nearest_iff _ Nat.one_pos, Nat.mul_one]
        have sum := Int.natAbs_add_le (signed negative m) (signed negative' n)
        rw [natAbs_signed, natAbs_signed] at sum
        have room := add_halfStep_le fits
        omega

theorem finite_mul_finite (a b : Bool) {m n : Nat} (fits : Representable m)
    (fits' : Representable n) :
    finite a m fits * finite b n fits' = nearest (a != b) (m * n) unitsPerOne := by
  change mul _ _ = _
  rw [mul]

theorem infinite_mul_finite (a b : Bool) {n : Nat} (fits : Representable n) (nonzero : n ≠ 0) :
    infinite a * finite b n fits = infinite (a != b) := by
  change mul _ _ = _
  rw [mul, if_neg nonzero]

end Double

namespace Number

theorem isFinite_neg (a : Number) : (-a).isFinite = a.isFinite := by
  cases a with
  | whole n =>
      rw [Bool.eq_iff_iff]
      change (Double.ofInt (-n)).isFinite = true ↔ (Double.ofInt n).isFinite = true
      rw [Double.isFinite_ofInt_iff, Double.isFinite_ofInt_iff, Int.natAbs_neg]
  | double x => exact x.isFinite_neg

/-! ## Lengths on the line of numbers -/

/-- Defined and not below zero, but perhaps out of range. -/
def IsLength (a : Number) : Prop :=
  a.place? = some .top ∨ ∃ n, a.place? = some (.units n) ∧ 0 ≤ n

theorem exists_place_of_isFinite {a : Number} (finite : a.isFinite = true) :
    ∃ n, a.place? = some (.units n) ∧ n.natAbs < Double.overflow := by
  cases a with
  | whole n =>
      refine ⟨_, rfl, ?_⟩
      have less : n.natAbs < Double.threshold := (Double.isFinite_ofInt_iff n).mp finite
      rw [Int.natAbs_mul, Int.natAbs_natCast, Double.overflow_eq]
      exact Nat.mul_lt_mul_of_pos_right less Double.unitsPerOne_pos
  | double x =>
      cases x with
      | nan => cases finite
      | infinite negative => cases finite
      | finite negative units fits =>
          refine ⟨_, rfl, ?_⟩
          rw [Double.natAbs_signed]
          have room := Double.add_halfStep_le fits
          have step := Double.halfStep_pos
          omega

theorem isFinite_of_place {a : Number} {n : Int} (place : a.place? = some (.units n))
    (bound : n.natAbs < Double.overflow) : a.isFinite = true := by
  cases a with
  | whole m =>
      cases place
      rw [Int.natAbs_mul, Int.natAbs_natCast, Double.overflow_eq] at bound
      exact (Double.isFinite_ofInt_iff m).mpr (Nat.lt_of_mul_lt_mul_right bound)
  | double x =>
      cases x with
      | nan => cases place
      | infinite negative => cases negative <;> cases place
      | finite negative units fits => rfl

theorem isFinite_min {a b : Number} (length : a.IsLength) (finite : b.isFinite = true) :
    (min a b).isFinite = true := by
  change (if b < a then b else a).isFinite = true
  by_cases less : b < a
  · rwa [if_pos less]
  · rw [if_neg less]
    -- Then the length is not above the other number, which is in range.
    obtain ⟨m, place, bound⟩ := exists_place_of_isFinite finite
    change ¬lt b a = true at less
    rcases length with top | ⟨n, units, nonneg⟩
    · simp [lt, place, top, Extended.le] at less
    · simp [lt, place, units, Extended.le] at less
      apply isFinite_of_place units
      omega

theorem isLength_nearest (num den : Nat) : (double (.nearest false num den)).IsLength := by
  rw [Double.nearest]
  split
  · exact .inr ⟨_, rfl, Int.natCast_nonneg _⟩
  · exact .inl rfl

end Number

end Millwork
