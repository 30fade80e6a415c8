import Millwork.Proofs.Number.Nearest

namespace Millwork

attribute [local instance (high)] instPowNat

theorem Double.eq_of_value {x y : Double} (finite : x.isFinite = true)
    (finite' : y.isFinite = true) (nonzero : x.value ≠ 0) (same : x.value = y.value) : x = y := by
  cases x with
  | nan | infinite => cases finite
  | finite negative m fits =>
      cases y with
      | nan | infinite => cases finite'
      | finite negative' n fits' =>
          have units : signed negative m = signed negative' n :=
            Int.cast_injective ((div_left_inj' unitsPerOne_cast_ne).mp same)
          have other : signed negative m ≠ 0 := by
            intro zero
            rw [value, zero, Int.cast_zero, zero_div] at nonzero
            exact nonzero rfl
          obtain rfl : m = n := by
            rw [← natAbs_signed negative m, units, natAbs_signed]
          -- Zero alone has two signs.
          obtain rfl : negative = negative' := by
            cases negative <;> cases negative' <;> simp [signed] at units other ⊢ <;> omega
          rfl

namespace Number

/-- Some double stands for the number. -/
def IsExact (a : Number) : Prop := ∃ x : Double, x.isFinite = true ∧ x.value = a.value

theorem value_toDouble {a : Number} (finite : a.isFinite = true) (exact : a.IsExact) :
    a.toDouble.value = a.value := by
  obtain ⟨x, finite', same⟩ := exact
  have near := abs_toDouble_sub_le finite finite'
  rw [same, sub_self, abs_zero] at near
  exact sub_eq_zero.mp (abs_nonpos_iff.mp near)

theorem eq_whole_of_not_isExact {a : Number} (finite : a.isFinite = true)
    (inexact : ¬a.IsExact) : ∃ n, a = whole n := by
  cases a with
  | whole n => exact ⟨n, rfl⟩
  | double x => exact absurd ⟨x, finite, rfl⟩ inexact

theorem isExact_whole {n : Nat} (small : n ≤ 2 ^ Double.precision) : (whole n).IsExact := by
  refine ⟨_, isFinite_whole small, ?_⟩
  have own : ((n * Double.unitsPerOne : ℕ) : ℚ) / Double.unitsPerOne = n := by
    rw [Nat.cast_mul, mul_div_cancel_right₀ _ Double.unitsPerOne_cast_ne]
  rw [toDouble, Double.ofInt_natCast small]
  exact own

variable {a b : Number}

theorem place?_congr (finite : a.isFinite = true) (finite' : b.isFinite = true)
    (same : a.value = b.value) : a.place? = b.place? := by
  obtain ⟨m, place, -⟩ := exists_place_of_isFinite finite
  obtain ⟨n, place', -⟩ := exists_place_of_isFinite finite'
  rw [value_of_place place, value_of_place place', div_left_inj' Double.unitsPerOne_cast_ne,
    Int.cast_inj] at same
  rw [place, place', same]

theorem isExact_congr (same : a.value = b.value) : a.IsExact ↔ b.IsExact := by
  rw [IsExact, IsExact, same]

theorem pos_iff (finite : a.isFinite = true) : 0 < a ↔ 0 < a.value := by
  have zero : (0 : Number).value = 0 := Int.cast_zero
  rw [lt_iff isFinite_zero finite, zero]

theorem le_congr_right (same : a.place? = b.place?) (other : Number) : other ≤ a ↔ other ≤ b := by
  change other.le a = true ↔ other.le b = true
  rw [le, le, same]

end Number

namespace PositiveNumber

def SameValue (a b : PositiveNumber) : Prop := a.val.value = b.val.value

theorem value_pos (a : PositiveNumber) : 0 < a.val.value :=
  (Number.pos_iff a.property.1).mp a.property.2

theorem toDouble_congr {a b : PositiveNumber} (same : a.SameValue b) :
    a.toDouble = b.toDouble := by
  rw [SameValue] at same
  by_cases representable : a.val.IsExact
  · have own := Number.value_toDouble a.property.1 representable
    have own' := Number.value_toDouble b.property.1 ((Number.isExact_congr same).mp representable)
    refine Double.eq_of_value a.property.1 b.property.1 ?_ ?_
    · exact own.trans_ne a.value_pos.ne'
    · exact own.trans (same.trans own'.symm)
  · -- A number that no double stands for is whole, and so is any of its value.
    obtain ⟨m, whole⟩ := Number.eq_whole_of_not_isExact a.property.1 representable
    obtain ⟨n, whole'⟩ := Number.eq_whole_of_not_isExact b.property.1
      ((Number.isExact_congr same).not.mp representable)
    rw [whole, whole'] at same
    rw [toDouble, toDouble, whole, whole', Int.cast_injective same]

theorem isExact_whole (n : Nat)
    (inRange : decide (0 < n ∧ n ≤ 2 ^ Double.precision) = true := by exact Eq.refl true) :
    (whole n inRange).val.IsExact :=
  Number.isExact_whole (of_decide_eq_true inRange).2

def ofExact (a : PositiveNumber) (representable : a.val.IsExact) : PositiveNumber :=
  have finite : (Number.double a.toDouble).isFinite = true := a.property.1
  have same : (Number.double a.toDouble).value = a.val.value :=
    Number.value_toDouble a.property.1 representable
  ⟨.double a.toDouble, finite, (Number.pos_iff finite).mpr (same ▸ a.value_pos)⟩

theorem value_ofExact (a : PositiveNumber) (representable : a.val.IsExact) :
    (a.ofExact representable).val.value = a.val.value :=
  Number.value_toDouble a.property.1 representable

end PositiveNumber

end Millwork
