import Millwork.Proofs.Number.HalfEven
import Millwork.Proofs.Number.Finite

namespace Millwork

attribute [local instance (high)] instPowNat

namespace Double

/-! ## Units -/

theorem abs_roundUnits_sub_multiple_le (num k : ℕ) {den : ℕ} (positive : 0 < den) :
    |(roundUnits num den : ℚ) - (num : ℚ) / den| ≤
      |((k * spacing (num / den) : ℕ) : ℚ) - (num : ℚ) / den| := by
  have gap := spacing_pos (num / den)
  rw [roundUnits]
  generalize spacing (num / den) = step at gap
  have scale : (0 : ℚ) < step := Nat.cast_pos.mpr gap
  have quotient : (num : ℚ) / den = (num : ℚ) / (den * step : ℕ) * step := by
    rw [Nat.cast_mul, ← div_div, div_mul_cancel₀ _ scale.ne']
  have apart (n : ℕ) : |((n * step : ℕ) : ℚ) - (num : ℚ) / den| =
      |((n : ℤ) : ℚ) - (num : ℚ) / (den * step : ℕ)| * step := by
    rw [quotient, Nat.cast_mul, ← sub_mul, abs_mul, abs_of_pos scale, Int.cast_natCast]
  have near := abs_halfEven_sub_le ((num : ℚ) / (den * step : ℕ)) k
  rw [halfEven_div num (Nat.mul_pos positive gap)] at near
  rw [apart, apart]
  exact mul_le_mul_of_nonneg_right near scale.le

theorem abs_roundUnits_sub_le {units : ℕ} (fits : spacing units ∣ units) (num : ℕ) {den : ℕ}
    (positive : 0 < den) :
    |(roundUnits num den : ℚ) - (num : ℚ) / den| ≤ |(units : ℚ) - (num : ℚ) / den| := by
  have multiple (k : ℕ) := abs_roundUnits_sub_multiple_le num k positive
  rcases Nat.lt_or_ge units (2 ^ (num / den).log2) with below | within
  · -- Then a multiple of the spacing lies between the units and the quotient.
    rcases Nat.eq_zero_or_pos (num / den) with zero | nonzero
    · rw [zero, Nat.log2_zero, Nat.pow_zero, Nat.lt_one_iff] at below
      simpa [below] using multiple 0
    · obtain ⟨k, power⟩ : spacing (num / den) ∣ 2 ^ (num / den).log2 :=
        Nat.pow_dvd_pow 2 (by rw [precision]; omega)
      have reached : 2 ^ (num / den).log2 * den ≤ num :=
        le_trans (Nat.mul_le_mul_right _ (Nat.log2_self_le nonzero.ne')) (Nat.div_mul_le_self _ _)
      rw [power] at below reached
      have near := multiple k
      rw [Nat.mul_comm k] at near
      generalize spacing (num / den) * k = middle at below reached near
      have scale : (0 : ℚ) < den := Nat.cast_pos.mpr positive
      have below : (units : ℚ) < middle := Nat.cast_lt.mpr below
      have reached : (middle : ℚ) ≤ num / den := by
        rw [le_div_iff₀ scale]
        exact_mod_cast reached
      refine near.trans ?_
      rw [abs_sub_comm, abs_sub_comm (units : ℚ), abs_of_nonneg (by linarith),
        abs_of_nonneg (by linarith)]
      linarith
  · have nonzero : units ≠ 0 := by
      rintro rfl
      exact absurd within (Nat.not_le.mpr (Nat.two_pow_pos _))
    have coarser : (num / den).log2 ≤ units.log2 := (Nat.le_log2 nonzero).mpr within
    obtain ⟨k, rfl⟩ : spacing (num / den) ∣ units :=
      Nat.dvd_trans (Nat.pow_dvd_pow 2 (by omega)) fits
    rw [Nat.mul_comm]
    exact multiple k

/-! ## Doubles -/

theorem signed_not (negative : Bool) (units : ℕ) :
    signed (!negative) units = -signed negative units := by
  cases negative
  · rfl
  · exact (Int.neg_neg _).symm

theorem abs_nearest_sub_le {negative : Bool} {num den : ℕ} (positive : 0 < den)
    (finite : (nearest negative num den).isFinite = true) {y : Double}
    (finite' : y.isFinite = true) :
    |(nearest negative num den).value - (signed negative num : ℚ) / den / unitsPerOne| ≤
      |y.value - (signed negative num : ℚ) / den / unitsPerOne| := by
  have unit : (0 : ℚ) < unitsPerOne := unitsPerOne_cast_pos
  have scale : (0 : ℚ) < den := Nat.cast_pos.mpr positive
  rw [nearest] at finite ⊢
  split at finite
  · rename_i inRange
    cases y with
    | nan => cases finite'
    | infinite other => cases finite'
    | finite other units fits =>
        have zero := abs_roundUnits_sub_le (Nat.dvd_zero (spacing 0)) num positive
        have own := abs_roundUnits_sub_le fits.1 num positive
        have nonneg : (0 : ℚ) ≤ num / den := div_nonneg (Nat.cast_nonneg _) scale.le
        have quotient : (signed negative num : ℚ) / den =
            if negative then -((num : ℚ) / den) else num / den := by
          cases negative <;> simp [signed, neg_div]
        rw [Nat.cast_zero, zero_sub, abs_neg, abs_of_nonneg nonneg] at zero
        rw [dif_pos inRange, value, value, quotient]
        generalize (unitsPerOne : ℚ) = one at unit ⊢
        rw [← sub_div, ← sub_div, abs_div, abs_div, abs_of_pos unit]
        refine div_le_div_of_nonneg_right ?_ unit.le
        generalize (num : ℚ) / den = ratio at zero own nonneg ⊢
        have apart : |(roundUnits num den : ℚ) - ratio| ≤ |(units : ℚ) + ratio| :=
          zero.trans (le_trans (by simp) (le_abs_self _))
        -- On the other side of zero everything is farther than zero itself.
        cases negative <;> cases other <;> simp only [signed, Bool.false_eq_true, if_true, if_false,
          Int.cast_neg, Int.cast_natCast]
        · exact own
        · rwa [← neg_add', abs_neg]
        · rwa [neg_sub_neg, abs_sub_comm, sub_neg_eq_add]
        · rwa [neg_sub_neg, neg_sub_neg, abs_sub_comm, abs_sub_comm ratio]
  · cases finite

/-- No finite double is nearer to the number. -/
structure IsNearest (x : Double) (q : ℚ) : Prop where
  finite : x.isFinite = true
  near : ∀ y : Double, y.isFinite = true → |x.value - q| ≤ |y.value - q|

theorem isNearest_nearest {negative : Bool} {num den : ℕ} (positive : 0 < den)
    (finite : (nearest negative (num * unitsPerOne) den).isFinite = true) :
    (nearest negative (num * unitsPerOne) den).IsNearest ((signed negative num : ℚ) / den) := by
  have exactly : (signed negative (num * unitsPerOne) : ℚ) / den / unitsPerOne =
      (signed negative num : ℚ) / den := by
    rw [signed_mul, Int.cast_mul, Int.cast_natCast, div_right_comm,
      mul_div_cancel_right₀ _ unitsPerOne_cast_ne]
  exact ⟨finite, fun y finite' => exactly ▸ abs_nearest_sub_le positive finite finite'⟩

theorem pos_of_isFinite_div {m n : ℕ} {negative other : Bool} {fits : Representable m}
    {fits' : Representable n}
    (finite : (Double.finite negative m fits / Double.finite other n fits').isFinite = true) :
    0 < n := by
  change (if n = 0 then (if m = 0 then nan else infinite (negative != other))
    else nearest (negative != other) (m * unitsPerOne) n).isFinite = true at finite
  by_contra zero
  rw [if_pos (Nat.eq_zero_of_not_pos zero)] at finite
  split at finite <;> cases finite

theorem isNearest_div {x y : Double} (divisor : y.isFinite = true)
    (quotient : (x / y).isFinite = true) : (x / y).IsNearest (x.value / y.value) := by
  cases y with
  | nan | infinite other => cases divisor
  | finite other n fits' =>
      cases x with
      | nan | infinite negative => cases quotient
      | finite negative m fits =>
          have positive := pos_of_isFinite_div quotient
          have division : Double.finite negative m fits / Double.finite other n fits' =
              nearest (negative != other) (m * unitsPerOne) n := if_neg positive.ne'
          have ratio : (Double.finite negative m fits).value / (Double.finite other n fits').value =
              (signed (negative != other) m : ℚ) / n := by
            rw [value, value, div_div_div_cancel_right₀ unitsPerOne_cast_ne]
            cases negative <;> cases other <;> simp [signed, neg_div, div_neg]
          rw [division] at quotient ⊢
          rw [ratio]
          exact isNearest_nearest positive quotient

theorem isNearest_roundPlaces {x : Double} (finite : x.isFinite = true) (places : ℕ) :
    (x.roundPlaces places).IsNearest (Decimal.rounded places x.value) := by
  have rounds := isFinite_roundPlaces finite places
  cases x with
  | nan | infinite negative => cases finite
  | finite negative units fits =>
      have scale : 0 < 10 ^ places := Nat.pow_pos (by decide)
      have near := isNearest_nearest scale rounds
      rwa [Nat.cast_pow, Nat.cast_ofNat, ← halfEven_value places negative fits] at near

theorem ceiling?_eq {x : Double} (finite : x.isFinite = true) : x.ceiling? = .ok ⌈x.value⌉ := by
  cases x with
  | nan | infinite negative => cases finite
  | finite negative units fits =>
      have unit : (0 : ℤ) ≤ unitsPerOne := Int.natCast_nonneg _
      rw [ceiling?, value, ← neg_neg ⌈_⌉, ← Int.floor_neg, ← neg_div, ← Int.cast_neg,
        ← signed_not, Rat.floor_intCast_div_natCast, Int.fdiv_eq_ediv_of_nonneg _ unit]

end Double

/-! ## Order -/

theorem Double.value_neg (x : Double) : (-x).value = -x.value := by
  cases x with
  | nan | infinite negative => exact neg_zero.symm
  | finite negative units fits =>
      change (finite (!negative) units fits).value = _
      rw [value, value, signed_not, Int.cast_neg, neg_div]

namespace Number

theorem isFinite_zero : (0 : Number).isFinite = true := isFinite_whole (Nat.zero_le _)

theorem value_neg (a : Number) : (-a).value = -a.value := by
  cases a with
  | whole n => exact Int.cast_neg n
  | double x => exact x.value_neg

theorem toDouble?_of_isFinite {a : Number} (finite : a.isFinite = true) :
    a.toDouble? = .ok a.toDouble := by
  cases a with
  | whole n =>
      have finite : (Double.ofInt n).isFinite = true := finite
      rw [toDouble?, if_pos finite, toDouble]
  | double x => rfl

theorem value_of_place {a : Number} {n : ℤ} (place : a.place? = some (.units n)) :
    a.value = n / Double.unitsPerOne := by
  cases a with
  | whole m =>
      cases place
      rw [value, Int.cast_mul, Int.cast_natCast, mul_div_cancel_right₀ _ Double.unitsPerOne_cast_ne]
  | double x =>
      cases x with
      | nan => cases place
      | infinite negative => cases negative <;> cases place
      | finite negative units fits =>
          cases place
          rfl

variable {a b : Number}

theorem le_iff (finite : a.isFinite = true) (finite' : b.isFinite = true) :
    a ≤ b ↔ a.value ≤ b.value := by
  obtain ⟨m, place, -⟩ := exists_place_of_isFinite finite
  obtain ⟨n, place', -⟩ := exists_place_of_isFinite finite'
  rw [value_of_place place, value_of_place place',
    div_le_div_iff_of_pos_right Double.unitsPerOne_cast_pos, Int.cast_le]
  change a.le b = true ↔ m ≤ n
  rw [le, place, place']
  exact decide_eq_true_iff

theorem lt_iff (finite : a.isFinite = true) (finite' : b.isFinite = true) :
    a < b ↔ a.value < b.value := by
  obtain ⟨m, place, -⟩ := exists_place_of_isFinite finite
  obtain ⟨n, place', -⟩ := exists_place_of_isFinite finite'
  rw [value_of_place place, value_of_place place',
    div_lt_div_iff_of_pos_right Double.unitsPerOne_cast_pos, Int.cast_lt]
  change a.lt b = true ↔ m < n
  simp [lt, place, place', Extended.le]

theorem neg_le_iff (finite : a.isFinite = true) (finite' : b.isFinite = true) :
    -a ≤ -b ↔ b ≤ a := by
  rw [le_iff ((isFinite_neg a).trans finite) ((isFinite_neg b).trans finite'),
    le_iff finite' finite, value_neg, value_neg, neg_le_neg_iff]

private theorem add_le_of_abs_sub_le {u v x : ℚ} (less : u < v) (near : |v - x| ≤ |u - x|) :
    u + v ≤ 2 * x := by
  rcases abs_cases (v - x) with ⟨first, _⟩ | ⟨first, _⟩ <;>
    rcases abs_cases (u - x) with ⟨second, _⟩ | ⟨second, _⟩ <;> linarith

theorem abs_toDouble_sub_le (finite : a.isFinite = true) {y : Double}
    (finite' : y.isFinite = true) :
    |a.toDouble.value - a.value| ≤ |y.value - a.value| := by
  cases a with
  | whole n =>
      have finite : (Double.nearest (n < 0) (n.natAbs * Double.unitsPerOne) 1).isFinite = true :=
        finite
      have near := (Double.isNearest_nearest Nat.one_pos finite).near y finite'
      rwa [Double.signed_natAbs, Nat.cast_one, div_one] at near
  | double x =>
      rw [toDouble, value, sub_self, abs_zero]
      exact abs_nonneg _

theorem toDouble_mono (finite : a.isFinite = true) (finite' : b.isFinite = true) (le : a ≤ b) :
    a.toDouble.value ≤ b.toDouble.value := by
  have near := abs_toDouble_sub_le finite finite'
  have near' := abs_toDouble_sub_le finite' finite
  have le := (le_iff finite finite').mp le
  by_contra less
  have less := not_le.mp less
  -- Rounded the wrong way, both would lie in the middle between the two doubles.
  have above := add_le_of_abs_sub_le less near
  rw [← abs_neg, ← abs_neg (a.toDouble.value - _), neg_sub', neg_sub'] at near'
  have below := add_le_of_abs_sub_le (neg_lt_neg less) near'
  have same : a.value = b.value := by linarith
  cases a with
  | double x =>
      have own : (double x).toDouble.value = (double x).value := rfl
      linarith
  | whole m =>
      cases b with
      | double y =>
          have own : (double y).toDouble.value = (double y).value := rfl
          linarith
      | whole n =>
          cases Int.cast_injective same
          exact lt_irrefl _ less

end Number

end Millwork
