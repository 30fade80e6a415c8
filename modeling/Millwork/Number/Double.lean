import Millwork.Number.Rounding

/-!
# Binary64 numbers

Every finite binary64 number is a whole multiple of the least positive one, `2 ^ -1074`, so a
finite `Double` is a sign and a count of such units. Which counts occur is `Double.Representable`:
those with at most 53 significant bits, below the overflow threshold.

Arithmetic computes the exact result as a quotient of naturals and rounds once, to the nearest
representable count and to the even one in the middle (`Double.nearest`). A result too large to
represent is infinite.
-/

namespace Millwork

attribute [local instance (high)] instPowNat

namespace Double

def precision : Nat := 53

def binaryPlaces : Nat := 1074

def unitsPerOne : Nat := 2 ^ binaryPlaces

/-- The distance from a count of units to the next greater representable one. -/
def spacing (units : Nat) : Nat := 2 ^ (units.log2 + 1 - precision)

def limit : Nat := 2 ^ (binaryPlaces + 1024)

/-- A count of units is representable when it has no more significant bits than `precision` and is
in range. -/
def Representable (units : Nat) : Prop := spacing units ∣ units ∧ units < limit

instance (units : Nat) : Decidable (Representable units) :=
  inferInstanceAs (Decidable (_ ∧ _))

theorem unitsPerOne_pos : 0 < unitsPerOne := Nat.two_pow_pos _

theorem limit_pos : 0 < limit := by
  unfold limit
  apply Nat.pow_pos
  decide

theorem representable_zero : Representable 0 :=
  ⟨Nat.dvd_zero _, limit_pos⟩

end Double

inductive Double where
  | nan
  | infinite (negative : Bool)
  /-- A number of units of `2 ^ -1074`, with a sign that zero has too. -/
  | finite (negative : Bool) (units : Nat) (fits : Double.Representable units)
  deriving DecidableEq

namespace Double

/-! ## Rounding -/

theorem spacing_pos (units : Nat) : 0 < spacing units := Nat.two_pow_pos _

def roundUnits (num den : Nat) : Nat :=
  nearestQuotient num (den * spacing (num / den)) * spacing (num / den)

/-- A multiple `k` of a power of two is a multiple of its own spacing as long as `k` has no more
bits than `precision`; the first number beyond moves up to the next spacing. -/
theorem spacing_dvd (k e : Nat) (small : k ≤ 2 ^ precision) :
    spacing (k * 2 ^ e) ∣ k * 2 ^ e := by
  rcases Nat.lt_or_eq_of_le small with less | rfl
  · refine Nat.dvd_trans (Nat.pow_dvd_pow 2 ?_) (Nat.dvd_mul_left (2 ^ e) k)
    rcases Nat.eq_zero_or_pos k with rfl | positive
    · simp [precision]
    · have bound : k * 2 ^ e < 2 ^ (precision + e) := by
        rw [Nat.pow_add]; exact (Nat.mul_lt_mul_right (Nat.two_pow_pos e)).2 less
      have : (k * 2 ^ e).log2 < precision + e :=
        (Nat.log2_lt (Nat.pos_iff_ne_zero.1 (Nat.mul_pos positive (Nat.two_pow_pos e)))).2 bound
      omega
  · rw [← Nat.pow_add]
    refine Nat.pow_dvd_pow 2 ?_
    rw [Nat.log2_two_pow, precision]
    omega

theorem quotient_lt (q : Nat) : q / spacing q < 2 ^ precision := by
  rw [Nat.div_lt_iff_lt_mul (spacing_pos q), spacing, ← Nat.pow_add]
  exact Nat.lt_of_lt_of_le Nat.lt_log2_self (Nat.pow_le_pow_right (by omega) (by omega))

theorem spacing_dvd_roundUnits (num den : Nat) :
    spacing (roundUnits num den) ∣ roundUnits num den := by
  refine spacing_dvd _ _ ?_
  have quotient : num / (den * spacing (num / den)) < 2 ^ precision := by
    rw [← Nat.div_div_eq_div_mul]; exact quotient_lt _
  rcases nearestQuotient_cases num (den * spacing (num / den)) with same | next
  · omega
  · omega

theorem representable_roundUnits {num den : Nat} (inRange : roundUnits num den < limit) :
    Representable (roundUnits num den) :=
  ⟨spacing_dvd_roundUnits num den, inRange⟩

theorem roundUnits_of_representable {units : Nat} (fits : Representable units) :
    roundUnits units 1 = units := by
  obtain ⟨k, hk⟩ := fits.1
  simp only [roundUnits, Nat.div_one, Nat.one_mul]
  rw [show nearestQuotient units (spacing units) = k by
    conv => lhs; arg 1; rw [hk, Nat.mul_comm]
    exact nearestQuotient_mul k _ (spacing_pos units)]
  rw [Nat.mul_comm, ← hk]

/-- The double nearest to `num / den` units, with a sign; infinite when that is out of range. -/
def nearest (negative : Bool) (num den : Nat) : Double :=
  if inRange : roundUnits num den < limit then
    .finite negative (roundUnits num den) (representable_roundUnits inRange)
  else .infinite negative

/-! ## Parts and special values -/

def zero (negative : Bool) : Double := .finite negative 0 representable_zero

def isFinite : Double → Bool
  | finite .. => true
  | _ => false

def signed (negative : Bool) (units : Nat) : Int := if negative then -(units : Int) else units

def ofInt (n : Int) : Double := nearest (n < 0) (n.natAbs * unitsPerOne) 1

theorem representable_whole {n : Nat} (small : n ≤ 2 ^ precision) :
    Representable (n * unitsPerOne) := by
  refine ⟨spacing_dvd n binaryPlaces small, Nat.lt_of_le_of_lt (Nat.mul_le_mul_right _ small) ?_⟩
  have less : precision + binaryPlaces < binaryPlaces + 1024 := by
    rw [precision]
    omega
  have powers := Nat.pow_lt_pow_right Nat.one_lt_two less
  rw [Nat.pow_add 2 precision] at powers
  unfold unitsPerOne limit
  exact powers

theorem ofInt_natCast {n : Nat} (small : n ≤ 2 ^ precision) :
    ofInt n = .finite false (n * unitsPerOne) (representable_whole small) := by
  have exact := roundUnits_of_representable (representable_whole small)
  have inRange := (representable_whole small).2
  simp only [ofInt, nearest, Int.natAbs_natCast, exact, inRange]
  simp

/-- The double nearest to `mantissa * 10 ^ exponent`. Beyond four hundred places from the point
the answer no longer depends on the digits, and no power of ten is formed. -/
def ofDecimal (negative : Bool) (mantissa : Nat) (exponent : Int) : Double :=
  let leading : Int := mantissa.log2 / 4 + exponent
  if mantissa = 0 then zero negative
  else if 400 < leading then .infinite negative
  else if (mantissa.log2 : Int) + exponent < -400 then zero negative
  else nearest negative (mantissa * unitsPerOne * 10 ^ exponent.toNat) (10 ^ (-exponent).toNat)

/-! ## Arithmetic -/

def neg : Double → Double
  | nan => nan
  | infinite negative => infinite !negative
  | finite negative units fits => finite (!negative) units fits

instance : Neg Double := ⟨neg⟩

/-- Sum. An exact zero is positive unless both terms are negative. -/
def add : Double → Double → Double
  | nan, _ | _, nan => nan
  | infinite a, infinite b => if a = b then infinite a else nan
  | infinite a, finite .. | finite .., infinite a => infinite a
  | finite a m _, finite b n _ =>
    let sum := signed a m + signed b n
    if sum = 0 then zero (a && b) else nearest (sum < 0) sum.natAbs 1

instance : Add Double := ⟨add⟩

def mul : Double → Double → Double
  | nan, _ | _, nan => nan
  | infinite a, infinite b => infinite (a != b)
  | infinite a, finite b n _ | finite b n _, infinite a => if n = 0 then nan else infinite (a != b)
  | finite a m _, finite b n _ => nearest (a != b) (m * n) unitsPerOne

instance : Mul Double := ⟨mul⟩

/-- Quotient; by zero it is infinite, or undefined for zero by zero. -/
def div : Double → Double → Double
  | nan, _ | _, nan => nan
  | infinite _, infinite _ => nan
  | infinite a, finite b .. => infinite (a != b)
  | finite a .., infinite b => zero (a != b)
  | finite a m _, finite b n _ =>
    if n = 0 then (if m = 0 then nan else infinite (a != b))
    else nearest (a != b) (m * unitsPerOne) n

instance : Div Double := ⟨div⟩

/-- The double nearest to the value rounded to a number of decimal places, halves to even. -/
def roundPlaces (places : Nat) : Double → Double
  | finite negative units _ =>
    nearest negative (nearestQuotient (units * 10 ^ places) unitsPerOne * unitsPerOne) (10 ^ places)
  | x => x

end Double

end Millwork
