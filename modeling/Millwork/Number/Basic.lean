import Millwork.Number.Double

/-!
# Numbers of a job

A `Number` is a whole number of any size or a double. The two stay apart: `5` and `5.0` are
written differently, and whole numbers add and multiply exactly. Order is that of the values, also
between a whole number and a double; an undefined double is below, above and equal to nothing.

Records hold numbers that have been looked at once, when the record was built:
`FiniteNumber`, `NonnegNumber` and `PositiveNumber` carry that as a proof.
-/

namespace Millwork

attribute [local instance (high)] instPowNat

inductive ArithmeticFault where
  | wholeTooLarge
  | quotientTooLarge
  | infiniteCount
  | undefinedCount
  deriving DecidableEq

def ArithmeticFault.message : ArithmeticFault → String
  | .wholeTooLarge => "int too large to convert to float"
  | .quotientTooLarge => "integer division result too large for a float"
  | .infiniteCount => "cannot convert float infinity to integer"
  | .undefinedCount => "cannot convert float NaN to integer"

inductive Number where
  | whole (n : Int)
  | double (x : Double)
  deriving DecidableEq

/-- A place on the line of numbers, in units of a double; the line has two ends. -/
inductive Extended where
  | bottom
  | units (n : Int)
  | top
  deriving DecidableEq

def Extended.le : Extended → Extended → Bool
  | bottom, _ | _, top => true
  | units m, units n => m ≤ n
  | _, _ => false

namespace Number

instance (n : Nat) : OfNat Number n := ⟨.whole n⟩

/-! ## Conversion -/

/-- The nearest double; infinite for a whole number beyond the finite ones. -/
def toDouble : Number → Double
  | whole n => .ofInt n
  | double x => x

def isFinite (a : Number) : Bool := a.toDouble.isFinite

/-- The nearest double; a whole number beyond the finite ones is a fault. -/
def toDouble? : Number → Except ArithmeticFault Double
  | whole n => if (Double.ofInt n).isFinite then .ok (.ofInt n) else .error .wholeTooLarge
  | double x => .ok x

/-! ## Order -/

def place? : Number → Option Extended
  | whole n => some (.units (n * Double.unitsPerOne))
  | double .nan => none
  | double (.infinite negative) => some (if negative then .bottom else .top)
  | double (.finite negative units _) => some (.units (Double.signed negative units))

def le (a b : Number) : Bool :=
  match a.place?, b.place? with
  | some x, some y => x.le y
  | _, _ => false

def lt (a b : Number) : Bool :=
  match a.place?, b.place? with
  | some x, some y => !y.le x
  | _, _ => false

instance : LE Number := ⟨fun a b => a.le b = true⟩
instance : LT Number := ⟨fun a b => a.lt b = true⟩
instance (a b : Number) : Decidable (a ≤ b) := inferInstanceAs (Decidable (_ = true))
instance (a b : Number) : Decidable (a < b) := inferInstanceAs (Decidable (_ = true))

/-- The second number if it is less than the first, else the first. -/
instance : Min Number := ⟨fun a b => if b < a then b else a⟩

/-! ## Arithmetic

Between a whole number and a double it is that of doubles. -/

instance : Neg Number where
  neg
    | whole n => whole (-n)
    | double x => double (-x)

instance : Add Number where
  add
    | whole m, whole n => whole (m + n)
    | a, b => double (a.toDouble + b.toDouble)

instance : Mul Number where
  mul
    | whole m, whole n => whole (m * n)
    | a, b => double (a.toDouble * b.toDouble)

/-- The double nearest to the quotient by a number other than zero. -/
def quotient? : Number → Number → Except ArithmeticFault Double
  | whole m, whole n =>
    let quotient := Double.nearest ((m < 0) != (n < 0)) (m.natAbs * Double.unitsPerOne) n.natAbs
    if quotient.isFinite then .ok quotient else .error .quotientTooLarge
  | a, b => return (← a.toDouble?) / (← b.toDouble?)

end Number

def Double.ceiling? : Double → Except ArithmeticFault Int
  | nan => .error .undefinedCount
  | infinite _ => .error .infiniteCount
  | finite negative units _ => .ok (-(signed (!negative) units).fdiv unitsPerOne)

/-! ## Numbers a record holds -/

abbrev FiniteNumber := { a : Number // a.isFinite = true }

abbrev NonnegNumber := { a : Number // a.isFinite = true ∧ 0 ≤ a }

abbrev PositiveNumber := { a : Number // a.isFinite = true ∧ 0 < a }

abbrev FiniteDouble := { x : Double // x.isFinite = true }

def FiniteNumber.toDouble (a : FiniteNumber) : FiniteDouble := ⟨a.val.toDouble, a.property⟩

def PositiveNumber.toDouble (a : PositiveNumber) : Double := a.val.toDouble

theorem Number.isFinite_whole {n : Nat} (small : n ≤ 2 ^ Double.precision) :
    (Number.whole n).isFinite = true := by
  rw [Number.isFinite, Number.toDouble, Double.ofInt_natCast small, Double.isFinite]

theorem Number.whole_lt_whole (m n : Int) : Number.whole m < Number.whole n ↔ m < n := by
  have unit : (0 : Int) < Double.unitsPerOne := Int.natCast_pos.2 Double.unitsPerOne_pos
  change (!decide (n * Double.unitsPerOne ≤ m * Double.unitsPerOne)) = true ↔ m < n
  rw [Bool.not_eq_true', decide_eq_false_iff_not, Int.not_le]
  exact Int.mul_lt_mul_right unit

def PositiveNumber.whole (n : Nat)
    (inRange : decide (0 < n ∧ n ≤ 2 ^ Double.precision) = true := by exact Eq.refl true) :
    PositiveNumber :=
  ⟨.whole n, Number.isFinite_whole (of_decide_eq_true inRange).2,
    (Number.whole_lt_whole 0 n).2 (Int.natCast_pos.2 (of_decide_eq_true inRange).1)⟩

end Millwork
