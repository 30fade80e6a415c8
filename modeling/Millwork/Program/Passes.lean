import Millwork.Number.Basic

/-!
# Schedule of passes

A depth is cut in passes, each deeper than the one before by the depth of a pass; the last one
lands on the total depth. How many there are is the quotient of the two, rounded to nine places
and then up, so that a quotient which is whole but for rounding does not cost a further pass.

The schedule is written for any `Length`; the numbers of a job are one.
-/

namespace Millwork

class Length (α : Type) extends Neg α, Min α where
  Quotient : Type
  /-- Whether a length can be the depth of a pass. -/
  isStep : α → Bool
  times : Nat → α → α
  quotient? : α → α → Except ArithmeticFault Quotient
  roundPlaces : Nat → Quotient → Quotient
  ceiling? : Quotient → Except ArithmeticFault Int

/-- Zero and what is below it are no steps; an undefined number counts as one. -/
instance : Length Number where
  Quotient := Double
  isStep step := !decide (step ≤ 0)
  times n step := .whole n * step
  quotient? := Number.quotient?
  roundPlaces := Double.roundPlaces
  ceiling? := Double.ceiling?

/-- A pass: its index from zero, the number of passes, and its height below the surface. -/
structure Pass (α : Type) where
  index : Nat
  count : Nat
  height : α

namespace Pass

variable {α : Type}

def isFirst (pass : Pass α) : Bool := pass.index == 0

def isLast (pass : Pass α) : Bool := pass.index + 1 == pass.count

end Pass

variable {α : Type} [Length α]

def quotientPlaces : Nat := 9

/-- The quotient of two lengths, rounded to some places and then up. -/
def Length.count? (total step : α) : Except ArithmeticFault Int := do
  let quotient ← Length.quotient? total step
  Length.ceiling? (Length.roundPlaces quotientPlaces quotient)

/-- The number of passes, at least one. Without a depth of a pass, or if the cut is not to be
divided, it is one. -/
def passCount (total : α) (step : Option α) (divided : Bool) : Except ArithmeticFault Nat :=
  match step with
  | some step =>
    if divided && Length.isStep step then return max 1 (← Length.count? total step).toNat
    else .ok 1
  | none => .ok 1

def heights (total step : α) (count : Nat) : List α :=
  (List.range (count - 1)).map (fun i => -(min (Length.times (i + 1) step) total)) ++ [-total]

def passHeights (total : α) (step : Option α) (divided : Bool) : Except ArithmeticFault (List α) :=
  match step with
  | some step => return heights total step (← passCount total (some step) divided)
  | none => .ok [-total]

def passes (total : α) (step : Option α) (divided : Bool) :
    Except ArithmeticFault (List (Pass α)) := do
  let heights ← passHeights total step divided
  return heights.zipIdx.map fun (height, index) => ⟨index, heights.length, height⟩

end Millwork
