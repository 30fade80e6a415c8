import Millwork.Fault.Refusal
import Millwork.Fault.Basic
import Millwork.Given.Quantity

namespace Millwork

structure Point where
  x : FiniteDouble
  y : FiniteDouble
  deriving DecidableEq

structure Path where
  start : Point
  rest : List Point
  deriving DecidableEq

namespace Path

def points (path : Path) : List Point := path.start :: path.rest

def length (path : Path) : Nat := path.points.length

def point? (index : Nat) (x y : Json) : Attempt Point := do
  let refusal := Fault.refused (.pathCoordinate index x y)
  match ← x.finite? with
  | none => throw refusal
  | some a =>
    match ← y.finite? with
    | none => throw refusal
    | some b => return ⟨FiniteNumber.toDouble a, FiniteNumber.toDouble b⟩

def points? : (index : Nat) → List (Json × Json) → Attempt (List Point)
  | _, [] => return []
  | index, (x, y) :: rest => do
    let point ← point? index x y
    let rest ← points? (index + 1) rest
    return point :: rest

def ofCoordinates (coordinates : List (Json × Json)) : Attempt Path := do
  match ← points? 0 coordinates with
  | start :: rest => return ⟨start, rest⟩
  | [] => throw (.refused .emptyPath)

end Path

end Millwork
