import Millwork.Fault.Basic
import Millwork.Number.Numeral

namespace Millwork.Json

def finite? : Json → Except ArithmeticFault (Option FiniteNumber)
  | number (.whole n) =>
    if finite : (Number.whole n).isFinite = true then .ok (some ⟨.whole n, finite⟩)
    else .error .wholeTooLarge
  | number (.double x) =>
    if finite : (Number.double x).isFinite = true then .ok (some ⟨.double x, finite⟩)
    else .ok none
  | _ => .ok none

def positive? (quantity : Quantity) (value : Json) : Attempt PositiveNumber := do
  match ← value.finite? with
  | some ⟨a, finite⟩ =>
    if positive : 0 < a then return ⟨a, finite, positive⟩
    else throw (.refused (.notPositive quantity value))
  | none => throw (.refused (.notPositive quantity value))

def nonnegative? (quantity : Quantity) (value : Json) : Attempt NonnegNumber := do
  match ← value.finite? with
  | some ⟨a, finite⟩ =>
    if nonnegative : 0 ≤ a then return ⟨a, finite, nonnegative⟩
    else throw (.refused (.negative quantity value))
  | none => throw (.refused (.negative quantity value))

def positiveOrNone? (quantity : Quantity) : Json → Attempt (Option PositiveNumber)
  | null => return none
  | value => some <$> value.positive? quantity

/-- The value as a number: a number, or yes and no for one and zero. -/
def amount? : Json → Option Number
  | number a => some a
  | bool yes => some (if yes then 1 else 0)
  | _ => none

def double? : Json → Attempt Double
  | number a => a.toDouble?
  | bool yes => return .ofInt (if yes then 1 else 0)
  | text numeral =>
    match Numeral.double? numeral with
    | some x => return x
    | none => throw (.unreadable (.numeral numeral))
  | value => throw (.unreadable (.number value))

end Millwork.Json
