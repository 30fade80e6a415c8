import Millwork.Given.Quantity
import Millwork.Given.Switch

namespace Millwork

structure Part where
  place : Place
  members : Json.Members

def Attempt.orFault {α : Type} (attempt : Attempt α) (fault : JobFault) : Attempt α :=
  attempt.mapError fun
    | .unreadable _ => .rejected [fault]
    | other => other

namespace Part

variable (part : Part) (name : String)

def required {α : Type} (found : Option α) : Attempt α :=
  match found with
  | some value => return value
  | none => throw (.rejected [.missing part.place name])

def number? : Attempt (Option Double) :=
  match part.members.given? name with
  | none => return none
  | some value =>
    let fault := JobFault.notANumber part.place name value
    match value with
    | .bool _ => throw (.rejected [fault])
    | value => (some <$> value.double?).orFault fault

def number : Attempt Double := do part.required name (← part.number? name)

def text? : Option String := (part.members.given? name).map Json.plain

def text : Attempt String := part.required name (part.text? name)

def flag : Attempt Bool :=
  match part.members.given? name with
  | none => return false
  | some value => Attempt.orFault value.flag? (.notAFlag part.place name value)

end Part

def Json.ofDouble (x : Double) : Json := .number (.double x)

def Json.ofDouble? : Option Double → Json
  | some x => ofDouble x
  | none => .null

end Millwork
