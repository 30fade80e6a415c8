import Millwork.Fault.Refusal
import Millwork.Text.Basic

namespace Millwork

def onWords : List String := ["1", "true", "yes", "on"]

def offWords : List String := ["0", "false", "no", "off", ""]

def Text.word (text : String) : String := .ofList (lower (trim text.toList))

def Json.flag? (value : Json) : Except Unreadable Bool :=
  match value with
  | .bool yes => .ok yes
  | .text word =>
    if Text.word word ∈ onWords then .ok true
    else if Text.word word ∈ offWords then .ok false
    else .error (.flag value)
  | _ => .error (.flag value)

structure Switch where
  given : Json

namespace Switch

def isOn (switch : Switch) : Bool := !switch.given.isVoid

def ofBool (yes : Bool) : Switch := ⟨.bool yes⟩

instance : Coe Bool Switch := ⟨ofBool⟩

@[simp] theorem isOn_ofBool (yes : Bool) : (ofBool yes).isOn = yes := by
  cases yes <;> rfl

end Switch

end Millwork
