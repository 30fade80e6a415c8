import Millwork.Json.Display
import Millwork.Text.Basic

namespace Millwork

inductive Content where
  | empty
  | json (value : Json)
  | file (name text : String)

structure Reply where
  status : Nat
  content : Content

namespace Reply

def bare (status : Nat) : Reply := ⟨status, .empty⟩

def success (data : Option Json) (message : Option Json) : Reply :=
  let member (name : String) (value : Option Json) := value.toList.map (name, ·)
  ⟨200, .json (.object (("status", .text "ok") :: member "data" data ++ member "message" message))⟩

def error (message : Json) (status : Nat) (problems : List Json) : Reply :=
  let problems := if problems.isEmpty then [] else [("errors", Json.list problems)]
  ⟨status, .json (.object ([("status", .text "error"), ("message", message)] ++ problems))⟩

def problems (text : String) : List Json :=
  (Text.lines text.toList).map fun line => .text (.ofList line)

/-- The error of a job that is turned down: each line of its text is a problem. -/
def jobError (text : String) : Reply := error (.text text) 400 (problems text)

def validation (problems warnings : List Json) : Reply :=
  ⟨200, .json (.object [("valid", .bool problems.isEmpty), ("errors", .list problems),
    ("warnings", .list warnings)])⟩

end Reply

/-- The elements of a value: the items of a list, the characters of a text, the names of an
object. -/
def Json.elements? : Json → Option (List Json)
  | list items => some items
  | text value => some (value.toList.map fun c => text (.ofList [c]))
  | object members => some (members.map fun member => text member.1)
  | _ => none

end Millwork
