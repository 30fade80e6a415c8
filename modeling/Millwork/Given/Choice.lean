import Millwork.Fault.Refusal

namespace Millwork

class Choice (α : Type) where
  title : String
  members : List α
  word : α → String

namespace Choice

variable {α : Type} [Choice α]

def ofWord? (word : String) : Option α := members.find? fun member => Choice.word member == word

def ofJson? (value : Json) : Except Refusal α :=
  match value with
  | .text word =>
    match ofWord? word with
    | some member => .ok member
    | none => .error (.notAMember (title α) value)
  | _ => .error (.notAMember (title α) value)

end Choice

end Millwork
