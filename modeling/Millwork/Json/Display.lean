import Millwork.Json.Basic
import Millwork.Number.Shortest
import Millwork.Text.Quoted

namespace Millwork.Json

mutual

/-- The value as a message shows it. `Numeral.digitLimit` bounds the digits of a number that is read
from a text, and no number that is written: a whole number is shown in full, however long it is. -/
def shown : Json → String
  | null => "None"
  | bool true => "True"
  | bool false => "False"
  | number value => value.text
  | text value => Text.quoted value
  | list items => "[" ++ shownItems items ++ "]"
  | object members => "\x7b" ++ shownMembers members ++ "\x7d"

def shownItems : List Json → String
  | [] => ""
  | [item] => item.shown
  | item :: items => item.shown ++ ", " ++ shownItems items

def shownMembers : List (String × Json) → String
  | [] => ""
  | [(name, value)] => Text.quoted name ++ ": " ++ value.shown
  | (name, value) :: members =>
    Text.quoted name ++ ": " ++ value.shown ++ ", " ++ shownMembers members

end

/-- The value where a text is expected; a whole number is written in full, as in `shown`. -/
def plain : Json → String
  | text value => value
  | value => value.shown

def kindName : Json → String
  | null => "NoneType"
  | bool _ => "bool"
  | number (.whole _) => "int"
  | number (.double _) => "float"
  | text _ => "str"
  | list _ => "list"
  | object _ => "dict"

end Millwork.Json
