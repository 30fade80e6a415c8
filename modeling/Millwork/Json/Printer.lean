import Millwork.Json.Basic
import Millwork.Number.Shortest
import Millwork.Text.Quoted

namespace Millwork.Json

def units (c : Char) : List Nat :=
  if c.toNat < 0x10000 then [c.toNat]
  else [0xD800 + (c.toNat - 0x10000) / 0x400, 0xDC00 + (c.toNat - 0x10000) % 0x400]

def written (c : Char) : List Char :=
  match c with
  | '"' => ['\\', '"']
  | '\\' => ['\\', '\\']
  | '\n' => ['\\', 'n']
  | '\r' => ['\\', 'r']
  | '\t' => ['\\', 't']
  | '\x08' => ['\\', 'b']
  | '\x0C' => ['\\', 'f']
  | c =>
    if 0x20 ≤ c.toNat && c.toNat < 0x7F then [c]
    else (units c).flatMap fun unit => '\\' :: 'u' :: Text.hexadecimal 4 unit

def writtenString (value : String) : String :=
  .ofList ('"' :: value.toList.flatMap written ++ ['"'])

def writtenNumber : Number → String
  | .double .nan => "NaN"
  | .double (.infinite negative) => if negative then "-Infinity" else "Infinity"
  | value => value.text

mutual

def print : Json → String
  | null => "null"
  | bool true => "true"
  | bool false => "false"
  | number value => writtenNumber value
  | text value => writtenString value
  | list items => "[" ++ printItems items ++ "]"
  | object members => "\x7b" ++ printMembers members ++ "\x7d"

def printItems : List Json → String
  | [] => ""
  | [item] => item.print
  | item :: items => item.print ++ ", " ++ printItems items

def printMembers : List (String × Json) → String
  | [] => ""
  | [(name, value)] => writtenString name ++ ": " ++ value.print
  | (name, value) :: members =>
    writtenString name ++ ": " ++ value.print ++ ", " ++ printMembers members

end

end Millwork.Json
