import Millwork.Text.Printable

/-!
# Quoted text

Messages quote a text that was given. The quotation mark is the single one, unless the text holds
a single mark and no double one. Inside, the mark in use and the backslash are escaped, and so is
every character that does not print: as a letter for line feed, carriage return and tab, else by
its code in two, four or eight hexadecimal digits.
-/

namespace Millwork.Text

attribute [local instance (high)] instPowNat

def hexadecimal : Nat → Nat → List Char
  | 0, _ => []
  | width + 1, n => Nat.digitChar (n / 16 ^ width % 16) :: hexadecimal width n

def quotationMark (text : List Char) : Char :=
  if text.contains '\'' && !text.contains '"' then '"' else '\''

def escaped (mark c : Char) : List Char :=
  if c = mark ∨ c = '\\' then ['\\', c]
  else if c = '\n' then ['\\', 'n']
  else if c = '\r' then ['\\', 'r']
  else if c = '\t' then ['\\', 't']
  else if isPrintable c then [c]
  else if c.toNat < 0x100 then '\\' :: 'x' :: hexadecimal 2 c.toNat
  else if c.toNat < 0x10000 then '\\' :: 'u' :: hexadecimal 4 c.toNat
  else '\\' :: 'U' :: hexadecimal 8 c.toNat

def quoted (text : String) : String :=
  let mark := quotationMark text.toList
  .ofList (mark :: text.toList.flatMap (escaped mark) ++ [mark])

end Millwork.Text
