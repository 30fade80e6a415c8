import Millwork.Number.Basic
import Millwork.Text.DecimalDigit

/-!
# Reading numerals

A numeral may stand between white space and carry a sign. Digits of every script count, and a
single underscore may stand between two digits. A double is digits around a point with an optional
exponent, or one of the words for the infinite and the undefined in any case; a whole number is
digits alone, and not too many of them.

Trimming a numeral is narrower than trimming a text: the information separators stay.
-/

namespace Millwork.Numeral

open Text

def isMargin (c : Char) : Bool := isBlank c && !inRanges [(0x1C, 0x1F)] c

def isDigit (c : Char) : Bool := (digit? c).isSome

def ungroup : List Char → List Char
  | a :: '_' :: b :: rest =>
    if isDigit a && isDigit b then a :: ungroup (b :: rest) else a :: ungroup ('_' :: b :: rest)
  | c :: rest => c :: ungroup rest
  | [] => []

def core (text : List Char) : List Char :=
  ungroup ((text.dropWhile isMargin).reverse.dropWhile isMargin).reverse

def sign : List Char → Bool × List Char
  | '-' :: rest => (true, rest)
  | '+' :: rest => (false, rest)
  | text => (false, text)

def digits (text : List Char) : List Nat × List Char :=
  ((text.takeWhile isDigit).filterMap digit?, text.dropWhile isDigit)

def value (digits : List Nat) : Nat := digits.foldl (10 * · + ·) 0

def signedDigits? (text : List Char) : Option Int :=
  let (negative, rest) := sign text
  match digits rest with
  | ([], _) | (_, _ :: _) => none
  | (run, []) => some (if negative then -(value run : Int) else value run)

def exponent? : List Char → Option Int
  | [] => some 0
  | mark :: rest => if mark = 'e' ∨ mark = 'E' then signedDigits? rest else none

def decimal? (negative : Bool) (text : List Char) : Option Double :=
  let (front, rest) := digits text
  let (behind, rest) := match rest with
    | '.' :: rest => digits rest
    | _ => ([], rest)
  if front.isEmpty && behind.isEmpty then none
  else (exponent? rest).map fun exponent =>
    Double.ofDecimal negative (value (front ++ behind)) (exponent - behind.length)

def double? (text : String) : Option Double :=
  let (negative, rest) := sign (core text.toList)
  let word := String.ofList (lower rest)
  if word = "nan" then some .nan
  else if word = "inf" ∨ word = "infinity" then some (.infinite negative)
  else decimal? negative rest

/-- The most digits that a whole number is read from. -/
def digitLimit : Nat := 4300

inductive WholeFault where
  | malformed
  /-- So many digits are not read. What stands behind them is not looked at. -/
  | overlong (digits : Nat)

def whole (text : String) : Except WholeFault Int :=
  let (negative, rest) := sign (core text.toList)
  match digits rest with
  | ([], _) | (_, '_' :: _) => .error .malformed
  | (run, rest) =>
    if digitLimit < run.length then .error (.overlong run.length)
    else if rest.isEmpty then .ok (if negative then -(value run : Int) else value run)
    else .error .malformed

end Millwork.Numeral
