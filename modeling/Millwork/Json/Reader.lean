import Millwork.Json.Basic
import Millwork.Number.Numeral

/-!
# Reading JSON

`Json.read` reads one document and says of a bad one what was expected and where. Beyond the
standard it knows the words `NaN`, `Infinity` and `-Infinity`. Of a repeated name the last value
counts, in the first place. Whole numbers of too many digits and values nested too deep are given
up at the place where they are met.

A scanner takes the text that is left and returns what it read with the text behind it. A fault is
recorded with the length of the text that was left, from which `Json.SyntaxError.message` finds
line, column and offset.
-/

namespace Millwork.Json

inductive SyntaxFault where
  | byteOrderMark
  | expectingValue
  | expectingName
  | expectingColon
  | expectingComma
  | extraData
  | controlCharacter
  | badEscape
  | badUnitEscape
  | unterminatedString
  deriving DecidableEq

def SyntaxFault.description : SyntaxFault → String
  | byteOrderMark => "Unexpected UTF-8 BOM (decode using utf-8-sig)"
  | expectingValue => "Expecting value"
  | expectingName => "Expecting property name enclosed in double quotes"
  | expectingColon => "Expecting ':' delimiter"
  | expectingComma => "Expecting ',' delimiter"
  | extraData => "Extra data"
  | controlCharacter => "Invalid control character at"
  | badEscape => "Invalid \\escape"
  | badUnitEscape => "Invalid \\uXXXX escape"
  | unterminatedString => "Unterminated string starting at"

inductive Stop where
  /-- A fault, with the length of the text from there on. -/
  | bad (fault : SyntaxFault) (left : Nat)
  | overlong (digits : Nat)
  | tooDeep

abbrev Read (α : Type) := α × List Char

def stop {α : Type} (fault : SyntaxFault) (chars : List Char) : Except Stop (Read α) :=
  .error (.bad fault chars.length)

def isSpace (c : Char) : Bool := c == ' ' || c == '\t' || c == '\n' || c == '\r'

def skipSpace (chars : List Char) : List Char := chars.dropWhile isSpace

/-! ## Numbers -/

def decimalValue (digits : List Char) : Nat :=
  digits.foldl (fun n c => 10 * n + (c.toNat - '0'.toNat)) 0

def exponent? (chars : List Char) : Option (Int × List Char) :=
  match chars with
  | mark :: rest =>
    if mark = 'e' ∨ mark = 'E' then
      let (negative, rest) := match rest with
        | '-' :: rest => (true, rest)
        | '+' :: rest => (false, rest)
        | _ => (false, rest)
      let digits := rest.takeWhile Char.isDigit
      if digits.isEmpty then none
      else
        let size : Int := decimalValue digits
        some (if negative then -size else size, rest.drop digits.length)
    else none
  | [] => none

/-- A number: whole without a point and an exponent, a double otherwise. -/
def number? (chars : List Char) : Option (Except Stop (Read Number)) :=
  let (negative, rest) := match chars with
    | '-' :: rest => (true, rest)
    | _ => (false, chars)
  let front := match rest with
    | '0' :: _ => ['0']
    | _ => rest.takeWhile Char.isDigit
  if front.isEmpty then none
  else
    let rest := rest.drop front.length
    let behind := match rest with
      | '.' :: rest => rest.takeWhile Char.isDigit
      | _ => []
    let rest := if behind.isEmpty then rest else rest.drop (behind.length + 1)
    match exponent? rest with
    | some (exponent, rest) =>
      let mantissa := decimalValue (front ++ behind)
      some (.ok (.double (.ofDecimal negative mantissa (exponent - behind.length)), rest))
    | none =>
      if !behind.isEmpty then
        let mantissa := decimalValue (front ++ behind)
        some (.ok (.double (.ofDecimal negative mantissa (-(behind.length : Int))), rest))
      else if Numeral.digitLimit < front.length then some (.error (.overlong front.length))
      else
        let size : Int := decimalValue front
        some (.ok (.whole (if negative then -size else size), rest))

/-! ## Strings -/

def hexValue? (c : Char) : Option Nat :=
  if c.isDigit then some (c.toNat - '0'.toNat)
  else if 'a' ≤ c ∧ c ≤ 'f' then some (c.toNat - 'a'.toNat + 10)
  else if 'A' ≤ c ∧ c ≤ 'F' then some (c.toNat - 'A'.toNat + 10)
  else none

def unit? : List Char → Option (Nat × List Char)
  | a :: b :: c :: d :: next :: rest => do
    let digits ← [a, b, c, d].mapM hexValue?
    return (digits.foldl (16 * · + ·) 0, next :: rest)
  | _ => none

def isLeading (unit : Nat) : Bool := 0xD800 ≤ unit && unit < 0xDC00

def isTrailing (unit : Nat) : Bool := 0xDC00 ≤ unit && unit < 0xE000

/-- The character behind the mark of a unit escape. Two escapes write a character that takes two
units. -/
def unitEscape (chars : List Char) : Except Stop (Read Char) :=
  match unit? chars with
  | none => .error (.bad .badUnitEscape (chars.length + 1))
  | some (unit, rest) =>
    match rest with
    | '\\' :: 'u' :: second =>
      if isLeading unit && 4 < second.length then
        match unit? second with
        | none => .error (.bad .badUnitEscape (second.length + 1))
        | some (trailing, beyond) =>
          if isTrailing trailing then
            .ok (.ofNat (0x10000 + (unit - 0xD800) * 0x400 + (trailing - 0xDC00)), beyond)
          else .ok (.ofNat unit, rest)
      else .ok (.ofNat unit, rest)
    | _ => .ok (.ofNat unit, rest)

def simpleEscape? : Char → Option Char
  | '"' => some '"'
  | '\\' => some '\\'
  | '/' => some '/'
  | 'b' => some '\x08'
  | 'f' => some '\x0C'
  | 'n' => some '\n'
  | 'r' => some '\r'
  | 't' => some '\t'
  | _ => none

/-- The string whose characters so far are given in reverse; `opened` is the length of the text
from the opening mark on. -/
def stringBody (opened : Nat) : (fuel : Nat) → List Char → List Char → Except Stop (Read String)
  | fuel + 1, taken, '\\' :: 'u' :: rest => do
    let (c, rest) ← unitEscape rest
    stringBody opened fuel (c :: taken) rest
  | fuel + 1, taken, '\\' :: mark :: rest =>
    match simpleEscape? mark with
    | some c => stringBody opened fuel (c :: taken) rest
    | none => stop .badEscape ('\\' :: mark :: rest)
  | fuel + 1, taken, c :: rest =>
    if c = '"' then .ok (.ofList taken.reverse, rest)
    else if c = '\\' then .error (.bad .unterminatedString opened)
    else if c.toNat < 0x20 then stop .controlCharacter (c :: rest)
    else stringBody opened fuel (c :: taken) rest
  | _, _, _ => .error (.bad .unterminatedString opened)

def string (chars : List Char) : Except Stop (Read String) :=
  stringBody (chars.length + 1) (chars.length + 1) [] chars

/-! ## Values -/

def words : List (String × Json) :=
  [("null", null), ("true", bool true), ("false", bool false), ("NaN", number (.double .nan)),
    ("Infinity", number (.double (.infinite false))),
    ("-Infinity", number (.double (.infinite true)))]

def scalar (chars : List Char) : Except Stop (Read Json) :=
  let word? := words.findSome? fun word => (Text.after? word.1.toList chars).map (word.2, ·)
  match word? with
  | some found => .ok found
  | none =>
    match number? chars with
    | some found => found.map fun (value, rest) => (number value, rest)
    | none => stop .expectingValue chars

/-- How many lists and objects a value may lie in, itself counted. -/
def nestingLimit : Nat := 985

mutual

def value : (fuel depth : Nat) → List Char → Except Stop (Read Json)
  | 0, _, chars => stop .expectingValue chars
  | _ + 1, _, '"' :: rest => do
    let (read, rest) ← string rest
    return (text read, rest)
  | _ + 1, 0, '[' :: _ | _ + 1, 0, '\x7b' :: _ => .error .tooDeep
  | fuel + 1, depth + 1, '[' :: rest =>
    match skipSpace rest with
    | ']' :: rest => .ok (list [], rest)
    | rest => items fuel depth [] rest
  | fuel + 1, depth + 1, '\x7b' :: rest =>
    match skipSpace rest with
    | '\x7d' :: rest => .ok (object [], rest)
    | rest => members fuel depth [] rest
  | _ + 1, _, chars => scalar chars

def items : (fuel depth : Nat) → List Json → List Char → Except Stop (Read Json)
  | 0, _, _, chars => stop .expectingValue chars
  | fuel + 1, depth, read, chars => do
    let (item, rest) ← value fuel depth chars
    match skipSpace rest with
    | ']' :: rest => return (list (item :: read).reverse, rest)
    | ',' :: rest => items fuel depth (item :: read) (skipSpace rest)
    | rest => stop .expectingComma rest

def members : (fuel depth : Nat) → Members → List Char → Except Stop (Read Json)
  | fuel + 1, depth, read, '"' :: rest => do
    let (name, rest) ← string rest
    match skipSpace rest with
    | ':' :: rest =>
      let (member, rest) ← value fuel depth (skipSpace rest)
      let read := read.set name member
      match skipSpace rest with
      | '\x7d' :: rest => return (object read, rest)
      | ',' :: rest => members fuel depth read (skipSpace rest)
      | rest => stop .expectingComma rest
    | rest => stop .expectingColon rest
  | _, _, _, chars => stop .expectingName chars

end

def document (chars : List Char) : Except Stop Json := do
  let (read, rest) ← value (2 * chars.length + 2) nestingLimit (skipSpace chars)
  match skipSpace rest with
  | [] => return read
  | rest => .error (.bad .extraData rest.length)

/-! ## Documents -/

structure SyntaxError where
  fault : SyntaxFault
  text : List Char
  offset : Nat

/-- The fault with its line and column, counted from one, and its offset, counted from zero. -/
def SyntaxError.message (error : SyntaxError) : String :=
  let before := error.text.take error.offset
  let line := before.count '\n' + 1
  let column := (before.reverse.takeWhile (· != '\n')).length + 1
  s!"{error.fault.description}: line {line} column {column} (char {error.offset})"

inductive ReadFault where
  | badSyntax (error : SyntaxError)
  | overlong (digits : Nat)
  | tooDeep

def Stop.inText (chars : List Char) : Stop → ReadFault
  | bad fault left => .badSyntax ⟨fault, chars, chars.length - left⟩
  | overlong digits => .overlong digits
  | tooDeep => .tooDeep

def read (text : String) : Except ReadFault Json :=
  match text.toList with
  | '\uFEFF' :: rest => .error (.badSyntax ⟨.byteOrderMark, '\uFEFF' :: rest, 0⟩)
  | chars => (document chars).mapError (Stop.inText chars)

end Millwork.Json
