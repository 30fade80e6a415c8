import Millwork.Number.Basic

/-!
# Numbers as command operands

An operand is written with a set number of decimal places: the exact value is rounded, halves to
the even neighbour, and zeros after the point are dropped, the point with them when nothing is
left. Zero has no sign. `Double.fixed` is total; `Number.fixed?` refuses the whole numbers that no
finite double stands for.
-/

namespace Millwork

attribute [local instance (high)] instPowNat

namespace Decimal

def digits (n : Nat) : List Char := Nat.toDigits 10 n

def fraction : Nat → Nat → List Char
  | 0, _ => []
  | places + 1, rest => Nat.digitChar (rest / 10 ^ places) :: fraction places (rest % 10 ^ places)

def dropTrailingZeros (digits : List Char) : List Char :=
  (digits.reverse.dropWhile (· == '0')).reverse

def numeral (negative : Bool) (places scaled : Nat) : List Char :=
  let sign := if negative && scaled != 0 then ['-'] else []
  let behind := dropTrailingZeros (fraction places (scaled % 10 ^ places))
  sign ++ digits (scaled / 10 ^ places) ++ if behind.isEmpty then [] else '.' :: behind

end Decimal

def Double.undefinedText : List Char := "nan".toList

def Double.infiniteText (negative : Bool) : List Char :=
  if negative then "-inf".toList else "inf".toList

def Double.fixed (places : Nat) : Double → String
  | nan => .ofList undefinedText
  | infinite negative => .ofList (infiniteText negative)
  | finite negative units _ =>
    .ofList (Decimal.numeral negative places
      (nearestQuotient (units * 10 ^ places) unitsPerOne))

/-- The decimal places of an operand: thousandths of a millimetre. -/
def operandPlaces : Nat := 3

def Double.operand (x : Double) : String := x.fixed operandPlaces

/-- A number as a command operand; a whole number beyond the finite doubles counts as infinite. -/
def Number.operand (a : Number) : String := a.toDouble.operand

def Number.fixed? (places : Nat) (a : Number) : Except ArithmeticFault String :=
  return (← a.toDouble?).fixed places

end Millwork
