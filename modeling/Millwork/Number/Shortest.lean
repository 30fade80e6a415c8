import Millwork.Number.Fixed

/-!
# The natural text of a number

A double is written with the fewest digits that read back to it, and of those with the nearest to
its value. `Double.readsBack` says which decimals read back: those between the midpoints to the
two neighbouring doubles, the midpoints included when the double has an even significand.
`Double.shortestDigits` tries one digit, then two, up to seventeen; on each grid of decimals only
the two neighbours of the value can be nearest.

Layout: from ten thousandths up to below `10 ^ 16` the digits stand around a point, with one zero
at least on either side; outside that range they are followed by a signed exponent of at least two
digits.
-/

namespace Millwork

attribute [local instance (high)] instPowNat

namespace Double

/-- Order of `digits * 10 ^ exponent` against a number of quarter units. -/
def compareQuarters (digits : Nat) (exponent : Int) (quarters : Nat) : Ordering :=
  compare (digits * 10 ^ exponent.toNat * (4 * unitsPerOne)) (quarters * 10 ^ (-exponent).toNat)

/-- The gap below a power of two is half the gap above it, unless both are one unit. -/
def narrowBelow (units : Nat) : Bool := units == 2 ^ units.log2 && 1 < spacing units

def readsBack (units digits : Nat) (exponent : Int) : Bool :=
  let gap := spacing units
  let even := units / gap % 2 == 0
  let below := if narrowBelow units then gap else 2 * gap
  let lower := compareQuarters digits exponent (4 * units - below)
  let upper := compareQuarters digits exponent (4 * units + 2 * gap)
  (lower == .gt || even && lower == .eq) && (upper == .lt || even && upper == .eq)

def deepPlaces : Nat := 400

/-- The least `k` such that the value is below `10 ^ k`. -/
def scale (units : Nat) : Int :=
  (Decimal.digits (units * 10 ^ deepPlaces / unitsPerOne)).length - deepPlaces

/-- The neighbour of the value on the grid of multiples of `10 ^ exponent` that reads back; of two
the nearer, and halfway the even one. -/
def onGrid? (units : Nat) (exponent : Int) : Option Nat :=
  let num := units * 10 ^ (-exponent).toNat
  let den := unitsPerOne * 10 ^ exponent.toNat
  let near := nearestQuotient num den
  let far := if near = num / den then near + 1 else num / den
  if readsBack units near exponent then some near
  else if readsBack units far exponent then some far
  else none

def shortestDigits (units : Nat) : Nat × Int :=
  let attempt (count : Nat) : Option (Nat × Int) :=
    let exponent := scale units - (count + 1)
    (onGrid? units exponent).map (·, exponent)
  ((List.range 17).findSome? attempt).getD (0, 0)

/-- Digits around a point, or followed by an exponent. `point` is the number of digits in front of
the point; it may be negative or beyond the digits. -/
def layout (digits : List Char) (point : Int) : List Char :=
  let zeros (n : Int) := List.replicate n.toNat '0'
  if -4 < point && point ≤ 16 then
    if point ≤ 0 then '0' :: '.' :: zeros (-point) ++ digits
    else if digits.length ≤ point then digits ++ zeros (point - digits.length) ++ ['.', '0']
    else digits.take point.toNat ++ '.' :: digits.drop point.toNat
  else
    let exponent := point - 1
    let written := Decimal.digits exponent.natAbs
    let behind := if digits.length ≤ 1 then [] else '.' :: digits.drop 1
    digits.take 1 ++ behind ++ 'e' :: (if exponent < 0 then '-' else '+') ::
      (if written.length < 2 then '0' :: written else written)

def text : Double → String
  | nan => .ofList undefinedText
  | infinite negative => .ofList (infiniteText negative)
  | finite negative units _ =>
    let sign := if negative then ['-'] else []
    if units = 0 then .ofList (sign ++ ['0', '.', '0'])
    else
      let (digits, exponent) := shortestDigits units
      let written := Decimal.digits digits
      .ofList (sign ++ layout (Decimal.dropTrailingZeros written) (written.length + exponent))

end Double

def Number.text : Number → String
  | whole n => toString n
  | double x => x.text

end Millwork
