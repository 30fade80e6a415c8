import Millwork.Json.Reader

/-!
# Encodings of documents

A document starts with two ASCII characters, so the zeros among its first octets tell how wide the
units are that its characters are written in, and in which order the octets of a unit come.
-/

namespace Millwork.Json

inductive ByteOrder where
  | highFirst
  | lowFirst
  deriving DecidableEq

inductive Encoding where
  | single
  | double (order : ByteOrder)
  | quadruple (order : ByteOrder)
  deriving DecidableEq

def ByteOrder.unit (order : ByteOrder) (octets : List Nat) : Nat :=
  match order with
  | highFirst => octets.foldl (256 * · + ·) 0
  | lowFirst => octets.foldr (· + 256 * ·) 0

namespace Encoding

def ofOctets : List Nat → Encoding
  | 0 :: 0 :: _ :: _ :: _ => quadruple .highFirst
  | 0 :: _ :: _ :: _ :: _ => double .highFirst
  | _ :: 0 :: 0 :: 0 :: _ => quadruple .lowFirst
  | _ :: 0 :: _ :: _ :: _ => double .lowFirst
  | [0, _] => double .highFirst
  | [_, 0] => double .lowFirst
  | _ => single

def pairs? (order : ByteOrder) : List Nat → Option (List Nat)
  | [] => some []
  | a :: b :: rest => (pairs? order rest).map (order.unit [a, b] :: ·)
  | _ => none

def quadruples? (order : ByteOrder) : List Nat → Option (List Nat)
  | [] => some []
  | a :: b :: c :: d :: rest => (quadruples? order rest).map (order.unit [a, b, c, d] :: ·)
  | _ => none

def codePoints : List Nat → List Nat
  | leading :: trailing :: rest =>
    if isLeading leading && isTrailing trailing then
      (0x10000 + (leading - 0xD800) * 0x400 + (trailing - 0xDC00)) :: codePoints rest
    else leading :: codePoints (trailing :: rest)
  | units => units

def ofCodePoints? (codes : List Nat) : Option String :=
  if codes.all fun code => decide code.isValidChar then some (.ofList (codes.map Char.ofNat))
  else none

def text? : Encoding → List Nat → Option String
  | single, _ => none
  | double order, octets => (pairs? order octets).bind (ofCodePoints? ∘ codePoints)
  | quadruple order, octets => (quadruples? order octets).bind ofCodePoints?

end Encoding

end Millwork.Json
