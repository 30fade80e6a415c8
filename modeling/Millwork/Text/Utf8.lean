import Millwork.Text.Quoted

/-!
# Decoding UTF-8

The leading octet of a character says how many follow and narrows the range of the first of them,
which rules out overlong forms, surrogates and codes beyond the last one. A text is decoded up to
its first fault; the fault covers the octets that could still have been a character.
-/

namespace Millwork.Utf8

attribute [local instance (high)] instPowNat

/-- What a leading octet promises: how many octets follow, the range of the first of them, and the
bits that it contributes itself. -/
structure Lead where
  following : Nat
  low : Nat
  high : Nat
  bits : Nat

def lead? (octet : Nat) : Option Lead :=
  if octet < 0x80 then some ⟨0, 0, 0, octet⟩
  else if octet < 0xC2 then none
  else if octet < 0xE0 then some ⟨1, 0x80, 0xBF, octet % 0x20⟩
  else if octet = 0xE0 then some ⟨2, 0xA0, 0xBF, 0⟩
  else if octet = 0xED then some ⟨2, 0x80, 0x9F, 0xD⟩
  else if octet < 0xF0 then some ⟨2, 0x80, 0xBF, octet % 0x10⟩
  else if octet = 0xF0 then some ⟨3, 0x90, 0xBF, 0⟩
  else if octet < 0xF4 then some ⟨3, 0x80, 0xBF, octet % 0x08⟩
  else if octet = 0xF4 then some ⟨3, 0x80, 0x8F, 4⟩
  else none

inductive Cause where
  | invalidStart
  | invalidContinuation
  | unexpectedEnd
  deriving DecidableEq

def Cause.description : Cause → String
  | invalidStart => "invalid start byte"
  | invalidContinuation => "invalid continuation byte"
  | unexpectedEnd => "unexpected end of data"

structure Fault where
  cause : Cause
  position : Nat
  octets : List Nat

def Fault.message (fault : Fault) : String :=
  let place := match fault.octets with
    | [octet] => s!"byte 0x{String.ofList (Text.hexadecimal 2 octet)} in position {fault.position}"
    | octets => s!"bytes in position {fault.position}-{fault.position + octets.length - 1}"
  s!"'utf-8' codec can't decode {place}: {fault.cause.description}"

/-- The octets that follow a leading one, or the cause why not and how many of them fit. -/
def continuation (low high : Nat) : (count : Nat) → List Nat → Except (Cause × Nat) Nat
  | count, octets => go low high count octets 0 0
where
  go (low high : Nat) : (count : Nat) → List Nat → (fitting value : Nat) → Except (Cause × Nat) Nat
    | 0, _, _, value => .ok value
    | _ + 1, [], fitting, _ => .error (.unexpectedEnd, fitting)
    | count + 1, octet :: octets, fitting, value =>
      if low ≤ octet && octet ≤ high then
        go 0x80 0xBF count octets (fitting + 1) (value * 0x40 + octet % 0x40)
      else .error (.invalidContinuation, fitting)

def decodeFrom (position : Nat) (octets : List Nat) : Except Fault (List Char) :=
  match octets with
  | [] => .ok []
  | first :: rest =>
    match lead? first with
    | none => .error ⟨.invalidStart, position, [first]⟩
    | some lead =>
      match continuation lead.low lead.high lead.following rest with
      | .error (cause, fitting) => .error ⟨cause, position, first :: rest.take fitting⟩
      | .ok value => do
        let c := Char.ofNat (lead.bits * 0x40 ^ lead.following + value)
        let rest ← decodeFrom (position + 1 + lead.following) (rest.drop lead.following)
        return c :: rest
termination_by octets.length
decreasing_by simp only [List.length_cons, List.length_drop]; omega

def decode (octets : List Nat) : Except Fault String := String.ofList <$> decodeFrom 0 octets

end Millwork.Utf8
