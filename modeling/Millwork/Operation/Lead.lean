import Millwork.Given.Choice
import Millwork.Given.Quantity

namespace Millwork

inductive EntryStyle where
  | vertical
  | ramp
  | spiral
  deriving DecidableEq

def EntryStyle.word : EntryStyle → String
  | vertical => "vertical"
  | ramp => "ramp"
  | spiral => "spiral"

instance : Choice EntryStyle := ⟨"EntryType", [.vertical, .ramp, .spiral], EntryStyle.word⟩

inductive ExitStyle where
  | vertical
  | ramp
  | straight
  deriving DecidableEq

def ExitStyle.word : ExitStyle → String
  | vertical => "vertical"
  | ramp => "ramp"
  | straight => "straight"

instance : Choice ExitStyle := ⟨"ExitType", [.vertical, .ramp, .straight], ExitStyle.word⟩

structure Entry where
  style : EntryStyle
  angle : Option FiniteNumber
  radius : Option PositiveNumber
  deriving DecidableEq

namespace Entry

structure Draft where
  style : Json
  angle : Json
  radius : Json

def ofDraft (draft : Draft) : Attempt Entry := do
  let style ← Choice.ofJson? draft.style
  let angle ← match draft.angle with
    | .null => pure none
    | given => do
      match ← given.finite? with
      | some angle => pure (some angle)
      | none => throw (.refused (.entryAngle given))
  let radius ← draft.radius.positiveOrNone? .entryRadius
  return { style, angle, radius }

end Entry

structure Exit where
  style : ExitStyle
  deriving DecidableEq

def Exit.ofGiven (style : Json) : Attempt Exit := return ⟨← Choice.ofJson? style⟩

end Millwork
