import Millwork.Given.Choice
import Millwork.Given.Quantity

namespace Millwork

inductive ToolKind where
  | millingBit
  | drillBit
  deriving DecidableEq

def ToolKind.word : ToolKind → String
  | millingBit => "milling_bit"
  | drillBit => "drill_bit"

instance : Choice ToolKind := ⟨"ToolKind", [.millingBit, .drillBit], ToolKind.word⟩

structure Tool where
  id : String
  kind : ToolKind
  diameter : PositiveNumber
  spindleSpeed : PositiveNumber
  feedRate : PositiveNumber
  /-- The rate of a vertical cut; it counts for milling bits only. -/
  plungeRate : Option PositiveNumber
  maxDepth : Option PositiveNumber
  name : String
  id_ne : id ≠ ""
  name_ne : name ≠ ""
  deriving DecidableEq

namespace Tool

structure Draft where
  id : String
  kind : Json
  diameter : Json
  spindleSpeed : Json
  feedRate : Json
  plungeRate : Json
  maxDepth : Json
  name : String

def ofDraft (draft : Draft) : Attempt Tool := do
  if named : draft.id ≠ "" then
    let quantity := Quantity.tool draft.id
    let kind ← Choice.ofJson? draft.kind
    let diameter ← draft.diameter.positive? (quantity "diameter")
    let spindleSpeed ← draft.spindleSpeed.positive? (quantity "spindle_speed")
    let feedRate ← draft.feedRate.positive? (quantity "feed_rate")
    let plungeRate ← draft.plungeRate.positiveOrNone? (quantity "plunge_rate")
    let maxDepth ← draft.maxDepth.positiveOrNone? (quantity "max_depth")
    return {
      id := draft.id, kind, diameter, spindleSpeed, feedRate, plungeRate, maxDepth
      name := if draft.name = "" then draft.id else draft.name
      id_ne := named
      name_ne := by split <;> assumption }
  else throw (.refused .toolWithoutId)

def optional (quantity : Option PositiveNumber) : Json :=
  match quantity with
  | some a => .number a.val
  | none => .null

def toMembers (tool : Tool) : Json.Members :=
  [("id", .text tool.id), ("name", .text tool.name), ("kind", .text tool.kind.word),
    ("diameter", .number tool.diameter.val), ("spindle_speed", .number tool.spindleSpeed.val),
    ("feed_rate", .number tool.feedRate.val), ("plunge_rate", optional tool.plungeRate),
    ("max_depth", optional tool.maxDepth)]

end Tool

end Millwork
