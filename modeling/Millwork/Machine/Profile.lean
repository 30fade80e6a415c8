import Millwork.Given.Quantity
import Millwork.Machine.Dialect

namespace Millwork

structure Profile where
  dialect : Dialect
  safeHeight : PositiveNumber
  spindleSpeed : PositiveNumber
  feedRate : PositiveNumber
  plungeRate : PositiveNumber
  /-- Whether the controller offsets the path by the radius of the tool. -/
  toolCompensation : Switch
  /-- Whether a tool is fed at its own rates. -/
  toolRates : Switch

namespace Profile

def standard : Profile where
  dialect := .generic
  safeHeight := ⟨.double (.ofInt 10), by decide +kernel⟩
  spindleSpeed := .whole 18000
  feedRate := .whole 800
  plungeRate := .whole 300
  toolCompensation := false
  toolRates := true

structure Draft where
  dialect : Json
  safeHeight : Json
  spindleSpeed : Json
  feedRate : Json
  plungeRate : Json
  toolCompensation : Json
  toolRates : Json

def ofDraft (draft : Draft) : Traced Profile := do
  let dialect ← Dialect.named draft.dialect
  let safeHeight ← draft.safeHeight.positive? (.machine "safe_height")
  let spindleSpeed ← draft.spindleSpeed.positive? (.machine "spindle_speed")
  let feedRate ← draft.feedRate.positive? (.machine "feed_rate")
  let plungeRate ← draft.plungeRate.positive? (.machine "plunge_rate")
  return {
    dialect, safeHeight, spindleSpeed, feedRate, plungeRate
    toolCompensation := ⟨draft.toolCompensation⟩
    toolRates := ⟨draft.toolRates⟩ }

def toDraft (profile : Profile) : Draft where
  dialect := .text profile.dialect.word
  safeHeight := .number profile.safeHeight.val
  spindleSpeed := .number profile.spindleSpeed.val
  feedRate := .number profile.feedRate.val
  plungeRate := .number profile.plungeRate.val
  toolCompensation := profile.toolCompensation.given
  toolRates := profile.toolRates.given

def toMembers (profile : Profile) : Json.Members :=
  let draft := profile.toDraft
  [("dialect", draft.dialect), ("safe_height", draft.safeHeight),
    ("spindle_speed", draft.spindleSpeed), ("feed_rate", draft.feedRate),
    ("plunge_rate", draft.plungeRate), ("use_tool_compensation", draft.toolCompensation),
    ("use_tool_rates", draft.toolRates)]

/-! ## Reading -/

def settled {α : Type} (attempt : Attempt α) : Attempt α :=
  attempt.mapError fun
    | .unreadable cause => .refused (.setting cause)
    | fault => fault

def readDraft (members : Json.Members) (base : Draft) : Attempt Draft := do
  let double (name : String) (value : Json) : Attempt Json :=
    (.number ∘ .double) <$> ((members.get? name).getD value).double?
  let flag (name : String) (value : Json) : Attempt Json := do
    return .bool (← ((members.get? name).getD value).flag?)
  return {
    dialect := (members.get? "dialect").getD base.dialect
    safeHeight := ← double "safe_height" base.safeHeight
    spindleSpeed := ← double "spindle_speed" base.spindleSpeed
    feedRate := ← double "feed_rate" base.feedRate
    plungeRate := ← double "plunge_rate" base.plungeRate
    toolCompensation := ← flag "use_tool_compensation" base.toolCompensation
    toolRates := ← flag "use_tool_rates" base.toolRates }

def ofMembers (members : Json.Members) (base : Profile) : Traced Profile := do
  let draft ← settled (readDraft members base.toDraft)
  ofDraft draft

/-- The settings of the machine among those of the application, named as members of a profile. A
name in another case stands for the same member. -/
def machineMembers (settings : Json.Members) : Json.Members :=
  settings.foldl (fun members setting =>
    match Text.after? "MACHINE_".toList setting.1.toList, setting.2 with
    | none, _ | _, .null => members
    | some name, value => members.set (.ofList (Text.lower name)) value) []

def ofSettings (settings : Json.Members) : Traced Profile :=
  ofMembers (machineMembers settings) standard

end Profile

end Millwork
