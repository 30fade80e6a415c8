import Millwork.Job.Part
import Millwork.Operation.Draft

namespace Millwork

structure Slot where
  index : Int

namespace Slot

variable (slot : Slot)

def point (index : Nat) (given : Json) : Attempt (Json × Json) :=
  let place := Place.point slot.index index
  let pair (x y : Attempt Double) : Attempt (Json × Json) := do
    return (Json.ofDouble (← x), Json.ofDouble (← y))
  match given with
  | .object members =>
    let part := Part.mk place members
    pair (part.number "x") (part.number "y")
  | .list (x :: y :: _) => (pair x.double? y.double?).orFault (.notAPoint place given)
  | _ => throw (.rejected [.notAPoint place given])

def path (part : Part) : Attempt (List (Json × Json)) :=
  match part.members.get? "path" with
  | some (.list points) => points.zipIdx.mapM fun (given, index) => slot.point index given
  | _ => throw (.rejected [.pathNotAList part.place])

def object? (part : Part) (name : String) : Attempt (Option Json.Members) :=
  match part.members.get? name with
  | none => return none
  | some value =>
    if value.isVoid then return none
    else match value with
      | .object members => return some members
      | _ => throw (.rejected [.memberNotAnObject part.place name])

def entry (part : Part) : Attempt (Option Entry) := do
  match ← object? part "entry" with
  | none => return none
  | some members =>
    let part := Part.mk (.entry slot.index) members
    let style := (part.text? "type").getD "vertical"
    let angle ← part.number? "angle"
    let radius ← part.number? "radius"
    some <$> Entry.ofDraft ⟨.text style, .ofDouble? angle, .ofDouble? radius⟩

def exit (part : Part) : Attempt (Option Exit) := do
  match ← object? part "exit" with
  | none => return none
  | some members =>
    let part := Part.mk (.exit slot.index) members
    some <$> Exit.ofGiven (.text ((part.text? "type").getD "vertical"))

def task (part : Part) : Attempt TaskDraft := do
  return {
    toolId := ← part.text "tool"
    depth := .ofDouble (← part.number "depth")
    comment := part.text? "comment" }

def stepping (part : Part) : Attempt SteppingDraft := do
  return {
    multiPass := .bool (← part.flag "multi_pass")
    passDepth := .ofDouble? (← part.number? "pass_depth") }

def drill (part : Part) : Attempt Drill := do
  let task ← task part
  let x ← part.number "x"
  let y ← part.number "y"
  let diameter ← part.number "diameter"
  let through ← part.flag "through"
  Drill.ofDraft { task with
    x := .ofDouble x, y := .ofDouble y, diameter := .ofDouble diameter, through := .bool through }

def contour (part : Part) : Attempt Contour := do
  let task ← task part
  let stepping ← stepping part
  let path ← slot.path part
  let closed ← part.flag "closed"
  let entry ← slot.entry part
  let exit ← slot.exit part
  let compensation := (part.text? "compensation").getD "none"
  Contour.ofDraft { task, stepping with
    path, closed := .bool closed, entry, exit, compensation := .text compensation }

def closedPocket (part : Part) : Attempt ClosedPocket := do
  let task ← task part
  let stepping ← stepping part
  let path ← slot.path part
  let strategy := (part.text? "strategy").getD "contour"
  let entry ← slot.entry part
  ClosedPocket.ofDraft { task, stepping with path, strategy := .text strategy, entry }

def openPocket (part : Part) : Attempt OpenPocket := do
  let task ← task part
  let stepping ← stepping part
  let path ← slot.path part
  let width ← part.number? "width"
  let strategy := (part.text? "strategy").getD "zigzag"
  OpenPocket.ofDraft { task, stepping with
    path, width := .ofDouble (width.getD (.zero false)), strategy := .text strategy }

def ofKind (part : Part) : OperationKind → Attempt Operation
  | .drill => .drill <$> drill part
  | .contour => .contour <$> slot.contour part
  | .closedPocket => .closedPocket <$> slot.closedPocket part
  | .openPocket => .openPocket <$> slot.openPocket part

end Slot

namespace OperationKind

def ofMembers? (members : Json.Members) : Option OperationKind :=
  match members.get? "type" with
  | some (.text word) => all.find? (·.word == word)
  | _ => none

end OperationKind

namespace Operation

def ofJson (index : Int) (given : Json) : Attempt Operation :=
  let place := Place.operation index
  match given with
  | .object members =>
    match OperationKind.ofMembers? members with
    | some kind => ((Slot.mk index).ofKind ⟨place, members⟩ kind).inJob (.refused place)
    | none =>
      let kinds := OperationKind.all.map OperationKind.word
      throw (.rejected [.unknownKind place kinds (.ofOption (Json.Members.get? members "type"))])
  | _ => throw (.rejected [.notAnObject place])

/-- The operations from an index on, or the faults of all of them. Another fault than one of the
job counts before those. -/
def listOfJson : (index : Int) → List Json → Attempt (List Operation)
  | _, [] => return []
  | index, given :: rest =>
    match ofJson index given, listOfJson (index + 1) rest with
    | .ok operation, .ok operations => .ok (operation :: operations)
    | .ok _, .error fault => .error fault
    | .error (.rejected faults), .error (.rejected others) => .error (.rejected (faults ++ others))
    | .error (.rejected _), .error fault => .error fault
    | .error fault, _ => .error fault

end Operation

end Millwork
