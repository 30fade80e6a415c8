import Millwork.Operation.Basic

namespace Millwork

structure TaskDraft where
  toolId : String
  depth : Json
  comment : Option String

def Task.ofDraft (kind : OperationKind) (draft : TaskDraft) : Attempt Task := do
  if named : draft.toolId ≠ "" then
    let depth ← draft.depth.nonnegative? (.depth kind.word)
    return ⟨draft.toolId, depth, draft.comment, named⟩
  else throw (.refused (.operationWithoutTool kind.word))

structure SteppingDraft where
  multiPass : Json
  passDepth : Json

def Stepping.ofDraft (kind : OperationKind) (draft : SteppingDraft) : Attempt Stepping := do
  let passDepth ← draft.passDepth.positiveOrNone? (.passDepth kind.word)
  return ⟨⟨draft.multiPass⟩, passDepth⟩

structure DrillDraft extends TaskDraft where
  x : Json
  y : Json
  diameter : Json
  through : Json

def Drill.ofDraft (draft : DrillDraft) : Attempt Drill := do
  let task ← Task.ofDraft .drill draft.toTaskDraft
  let misplaced := Fault.refused (.drillPosition draft.x draft.y)
  let some x ← draft.x.finite? | throw misplaced
  let some y ← draft.y.finite? | throw misplaced
  let diameter ← draft.diameter.positive? .drillDiameter
  return { task with x, y, diameter, through := ⟨draft.through⟩ }

structure ContourDraft extends TaskDraft, SteppingDraft where
  path : List (Json × Json)
  closed : Json
  entry : Option Entry
  exit : Option Exit
  compensation : Json

def Compensation.ofGiven (value : Json) : Except Refusal Compensation :=
  if value.isVoid then .ok .none else Choice.ofJson? value

def Contour.ofDraft (draft : ContourDraft) : Attempt Contour := do
  let task ← Task.ofDraft .contour draft.toTaskDraft
  let path ← Path.ofCoordinates draft.path
  let stepping ← Stepping.ofDraft .contour draft.toSteppingDraft
  let compensation ← Compensation.ofGiven draft.compensation
  return { task, stepping with
           path, closed := ⟨draft.closed⟩, entry := draft.entry, exit := draft.exit, compensation }

structure ClosedPocketDraft extends TaskDraft, SteppingDraft where
  path : List (Json × Json)
  strategy : Json
  entry : Option Entry

def ClosedPocket.ofDraft (draft : ClosedPocketDraft) : Attempt ClosedPocket := do
  let task ← Task.ofDraft .closedPocket draft.toTaskDraft
  let path ← Path.ofCoordinates draft.path
  let stepping ← Stepping.ofDraft .closedPocket draft.toSteppingDraft
  let strategy ← Choice.ofJson? draft.strategy
  return { task, stepping with path, strategy, entry := draft.entry }

structure OpenPocketDraft extends TaskDraft, SteppingDraft where
  path : List (Json × Json)
  width : Json
  strategy : Json

def OpenPocket.ofDraft (draft : OpenPocketDraft) : Attempt OpenPocket := do
  let task ← Task.ofDraft .openPocket draft.toTaskDraft
  let path ← Path.ofCoordinates draft.path
  let stepping ← Stepping.ofDraft .openPocket draft.toSteppingDraft
  let strategy ← Choice.ofJson? draft.strategy
  let width ← draft.width.nonnegative? .pocketWidth
  return { task, stepping with path, width, strategy }

end Millwork
