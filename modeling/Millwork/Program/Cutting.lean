import Millwork.Notice
import Millwork.Program.Lead
import Millwork.Program.Passes
import Millwork.Tool.Rates

namespace Millwork

/-- How much deeper than the panel a hole through it is drilled. -/
def overtravel : Number := .double (.ofInt 2)

def Drill.cutDepth (drill : Drill) : Number :=
  if drill.through.isOn then drill.depth.val + overtravel else drill.depth.val

def Operation.cutDepth? : Operation → Option Number
  | drill task => some task.cutDepth
  | operation => operation.depth?

def description (summary : String) (tool : Tool) (comment : Option String) : List Line :=
  let toolLine := s!"Tool: {tool.name}, D{tool.diameter.val.operand} mm"
  let comments := comment.toList.filter (!·.isEmpty)
  .remark summary :: .remark toolLine :: comments.map .remark

def passHeading (pass : Pass Number) : Line :=
  .remark s!"Pass {pass.index + 1}/{pass.count} - depth {pass.height.operand} mm"

namespace Profile

variable (profile : Profile)

def retract (note : String) : Line :=
  .rapid (.height (PositiveNumber.toDouble profile.safeHeight)) note

def approach (start : Spot) : List Line :=
  [.rapid (.position start.1 start.2) "Go to start point", profile.retract "Safe height"]

def compensates (side : Compensation) : Bool := profile.toolCompensation.isOn && side != .none

end Profile

def Path.traverse (path : Path) (feed : Double) (closed : Bool) : List Line :=
  let cut (point : Point) (note : String) : Line :=
    .linear (.position point.x.val point.y.val) feed note
  path.rest.zipIdx.map (fun (point, index) => cut point s!"Point {index + 2}") ++
    if closed then [cut path.start "Close path"] else []

def Stepping.passes? (stepping : Stepping) (depth : NonnegNumber) :
    Except ArithmeticFault (List (Pass Number)) :=
  passes depth.val (stepping.passDepth.map (·.val)) stepping.multiPass.isOn

namespace Line

def startCompensation (side : Compensation) (tool : Tool) : Line :=
  .command (.compensate side (PositiveNumber.toDouble tool.diameter)) (some "Tool compensation")

def endCompensation : Line := .command .cancelCompensation (some "Cancel tool compensation")

end Line

/-! ## Kinds of operation -/

namespace Drill

def summary (drill : Drill) : String :=
  s!"Drill at X={drill.x.val.operand} Y={drill.y.val.operand}, " ++
    s!"D={drill.diameter.val.operand} mm, depth={drill.depth.val.operand} mm" ++
    if drill.through.isOn then ", through" else ""

def lines (drill : Drill) (tool : Tool) (profile : Profile) : List Line :=
  description drill.summary tool drill.comment ++
    [.rapid (.position drill.x.val.toDouble drill.y.val.toDouble) "Position over hole",
      profile.retract "Safe height",
      .linear (.height (-drill.cutDepth).toDouble)
        (PositiveNumber.toDouble (profile.plungeRateFor tool)) "Drill",
      profile.retract "Retract to safe height"]

end Drill

namespace Contour

def summary (contour : Contour) : String :=
  s!"Contour, {contour.path.length} points, depth {contour.depth.val.operand} mm"

/-- One pass. The first one enters as the contour says and the last one leaves so; compensation
starts at the height of the pass and ends before the tool retracts. -/
def pass (contour : Contour) (tool : Tool) (profile : Profile) (pass : Pass Number) : List Line :=
  let start := contour.path.start.spot
  let feed := PositiveNumber.toDouble (profile.feedRateFor tool)
  let plunge := PositiveNumber.toDouble (profile.plungeRateFor tool)
  let entry := if pass.isFirst then contour.entry else none
  let compensated := profile.compensates contour.compensation
  passHeading pass :: profile.approach start ++
    Line.entering entry start pass.height.toDouble plunge ++
    (if compensated then [Line.startCompensation contour.compensation tool] else []) ++
    (if isRampEntry entry then [Line.rampReturn start feed] else []) ++
    contour.path.traverse feed contour.closed.isOn ++
    (if pass.isLast then Line.leaving contour.exit start plunge else []) ++
    (if compensated then [Line.endCompensation] else []) ++
    [profile.retract "Retract to safe height"]

def lines (contour : Contour) (tool : Tool) (profile : Profile) : Traced (List Line) := do
  let passes ← (contour.passes? contour.depth : Attempt _)
  Traced.note (.contourCut contour.path.length passes.length)
  return description contour.summary tool contour.comment ++
    passes.flatMap (contour.pass tool profile)

end Contour

def pocketPass (path : Path) (closed : Bool) (tool : Tool) (profile : Profile)
    (pass : Pass Number) : List Line :=
  passHeading pass :: profile.approach path.start.spot ++
    Line.plunge pass.height.toDouble (PositiveNumber.toDouble (profile.plungeRateFor tool)) ::
    path.traverse (PositiveNumber.toDouble (profile.feedRateFor tool)) closed ++
    [profile.retract "Retract to safe height"]

def strategyLine (word : String) : Line := .remark s!"Strategy: {word}"

namespace ClosedPocket

def summary (pocket : ClosedPocket) : String :=
  s!"Closed pocket, {pocket.path.length} points, depth {pocket.depth.val.operand} mm"

def lines (pocket : ClosedPocket) (tool : Tool) (profile : Profile) :
    Except ArithmeticFault (List Line) := do
  let passes ← pocket.passes? pocket.depth
  return description pocket.summary tool pocket.comment ++
    strategyLine pocket.strategy.word ::
    passes.flatMap (pocketPass pocket.path true tool profile)

end ClosedPocket

namespace OpenPocket

def summary (pocket : OpenPocket) : String :=
  s!"Open pocket, {pocket.path.length} points, depth {pocket.depth.val.operand} mm, " ++
    s!"width {pocket.width.val.operand} mm"

def lines (pocket : OpenPocket) (tool : Tool) (profile : Profile) :
    Except ArithmeticFault (List Line) := do
  let passes ← pocket.passes? pocket.depth
  return description pocket.summary tool pocket.comment ++
    strategyLine pocket.strategy.word ::
    passes.flatMap (pocketPass pocket.path false tool profile)

end OpenPocket

def Operation.lines (operation : Operation) (tool : Tool) (profile : Profile) :
    Traced (List Line) :=
  match operation with
  | drill task => pure (task.lines tool profile)
  | contour task => task.lines tool profile
  | closedPocket task => (task.lines tool profile : Attempt _)
  | openPocket task => (task.lines tool profile : Attempt _)
  | ofNoKind .. => (throw .notCuttable : Attempt _)

end Millwork
