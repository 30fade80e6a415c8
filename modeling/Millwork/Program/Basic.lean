import Millwork.Panel
import Millwork.Program.Cutting
import Millwork.Program.Timestamp
import Millwork.Tool.Catalog

namespace Millwork

abbrev Block := List Line

structure Program where
  dialect : Dialect
  preamble : List Line
  stamp : Line
  setup : List Line
  blocks : List Block
  footer : List Line
  warnings : List Warning

namespace Program

def header (program : Program) : List Line := program.preamble ++ program.stamp :: program.setup

def body (program : Program) : List Line :=
  program.header ++ program.blocks.flatten ++ program.footer

def render (program : Program) (lines : List Line) : List String :=
  lines.map (Line.render program.dialect.spelling)

def lines (program : Program) : List String := program.render program.body

end Program

def joinLines (lines : List String) : String := "\n".intercalate lines ++ "\n"

namespace Program

def text (program : Program) : String := joinLines program.lines

def stampLine (program : Program) : String := program.stamp.render program.dialect.spelling

def withoutStamp (program : Program) : String :=
  joinLines (program.lines.filter (· != program.stampLine))

end Program

/-! ## Head and foot -/

def Panel.preamble (panel : Panel) : List Line :=
  let sizes := [panel.length, panel.width, panel.thickness].map (·.val.operand)
  let material := if panel.material.isEmpty then "unspecified" else panel.material
  [.remark s!"Program for: {panel.name}",
    .remark ("Dimensions: " ++ " x ".intercalate sizes ++ " mm"),
    .remark s!"Material: {material}",
    .remark (s!"Origin: {panel.origin.title}, {panel.face.word} face, " ++
      s!"Z offset {panel.zOffset.val.operand} mm")]

def stampLine (stamp : Timestamp) : Line := .remark s!"Generated: {stamp.text}"

namespace Profile

variable (profile : Profile)

def setup : List Line :=
  let speed := PositiveNumber.toDouble profile.spindleSpeed
  (profile.dialect.spelling.banner.toList.map .remark) ++
    [.command .absolutePositions (some "Absolute positioning"),
      .command .millimetres (some "Units in millimeters"),
      profile.retract "Safe height",
      .command (.startSpindle speed) (some "Start spindle")]

def footer : List Line :=
  [profile.retract "Safe height",
    .command .stopSpindle (some "Stop spindle"),
    .command .endProgram (some "End of program")]

def headerAround (panel : Panel) (stamp : String) : List String :=
  let render := Line.render profile.dialect.spelling
  panel.preamble.map render ++ stamp :: profile.setup.map render

end Profile

/-! ## Blocks -/

def depthWarning? (number : Number) (operation : Operation) (tool : Tool) :
    Attempt (Option Warning) := do
  let some limit := tool.maxDepth | return none
  let some depth := operation.cutDepth? | throw .depthNotANumber
  if depth ≤ limit.val then return none
  let _ ← depth.toDouble?
  return some (.tooDeep number depth tool.id limit.val)

def Warning.remark (warning : Warning) : Traced Line := do
  Traced.note (.blockWarning warning)
  return .remark warning.message

def block (profile : Profile) (catalog : Catalog) (number : Number) (operation : Operation) :
    Traced (Block × Option Warning) := do
  match catalog.find? operation.toolId with
  | none =>
    let warning := Warning.missingTool number operation.kindWord operation.toolId
    return ([← warning.remark], some warning)
  | some tool =>
    let heading : List Line := [.blank, .remark s!"Operation {number.text}: {operation.kindWord}"]
    let warning ← depthWarning? number operation tool
    let remarks ← warning.toList.mapM Warning.remark
    let lines ← operation.lines tool profile
    return (heading ++ remarks ++ lines, warning)

/-! ## Assembly -/

/-- The program of a panel. Operations are counted from one. -/
def assemble (profile : Profile) (panel : Panel) (operations : List Operation) (catalog : Catalog)
    (stamp : Timestamp) : Traced Program := do
  let blocks ← (operations.zipIdx 1).mapM fun (operation, number) =>
    block profile catalog (.whole number) operation
  Traced.note (.assembled blocks.length panel.name profile.dialect.word)
  return {
    dialect := profile.dialect
    preamble := panel.preamble
    stamp := stampLine stamp
    setup := profile.setup
    blocks := blocks.map (·.1)
    footer := .blank :: profile.footer
    warnings := blocks.filterMap (·.2) }

end Millwork
