import Millwork.Number.Fixed
import Millwork.Number.Shortest

namespace Millwork

/-- A warning names its operation by a number; programs count operations from one. -/
inductive Warning where
  | missingTool (number : Number) (kind toolId : String)
  | tooDeep (number : Number) (depth : Number) (toolId : String) (limit : Number)

def Warning.message : Warning → String
  | missingTool number _ toolId => s!"ERROR: tool \"{toolId}\" not found for operation {number.text}"
  | tooDeep number depth toolId limit =>
    s!"WARNING: operation {number.text} cuts {depth.operand} mm deep, " ++
      s!"tool \"{toolId}\" max depth is {limit.operand} mm"

end Millwork
