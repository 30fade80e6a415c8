import Millwork.Machine.Spelling
import Millwork.Number.Fixed
import Millwork.Operation.Basic

namespace Millwork

/-- Where a move goes; an axis that is left out keeps its position. -/
structure Target where
  x : Option Double
  y : Option Double
  z : Option Double
  deriving DecidableEq

namespace Target

def height (z : Double) : Target := ⟨none, none, some z⟩

def position (x y : Double) : Target := ⟨some x, some y, none⟩

def words (target : Target) : List String :=
  let word (letter : String) (operand : Option Double) : List String :=
    operand.toList.map fun a => letter ++ a.operand
  word "X" target.x ++ word "Y" target.y ++ word "Z" target.z

end Target

inductive Command where
  | rapid (target : Target)
  | linear (target : Target) (feed : Option Double)
  | absolutePositions
  | millimetres
  | startSpindle (speed : Double)
  | stopSpindle
  /-- The controller runs the tool beside the path, by half of its diameter. -/
  | compensate (side : Compensation) (diameter : Double)
  | cancelCompensation
  | endProgram
  deriving DecidableEq

namespace Command

def text (spelling : Spelling) : Command → String
  | rapid target => " ".intercalate (spelling.rapid :: target.words)
  | linear target feed =>
    " ".intercalate (spelling.linear :: target.words ++ feed.toList.map ("F" ++ ·.operand))
  | absolutePositions => "G90"
  | millimetres => "G21"
  | startSpindle speed => "M3 S" ++ speed.operand
  | stopSpindle => "M5"
  | compensate .left diameter => "G41 D" ++ diameter.operand
  | compensate _ diameter => "G42 D" ++ diameter.operand
  | cancelCompensation => "G40"
  | endProgram => "M30"

end Command

end Millwork
