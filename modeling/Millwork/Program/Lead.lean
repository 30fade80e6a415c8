import Millwork.Program.Line

namespace Millwork

/-- How far a ramp leads away from the start of the path, on either axis. -/
def rampDistance : Double := .ofInt 10

abbrev Spot := Double × Double

def Point.spot (point : Point) : Spot := (point.x.val, point.y.val)

def rampSpot (start : Spot) : Spot := (start.1 + rampDistance, start.2 + rampDistance)

def isRampEntry (entry : Option Entry) : Bool := entry.any (·.style = .ramp)

def isRampExit (exit : Option Exit) : Bool := exit.any (·.style = .ramp)

def surface : Double := .zero false

namespace Line

def plunge (z rate : Double) : Line := linear (.height z) rate "Vertical plunge"

def entering (entry : Option Entry) (start : Spot) (z rate : Double) : List Line :=
  if isRampEntry entry then
    let (x, y) := rampSpot start
    [linear (.height surface) rate "Touch surface",
      linear ⟨some x, some y, some z⟩ rate "Ramp entry"]
  else [plunge z rate]

def rampReturn (start : Spot) (feed : Double) : Line :=
  linear (.position start.1 start.2) feed "Back to path start"

def leaving (exit : Option Exit) (start : Spot) (rate : Double) : List Line :=
  if isRampExit exit then
    let (x, y) := rampSpot start
    [linear ⟨some x, some y, some surface⟩ rate "Ramp exit"]
  else []

end Line

end Millwork
