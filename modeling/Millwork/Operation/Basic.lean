import Millwork.Given.Switch
import Millwork.Operation.Lead
import Millwork.Operation.Path

namespace Millwork

inductive OperationKind where
  | drill
  | contour
  | closedPocket
  | openPocket
  deriving DecidableEq

namespace OperationKind

def all : List OperationKind := [drill, contour, closedPocket, openPocket]

def word : OperationKind → String
  | drill => "drill"
  | contour => "contour"
  | closedPocket => "closed_pocket"
  | openPocket => "open_pocket"

end OperationKind

inductive Compensation where
  | none
  | left
  | right
  deriving DecidableEq

def Compensation.word : Compensation → String
  | none => "none"
  | left => "left"
  | right => "right"

instance : Choice Compensation := ⟨"Compensation", [.none, .left, .right], Compensation.word⟩

inductive ClosedStrategy where
  | spiral
  | zigzag
  | contour
  deriving DecidableEq

def ClosedStrategy.word : ClosedStrategy → String
  | spiral => "spiral"
  | zigzag => "zigzag"
  | contour => "contour"

instance : Choice ClosedStrategy :=
  ⟨"ClosedPocketStrategy", [.spiral, .zigzag, .contour], ClosedStrategy.word⟩

inductive OpenStrategy where
  | zigzag
  | parallel
  deriving DecidableEq

def OpenStrategy.word : OpenStrategy → String
  | zigzag => "zigzag"
  | parallel => "parallel"

instance : Choice OpenStrategy := ⟨"OpenPocketStrategy", [.zigzag, .parallel], OpenStrategy.word⟩

/-! ## Kinds of operation -/

structure Task where
  toolId : String
  depth : NonnegNumber
  comment : Option String
  toolId_ne : toolId ≠ ""

structure Stepping where
  multiPass : Switch
  passDepth : Option PositiveNumber

structure Drill extends Task where
  x : FiniteNumber
  y : FiniteNumber
  diameter : PositiveNumber
  through : Switch

structure Contour extends Task, Stepping where
  path : Path
  closed : Switch
  entry : Option Entry
  exit : Option Exit
  compensation : Compensation

structure ClosedPocket extends Task, Stepping where
  path : Path
  strategy : ClosedStrategy
  entry : Option Entry

structure OpenPocket extends Task, Stepping where
  path : Path
  width : NonnegNumber
  strategy : OpenStrategy

inductive Operation where
  | drill (drill : Drill)
  | contour (contour : Contour)
  | closedPocket (pocket : ClosedPocket)
  | openPocket (pocket : OpenPocket)
  | ofNoKind (toolId : String) (depth : Json) (comment : Option String)

namespace Operation

def kind? : Operation → Option OperationKind
  | drill _ => some .drill
  | contour _ => some .contour
  | closedPocket _ => some .closedPocket
  | openPocket _ => some .openPocket
  | ofNoKind .. => none

def kindWord (operation : Operation) : String :=
  match operation.kind? with
  | some kind => kind.word
  | none => ""

def toolId : Operation → String
  | drill task => task.toolId
  | contour task => task.toolId
  | closedPocket task => task.toolId
  | openPocket task => task.toolId
  | ofNoKind toolId .. => toolId

def depth? : Operation → Option Number
  | drill task => some task.depth.val
  | contour task => some task.depth.val
  | closedPocket task => some task.depth.val
  | openPocket task => some task.depth.val
  | ofNoKind _ depth _ => depth.amount?

def comment : Operation → Option String
  | drill task => task.comment
  | contour task => task.comment
  | closedPocket task => task.comment
  | openPocket task => task.comment
  | ofNoKind _ _ comment => comment

end Operation

end Millwork
