import Millwork.Fault.Refusal

namespace Millwork

/-- A part of a job. Indices count from zero; what stands outside a list may have any. -/
inductive Place where
  | operation (index : Int)
  | point (operation : Int) (index : Nat)
  | entry (operation : Int)
  | exit (operation : Int)
  | tool (index : Int)
  | panel
  | dimensions
  deriving DecidableEq

def Place.title : Place → String
  | .operation n => s!"Operation {n + 1}"
  | .point n index => s!"Operation {n + 1} path[{index}]"
  | .entry n => s!"Operation {n + 1} entry"
  | .exit n => s!"Operation {n + 1} exit"
  | .tool n => s!"Tool {n + 1}"
  | .panel => "Panel"
  | .dimensions => "Panel dimensions"

inductive JobFault where
  | missing (place : Place) (name : String)
  | notANumber (place : Place) (name : String) (value : Json)
  | notAFlag (place : Place) (name : String) (value : Json)
  | notAPoint (place : Place) (value : Json)
  | pathNotAList (place : Place)
  | memberNotAnObject (place : Place) (name : String)
  | notAnObject (place : Place)
  | unknownKind (place : Place) (kinds : List String) (value : Json)
  | refused (place : Place) (refusal : Refusal)
  | catalogRefused (refusal : Refusal)
  | machineRefused (refusal : Refusal)
  | sectionNotAList (name : String)
  | machineNotAnObject
  | jobNotAnObject

def JobFault.message : JobFault → String
  | missing place name => s!"{place.title}: missing '{name}'"
  | notANumber place name value => s!"{place.title}: '{name}' must be a number, got {value.shown}"
  | notAFlag place name value =>
    s!"{place.title}: '{name}' must be true or false, got {value.shown}"
  | notAPoint place value => s!"{place.title}: invalid point {value.shown}, expected [x, y]"
  | pathNotAList place => s!"{place.title}: 'path' must be a list of points"
  | memberNotAnObject place name => s!"{place.title}: '{name}' must be an object"
  | notAnObject place => s!"{place.title}: expected an object"
  | unknownKind place kinds value =>
    let expected := ", ".intercalate kinds
    s!"{place.title}: unknown type {value.shown}, expected one of {expected}"
  | refused place refusal => s!"{place.title}: {refusal.message}"
  | catalogRefused refusal | machineRefused refusal => refusal.message
  | sectionNotAList name => s!"'{name}' must be a list"
  | machineNotAnObject => "'machine' must be an object"
  | jobNotAnObject => "Job must be a JSON object"

end Millwork
