import Millwork.Json.Display
import Millwork.Number.Numeral

namespace Millwork

inductive Unreadable where
  | flag (value : Json)
  | numeral (text : String)
  | wholeNumeral (text : String)
  | overlong (digits : Nat)
  | number (value : Json)

def Unreadable.excerpt (text : String) : String := .ofList ((Text.quoted text).toList.take 200)

def Unreadable.message : Unreadable → String
  | flag value => s!"expected true or false, got {value.shown}"
  | numeral text => s!"could not convert string to float: {Text.quoted text}"
  | wholeNumeral text => s!"invalid literal for int() with base 10: {excerpt text}"
  | overlong digits =>
    s!"Exceeds the limit ({Numeral.digitLimit} digits) for integer string conversion: " ++
      s!"value has {digits} digits; use sys.set_int_max_str_digits() to increase the limit"
  | number value => s!"float() argument must be a string or a real number, not '{value.kindName}'"

inductive Quantity where
  | tool (id name : String)
  | panel (name : String)
  | machine (name : String)
  | depth (kind : String)
  | passDepth (kind : String)
  | drillDiameter
  | entryRadius
  | pocketWidth

def Quantity.title : Quantity → String
  | tool id name => s!"Tool {Text.quoted id} {name}"
  | panel name => s!"panel {name}"
  | machine name => s!"Machine {name}"
  | depth kind => s!"{kind} depth"
  | passDepth kind => s!"{kind} pass_depth"
  | drillDiameter => "drill diameter"
  | entryRadius => "entry radius"
  | pocketWidth => "open pocket width"

inductive Subject where
  | tool
  | operation
  | panel
  | profile
  | choice
  deriving DecidableEq

def Quantity.subject : Quantity → Subject
  | tool .. => .tool
  | panel _ => .panel
  | machine _ => .profile
  | _ => .operation

inductive Refusal where
  | notPositive (quantity : Quantity) (value : Json)
  | negative (quantity : Quantity) (value : Json)
  | entryAngle (value : Json)
  | drillPosition (x y : Json)
  | panelOffset (value : Json)
  | emptyPath
  | pathCoordinate (index : Nat) (x y : Json)
  | toolWithoutId
  | operationWithoutTool (kind : String)
  | duplicateTool (id : String)
  | panelWord (name : String) (allowed : List String) (value : Json)
  | notAMember (title : String) (value : Json)
  | setting (cause : Unreadable)

namespace Refusal

def message : Refusal → String
  | notPositive quantity value => s!"{quantity.title} must be a positive number, got {value.shown}"
  | negative quantity value =>
    s!"{quantity.title} must be zero or a positive number, got {value.shown}"
  | entryAngle value => s!"entry angle must be finite, got {value.shown}"
  | drillPosition x y => s!"drill position ({x.shown}, {y.shown}) is not finite"
  | panelOffset value => s!"panel z_offset must be finite, got {value.shown}"
  | emptyPath => "path must contain at least one point"
  | pathCoordinate index x y =>
    s!"path[{index}] has a non-finite coordinate ({x.shown}, {y.shown})"
  | toolWithoutId => "Tool id must not be empty"
  | operationWithoutTool kind => s!"{kind} operation has no tool"
  | duplicateTool id => s!"Duplicate tool id {Text.quoted id} in catalog"
  | panelWord name allowed value =>
    let words := ", ".intercalate allowed
    s!"panel {name} must be one of {words}, got {value.shown}"
  | notAMember title value => s!"{value.shown} is not a valid {title}"
  | setting cause => s!"Invalid machine profile: {cause.message}"

def subject : Refusal → Subject
  | notPositive quantity _ | negative quantity _ => quantity.subject
  | toolWithoutId | duplicateTool _ => .tool
  | panelOffset _ | panelWord .. => .panel
  | notAMember .. => .choice
  | setting _ => .profile
  | entryAngle _ | drillPosition .. | emptyPath | pathCoordinate .. | operationWithoutTool _ =>
    .operation

def member? : Refusal → Option String
  | entryAngle _ => some "entry"
  | drillPosition .. => some "x"
  | emptyPath | pathCoordinate .. => some "path"
  | operationWithoutTool _ => some "tool_id"
  | _ => none

end Refusal

end Millwork
