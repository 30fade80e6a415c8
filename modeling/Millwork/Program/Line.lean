import Millwork.Program.Command

namespace Millwork

inductive Line where
  | blank
  | remark (text : String)
  | command (order : Command) (note : Option String)
  deriving DecidableEq

namespace Line

def rapid (target : Target) (note : String) : Line := command (.rapid target) (some note)

def linear (target : Target) (feed : Double) (note : String) : Line :=
  command (.linear target (some feed)) (some note)

def render (spelling : Spelling) : Line → String
  | blank => ""
  | remark text => spelling.comment text
  | .command order note => spelling.annotated (order.text spelling) note

def command? : Line → Option Command
  | .command order _ => some order
  | _ => none

end Line

def commands (lines : List Line) : List Command := lines.filterMap Line.command?

end Millwork
