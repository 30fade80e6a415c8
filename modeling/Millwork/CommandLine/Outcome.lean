import Millwork.CommandLine.Arguments
import Millwork.Fault.Basic
import Millwork.File.Tree
import Millwork.Level
import Millwork.Text.Utf8

namespace Millwork

inductive Failure where
  | level (fault : LevelFault)
  | fault (fault : Fault)
  | file (fault : FileFault)
  | undecodable (fault : Utf8.Fault)
  | tooDeep

def Failure.message : Failure → String
  | level cause => cause.message
  | fault cause => cause.message
  | file cause => cause.message
  | undecodable cause => cause.message
  | tooDeep => "Values are nested too deep"

inductive Ending where
  | exit (code : Nat)
  | failure (failure : Failure)

structure Outcome where
  output : String
  /-- The notices that are shown, at the front of the error output. -/
  log : String
  errors : String
  file : Option (String × String)
  ending : Ending

namespace Outcome

def failed (log : String) (failure : Failure) : Outcome := ⟨"", log, "", none, .failure failure⟩

def unwritten (outcome : Outcome) (fault : FileFault) : Outcome := failed outcome.log (.file fault)

def carryOut (outcome : Outcome) (tree : FileTree) : Outcome × FileTree :=
  match outcome.file with
  | none => (outcome, tree)
  | some (path, text) =>
    match (FileTree.write path text).run tree with
    | (.ok (), after) => (outcome, after)
    | (.error fault, after) => (outcome.unwritten fault, after)

end Outcome

def Text.ended (lines : List String) : String := String.join (lines.map (· ++ "\n"))

/-! ## Usage -/

def usage : List String :=
  ["usage: panelcam [-h] [-o OUTPUT] [--dialect \x7bgeneric,biesse,homag,scm,grbl\x7d]",
    "                [--print]",
    "                job_file"]

def help : List String :=
  usage ++
    ["",
      "Generate a CNC program from a panel job file",
      "",
      "positional arguments:",
      "  job_file              JSON job: panel, operations, tools, machine",
      "",
      "options:",
      "  -h, --help            show this help message and exit",
      "  -o OUTPUT, --output OUTPUT",
      "                        Program file to write (default: OUTPUT_DIR/<panel>.nc)",
      "  --dialect \x7bgeneric,biesse,homag,scm,grbl\x7d",
      "                        Override the machine dialect",
      "  --print               Print the program instead of writing a file"]

def Arguments.Stop.outcome : Arguments.Stop → Outcome
  | help => ⟨Text.ended Millwork.help, "", "", none, .exit 0⟩
  | fault cause =>
    ⟨"", "", Text.ended (usage ++ ["panelcam: error: " ++ cause.message]), none, .exit 2⟩

end Millwork
