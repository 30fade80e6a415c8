import Millwork.Text.Basic
import Millwork.Text.Quoted

namespace Millwork

inductive Level where
  | debug
  | info
  | warning
  | error
  | critical
  deriving DecidableEq

inductive LevelFault where
  | layout (pattern : String)
  | layoutTable

def LevelFault.message : LevelFault → String
  | layout pattern => s!"Unknown level: {Text.quoted pattern}"
  | layoutTable => "Level not an integer or a valid string"

namespace Level

def rank : Level → Nat
  | debug => 10
  | info => 20
  | warning => 30
  | error => 40
  | critical => 50

def word : Level → String
  | debug => "DEBUG"
  | info => "INFO"
  | warning => "WARNING"
  | error => "ERROR"
  | critical => "CRITICAL"

/-- What the names of settings stand for: the rank from which notices are shown, or no level. -/
def meanings : List (String × Except LevelFault Nat) :=
  [("NOTSET", .ok 0), ("DEBUG", .ok debug.rank), ("INFO", .ok info.rank),
    ("WARN", .ok warning.rank), ("WARNING", .ok warning.rank), ("ERROR", .ok error.rank),
    ("CRITICAL", .ok critical.rank), ("FATAL", .ok critical.rank),
    ("BASIC_FORMAT", .error (.layout "%(levelname)s:%(name)s:%(message)s")),
    ("_STYLES", .error .layoutTable)]

/-- The rank from which notices are shown; that of information for a name that means nothing. -/
def threshold (name : String) : Except LevelFault Nat :=
  (meanings.lookup (.ofList (Text.capitals name.toList))).getD (.ok info.rank)

end Level

end Millwork
