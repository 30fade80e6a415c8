import Millwork.Text.Quoted

namespace Millwork

inductive FileFault.Cause where
  | absent
  | present
  | notADirectory
  | isADirectory
  | nameTooLong
  deriving DecidableEq

def FileFault.Cause.all : List FileFault.Cause :=
  [absent, present, notADirectory, isADirectory, nameTooLong]

def FileFault.Cause.number : FileFault.Cause → Nat
  | absent => 2
  | present => 17
  | notADirectory => 20
  | isADirectory => 21
  | nameTooLong => 36

def FileFault.Cause.description : FileFault.Cause → String
  | absent => "No such file or directory"
  | present => "File exists"
  | notADirectory => "Not a directory"
  | isADirectory => "Is a directory"
  | nameTooLong => "File name too long"

inductive FileFault where
  | refused (cause : FileFault.Cause) (path : String)
  /-- A character of code zero ends a path for the system, so no path may hold one. -/
  | zeroCharacter
  | tooDeep

def FileFault.message : FileFault → String
  | refused cause path => s!"[Errno {cause.number}] {cause.description}: {Text.quoted path}"
  | zeroCharacter => "embedded null byte"
  | tooDeep => "Too many directories are missing"

end Millwork
