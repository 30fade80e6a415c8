import Millwork.File.Path
import Millwork.Text.Basic

namespace Millwork.FileName

def isKept (c : Char) : Bool := c.isAlphanum || c == '_' || c == '-'

def lengthLimit : Nat := 50

def kept (name : List Char) : List Char :=
  ((name.map fun c => if c = ' ' then '_' else c).filter isKept).take lengthLimit

def stem (name : String) : String :=
  let characters := kept name.toList
  if characters.isEmpty then "program" else .ofList characters

def ofPanel (name : String) : String := stem name ++ ".nc"

def path (directory name : String) : String := FilePath.join directory (ofPanel name)

end Millwork.FileName
