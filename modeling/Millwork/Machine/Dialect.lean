import Millwork.Given.Choice
import Millwork.Given.Switch
import Millwork.Machine.Spelling
import Millwork.Notice

namespace Millwork

inductive Dialect where
  | generic
  | biesse
  | homag
  | scm
  | grbl
  deriving DecidableEq

namespace Dialect

def word : Dialect → String
  | generic => "generic"
  | biesse => "biesse"
  | homag => "homag"
  | scm => "scm"
  | grbl => "grbl"

def all : List Dialect := [generic, biesse, homag, scm, grbl]

instance : Choice Dialect := ⟨"Dialect", all, word⟩

def spelling : Dialect → Spelling
  | generic | grbl => ⟨"G0", "G1", .semicolon, true, none⟩
  | biesse => ⟨"G0", "G1", .semicolon, false, some "Program for Biesse"⟩
  | homag => ⟨"G00", "G01", .semicolon, false, some "Program for Homag"⟩
  | scm => ⟨"G0", "G1", .brackets, false, some "Program for SCM"⟩

def known? : Json → Option Dialect
  | .text name => Choice.ofWord? (Text.word name)
  | _ => none

/-- The dialect of a name, the generic one if the name is unknown. -/
def named (name : Json) : Traced Dialect :=
  match known? name with
  | some dialect => pure dialect
  | none => do
    Traced.note (.unknownDialect name)
    return generic

@[simp] theorem known?_word (dialect : Dialect) : known? (.text dialect.word) = some dialect := by
  cases dialect <;> rfl

@[simp] theorem named_word (dialect : Dialect) : named (.text dialect.word) = pure dialect := by
  rw [named, known?_word]

end Dialect

end Millwork
