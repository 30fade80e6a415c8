import Millwork.Proofs.Number.Operand
import Millwork.Machine.Dialect
import Millwork.Program.Command

namespace Millwork

/-- Neither a blank nor a control character, nor a mark of a comment. -/
def Text.isPlain (c : Char) : Bool :=
  !isBlank c && !isControl c && c != ';' && c != '(' && c != ')'

namespace Text

theorem isPlain_of_isAlphanum {c : Char} (alphanumeric : c.isAlphanum = true) :
    isPlain c = true := by
  have classes : (c.isUpper = true ∨ c.isLower = true) ∨ c.isDigit = true := by
    rw [← Bool.or_eq_true, ← Bool.or_eq_true]
    exact alphanumeric
  have bounds : (65 ≤ c.toNat ∧ c.toNat ≤ 90 ∨ 97 ≤ c.toNat ∧ c.toNat ≤ 122) ∨
      48 ≤ c.toNat ∧ c.toNat ≤ 57 := by
    rcases classes with (upper | lower) | digit
    · exact .inl (.inl (of_decide_eq_true upper))
    · obtain ⟨above, below⟩ := Bool.and_eq_true_iff.mp lower
      exact .inl (.inr ⟨of_decide_eq_true above, of_decide_eq_true below⟩)
    · exact .inr (Char.isDigit_iff_toNat.mp digit)
  have distinct (d : Char) (code : d.toNat = 59 ∨ d.toNat = 40 ∨ d.toNat = 41) : c ≠ d := by
    rintro rfl
    omega
  have notBlank : isBlank c = false := by
    simp [isBlank, inRanges, blankRanges]
    omega
  have notControl : isControl c = false := by
    simp [isControl]
    omega
  simp [isPlain, notBlank, notControl, distinct ';' (by decide), distinct '(' (by decide),
    distinct ')' (by decide)]

theorem isBlank_of_isPlain {c : Char} (plain : isPlain c = true) : isBlank c = false := by
  simp [isPlain] at plain
  simp [plain]

theorem isControl_of_all {text : List Char} (clean : text.all (!isControl ·) = true) :
    ∀ c ∈ text, isControl c = false := by
  simpa using clean

theorem isControl_of_isPlain {c : Char} (plain : isPlain c = true) : isControl c = false := by
  simp [isPlain] at plain
  simp [plain]

end Text

/-! ## Reading and writing -/

structure Instruction where
  code : String
  words : List (Char × String)
  deriving DecidableEq

namespace Instruction

def wordText (word : Char × String) : String := .ofList (word.1 :: word.2.toList)

def fields (instruction : Instruction) : List String :=
  instruction.code :: instruction.words.map wordText

def text (instruction : Instruction) : String := " ".intercalate instruction.fields

def word? : List Char → Option (Char × String)
  | letter :: operand => some (letter, .ofList operand)
  | [] => none

def read? (line : String) : Option Instruction :=
  match (line.toList.splitOn ' ').filter (!·.isEmpty) with
  | [] => none
  | code :: words => some ⟨.ofList code, words.filterMap word?⟩

def operand? (instruction : Instruction) (letter : Char) : Option String :=
  instruction.words.lookup letter

/-- All characters stand for themselves, and there is a code. -/
structure Plain (instruction : Instruction) : Prop where
  code_ne : instruction.code.toList ≠ []
  code : ∀ c ∈ instruction.code.toList, Text.isPlain c = true
  words : ∀ word ∈ instruction.words, ∀ c ∈ (wordText word).toList, Text.isPlain c = true

theorem Plain.field_ne {instruction : Instruction} (plain : instruction.Plain) {field : String}
    (mem : field ∈ instruction.fields) : field.toList ≠ [] := by
  rcases List.mem_cons.mp mem with rfl | mem
  · exact plain.code_ne
  · obtain ⟨word, -, rfl⟩ := List.mem_map.mp mem
    rw [wordText, String.toList_ofList]
    exact List.cons_ne_nil _ _

theorem Plain.field {instruction : Instruction} (plain : instruction.Plain) {field : String}
    (mem : field ∈ instruction.fields) : ∀ c ∈ field.toList, Text.isPlain c = true := by
  rcases List.mem_cons.mp mem with rfl | mem
  · exact plain.code
  · obtain ⟨word, member, rfl⟩ := List.mem_map.mp mem
    exact plain.words word member

theorem word?_wordText (word : Char × String) : word? (wordText word).toList = some word := by
  rw [wordText, String.toList_ofList, word?, String.ofList_toList]

theorem filterMap_word? (words : List (Char × String)) :
    ((words.map wordText).map String.toList).filterMap word? = words := by
  induction words with
  | nil => rfl
  | cons word words ih => rw [List.map_cons, List.map_cons, List.filterMap_cons, word?_wordText, ih]

theorem splitOn_text {instruction : Instruction} (plain : instruction.Plain) :
    instruction.text.toList.splitOn ' ' = instruction.fields.map String.toList := by
  rw [text, String.toList_intercalate]
  apply List.splitOn_intercalate
  · intro field mem blank
    obtain ⟨source, member, rfl⟩ := List.mem_map.mp mem
    have := Text.isBlank_of_isPlain (plain.field member ' ' blank)
    revert this
    decide
  · exact List.cons_ne_nil _ _

theorem read?_text {instruction : Instruction} (plain : instruction.Plain) :
    read? instruction.text = some instruction := by
  have kept : (instruction.fields.map String.toList).filter (!·.isEmpty) =
      instruction.fields.map String.toList := by
    rw [List.filter_eq_self]
    intro field mem
    obtain ⟨source, member, rfl⟩ := List.mem_map.mp mem
    simpa using plain.field_ne member
  rw [read?, splitOn_text plain, kept]
  simp only [fields, List.map_cons, filterMap_word?, String.ofList_toList]

end Instruction

/-! ## Commands -/

def Target.operands (target : Target) : List (Char × String) :=
  let word (letter : Char) (operand : Option Double) : List (Char × String) :=
    operand.toList.map fun a => (letter, a.operand)
  word 'X' target.x ++ word 'Y' target.y ++ word 'Z' target.z

namespace Command

def instruction (spelling : Spelling) : Command → Instruction
  | rapid target => ⟨spelling.rapid, target.operands⟩
  | linear target feed =>
    ⟨spelling.linear, target.operands ++ feed.toList.map (('F', ·.operand))⟩
  | absolutePositions => ⟨"G90", []⟩
  | millimetres => ⟨"G21", []⟩
  | startSpindle speed => ⟨"M3", [('S', speed.operand)]⟩
  | stopSpindle => ⟨"M5", []⟩
  | compensate .left diameter => ⟨"G41", [('D', diameter.operand)]⟩
  | compensate _ diameter => ⟨"G42", [('D', diameter.operand)]⟩
  | cancelCompensation => ⟨"G40", []⟩
  | endProgram => ⟨"M30", []⟩

end Command

namespace Instruction

theorem append_eq_wordText {mark : String} {letter : Char} (same : mark.toList = [letter])
    (operand : String) : mark ++ operand = wordText (letter, operand) := by
  rw [← String.toList_inj, String.toList_append, same, wordText, String.toList_ofList]
  rfl

theorem text_of_word (code : String) (word : Char × String) :
    (⟨code, [word]⟩ : Instruction).text = code ++ " " ++ wordText word := by
  rw [← String.toList_inj, text, String.toList_intercalate]
  simp [fields]

def IsOperandWord (word : Char × String) : Prop :=
  word.1.isAlphanum = true ∧ ∃ x : Double, word.2 = x.operand

theorem IsOperandWord.plain {word : Char × String} (operand : IsOperandWord word) :
    ∀ c ∈ (wordText word).toList, Text.isPlain c = true := by
  obtain ⟨letter, x, value⟩ := operand
  intro c mem
  rw [wordText, String.toList_ofList, value] at mem
  rcases List.mem_cons.mp mem with rfl | mem
  · exact Text.isPlain_of_isAlphanum letter
  · rcases Double.mem_operand mem with digit | rfl | rfl | word
    · exact Text.isPlain_of_isAlphanum (by simp [Char.isAlphanum, digit])
    · decide
    · decide
    · exact List.all_eq_true.mp (by decide : ['n', 'a', 'i', 'f'].all Text.isPlain = true) c word

end Instruction

namespace Target

theorem words_eq (target : Target) : target.words = target.operands.map Instruction.wordText := by
  have word (letter : Char) (mark : String) (same : mark.toList = [letter])
      (operand : Option Double) :
      operand.toList.map (fun a => mark ++ a.operand) =
        (operand.toList.map fun a => (letter, a.operand)).map Instruction.wordText := by
    cases operand with
    | none => rfl
    | some a => simp [Instruction.append_eq_wordText same]
  simp only [words, operands, List.map_append, word 'X' "X" rfl, word 'Y' "Y" rfl,
    word 'Z' "Z" rfl]

theorem isOperandWord {target : Target} {word : Char × String} (mem : word ∈ target.operands) :
    Instruction.IsOperandWord word := by
  simp only [operands, List.mem_append, List.mem_map] at mem
  rcases mem with (⟨x, -, rfl⟩ | ⟨x, -, rfl⟩) | ⟨x, -, rfl⟩
  · exact ⟨show 'X'.isAlphanum = true by decide, x, rfl⟩
  · exact ⟨show 'Y'.isAlphanum = true by decide, x, rfl⟩
  · exact ⟨show 'Z'.isAlphanum = true by decide, x, rfl⟩

end Target

namespace Command

theorem text_eq (spelling : Spelling) (command : Command) :
    command.text spelling = (command.instruction spelling).text := by
  have marked {mark : String} {letter : Char} (same : mark.toList = [letter]) (code : String)
      (x : Double) :
      code ++ " " ++ mark ++ x.operand = (⟨code, [(letter, x.operand)]⟩ : Instruction).text := by
    rw [Instruction.text_of_word, ← Instruction.append_eq_wordText same, String.append_assoc]
  cases command with
  | rapid target =>
      rw [text, Target.words_eq]
      rfl
  | linear target feed =>
      rw [text, Target.words_eq]
      cases feed with
      | none => simp [instruction, Instruction.text, Instruction.fields]
      | some feed =>
          simp [instruction, Instruction.text, Instruction.fields,
            Instruction.append_eq_wordText (show "F".toList = ['F'] from rfl)]
  | startSpindle speed => exact marked (show "S".toList = ['S'] from rfl) "M3" speed
  | compensate side diameter =>
      cases side with
      | left => exact marked (show "D".toList = ['D'] from rfl) "G41" diameter
      | none => exact marked (show "D".toList = ['D'] from rfl) "G42" diameter
      | right => exact marked (show "D".toList = ['D'] from rfl) "G42" diameter
  | _ => rfl

theorem isOperandWord (spelling : Spelling) (command : Command) {word : Char × String}
    (mem : word ∈ (command.instruction spelling).words) : Instruction.IsOperandWord word := by
  cases command with
  | rapid target => exact Target.isOperandWord mem
  | linear target feed =>
      rcases List.mem_append.mp mem with mem | mem
      · exact Target.isOperandWord mem
      · obtain ⟨x, -, rfl⟩ := List.mem_map.mp mem
        exact ⟨show 'F'.isAlphanum = true by decide, x, rfl⟩
  | startSpindle speed =>
      cases List.mem_singleton.mp mem
      exact ⟨show 'S'.isAlphanum = true by decide, speed, rfl⟩
  | compensate side diameter =>
      have : word = ('D', diameter.operand) := by
        cases side <;> exact List.mem_singleton.mp mem
      subst this
      exact ⟨show 'D'.isAlphanum = true by decide, diameter, rfl⟩
  | _ => cases mem

def codes : List String :=
  ["G0", "G00", "G1", "G01", "G90", "G21", "M3", "M5", "G41", "G42", "G40", "M30"]

theorem code_mem (dialect : Dialect) (command : Command) :
    (command.instruction dialect.spelling).code ∈ codes := by
  cases command with
  | rapid target => cases dialect <;> simp [instruction, codes, Dialect.spelling]
  | linear target feed => cases dialect <;> simp [instruction, codes, Dialect.spelling]
  | compensate side diameter => cases side <;> simp [instruction, codes]
  | _ => simp [instruction, codes]

theorem instruction_plain (dialect : Dialect) (command : Command) :
    (command.instruction dialect.spelling).Plain := by
  have checked : codes.all (fun code => !code.toList.isEmpty && code.toList.all Text.isPlain) =
      true := by decide
  have code := List.all_eq_true.mp checked _ (code_mem dialect command)
  rw [Bool.and_eq_true, Bool.not_eq_true', List.isEmpty_eq_false_iff, List.all_eq_true] at code
  exact ⟨code.1, code.2, fun word mem => (isOperandWord _ command mem).plain⟩

end Command

end Millwork
