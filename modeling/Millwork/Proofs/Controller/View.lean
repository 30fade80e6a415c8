import Millwork.Proofs.Controller.Instruction
import Millwork.Program.Basic

/-!
# What a controller takes notice of

A controller splits a text at carriage returns and line feeds, passes over comments, blanks at the
ends of lines, and empty lines, and takes notice of what is left: `CommentStyle.view`.
-/

namespace Millwork

namespace CommentStyle

def outside : (hidden : Bool) → List Char → List Char
  | _, [] => []
  | false, c :: rest => if c = '(' then outside true rest else c :: outside false rest
  | true, c :: rest => outside (c != ')') rest

def uncomment (style : CommentStyle) (line : List Char) : List Char :=
  match style with
  | semicolon => line.takeWhile (· != ';')
  | brackets => outside false line

/-- A line without its comments and the blanks at its ends. -/
def seen (style : CommentStyle) (line : String) : String :=
  .ofList (Text.trim (style.uncomment line.toList))

def isBreak (c : Char) : Bool := c == '\r' || c == '\n'

def view (style : CommentStyle) (text : String) : List String :=
  ((text.toList.splitOnP isBreak).map fun line => style.seen (.ofList line)).filter (· != "")

def read (style : CommentStyle) (lines : List String) : List Instruction :=
  lines.filterMap fun line => Instruction.read? (style.seen line)

theorem read_append (style : CommentStyle) (front back : List String) :
    style.read (front ++ back) = style.read front ++ style.read back := List.filterMap_append

end CommentStyle

/-! ## Trimming -/

namespace Text

theorem mem_of_mem_trim {c : Char} {text : List Char} (mem : c ∈ trim text) : c ∈ text := by
  have front := (List.dropWhile_sublist isBlank).subset (List.mem_reverse.mp mem)
  exact (List.dropWhile_sublist isBlank).subset (List.mem_reverse.mp front)

theorem trim_append {text blanks : List Char} (first : ∀ c ∈ text.head?, isBlank c = false)
    (last : ∀ c ∈ text.getLast?, isBlank c = false) (blank : ∀ c ∈ blanks, isBlank c = true) :
    trim (text ++ blanks) = text := by
  have stays {chars : List Char} (front : ∀ c ∈ chars.head?, isBlank c = false) :
      chars.dropWhile isBlank = chars := by
    cases chars with
    | nil => rfl
    | cons c chars => exact List.dropWhile_cons_of_neg (by simp [front c rfl])
  cases text with
  | nil =>
      have gone : blanks.dropWhile isBlank = [] := by
        rw [← List.append_nil blanks, List.dropWhile_append_of_pos blank]
        rfl
      rw [List.nil_append, trim, gone]
      rfl
  | cons c text =>
      rw [trim, List.cons_append, List.dropWhile_cons_of_neg (by simp [first c rfl]),
        ← List.cons_append, List.reverse_append,
        List.dropWhile_append_of_pos fun c mem => blank c (List.mem_reverse.mp mem), stays,
        List.reverse_reverse]
      rwa [List.head?_reverse]

end Text

/-! ## Comments -/

theorem isControl_flatten (text : List Char) : ∀ c ∈ flatten text, Text.isControl c = false := by
  induction text with
  | nil => simp [flatten]
  | cons d rest ih =>
      rw [flatten]
      split
      · rename_i clean
        simpa using ⟨by simpa using clean, ih⟩
      · split
        · exact ih
        · exact fun c mem => by
            rcases List.mem_cons.mp mem with rfl | mem
            · decide
            · exact ih c mem

namespace CommentStyle

theorem isControl_body (style : CommentStyle) (text : String) :
    ∀ c ∈ style.body text, Text.isControl c = false := by
  have line {c : Char} (mem : c ∈ Text.trim (flatten text.toList)) : Text.isControl c = false :=
    isControl_flatten _ c (Text.mem_of_mem_trim mem)
  intro c mem
  cases style with
  | semicolon => exact line mem
  | brackets =>
      obtain ⟨d, member, rfl⟩ := List.mem_map.mp mem
      unfold squareBracket
      split
      · decide
      · decide
      · exact line member

theorem squareBracket_ne (c : Char) : squareBracket c ≠ '(' ∧ squareBracket c ≠ ')' := by
  unfold squareBracket
  split
  · decide
  · decide
  · rename_i opening closing
    exact ⟨opening, closing⟩

theorem squareBracket_eq_iff {c d : Char} (apart : d ∉ ['(', ')', '[', ']']) :
    squareBracket c = d ↔ c = d := by
  unfold squareBracket
  split <;> simp at apart ⊢ <;> grind

theorem outside_true_body (text : String) (rest : List Char) :
    outside true (brackets.body text ++ ')' :: rest) = outside false rest := by
  rw [body]
  -- No character of the body closes the comment, so all of it stays hidden.
  generalize Text.trim (flatten text.toList) = line
  induction line with
  | nil => rfl
  | cons c line ih =>
      rw [List.map_cons, List.cons_append, outside]
      have apart : (squareBracket c != ')') = true := by simp [(squareBracket_ne c).2]
      rw [apart]
      exact ih

theorem uncomment_append (style : CommentStyle) {front : List Char} (opening : '(' ∉ front)
    (semicolon : ';' ∉ front) (rest : List Char) :
    style.uncomment (front ++ rest) = front ++ style.uncomment rest := by
  induction front with
  | nil => rfl
  | cons c front ih =>
      simp only [List.mem_cons, not_or] at opening semicolon
      have next := ih opening.2 semicolon.2
      cases style with
      | semicolon =>
          have kept : (c != ';') = true := by simpa using Ne.symm semicolon.1
          rw [List.cons_append, uncomment, List.takeWhile_cons_of_pos (p := (· != ';')) kept]
          exact congrArg (c :: ·) next
      | brackets =>
          rw [List.cons_append, uncomment, outside, if_neg (Ne.symm opening.1)]
          exact congrArg (c :: ·) next

end CommentStyle

namespace Spelling

theorem toList_comment (spelling : Spelling) (text : String) :
    (spelling.comment text).toList = spelling.comments.opening.toList ++
      spelling.comments.body text ++ spelling.comments.closing.toList := by
  simp [comment]

theorem isControl_comment (spelling : Spelling) (text : String) :
    ∀ c ∈ (spelling.comment text).toList, Text.isControl c = false := by
  intro c mem
  rw [toList_comment, List.mem_append, List.mem_append] at mem
  rcases mem with (opening | body) | closing
  · generalize spelling.comments = style at opening
    cases style
    · exact Text.isControl_of_all (by decide) c opening
    · exact Text.isControl_of_all (by decide) c opening
  · exact CommentStyle.isControl_body _ _ c body
  · generalize spelling.comments = style at closing
    cases style
    · exact Text.isControl_of_all (by decide) c closing
    · exact Text.isControl_of_all (by decide) c closing

theorem uncomment_comment (spelling : Spelling) (text : String) :
    spelling.comments.uncomment (spelling.comment text).toList = [] := by
  rw [toList_comment]
  generalize spelling.comments = style
  cases style with
  | semicolon => rfl
  | brackets => exact CommentStyle.outside_true_body text []

end Spelling

/-! ## Lines -/

/-- A text of plain characters and blanks, none of the blanks at an end. -/
structure Text.Bare (text : List Char) : Prop where
  ne_nil : text ≠ []
  plain : ∀ c ∈ text, Text.isPlain c = true ∨ c = ' '
  first : ∀ c ∈ text.head?, Text.isBlank c = false
  last : ∀ c ∈ text.getLast?, Text.isBlank c = false

namespace Text

theorem Bare.not_mem {text : List Char} (bare : Bare text) {c : Char} (mark : isPlain c = false)
    (visible : c ≠ ' ') : c ∉ text := by
  intro mem
  rcases bare.plain c mem with plain | blank
  · rw [mark] at plain
    cases plain
  · exact visible blank

theorem bare_of_plain {field : List Char} (ne : field ≠ [])
    (plain : ∀ c ∈ field, isPlain c = true) : Bare field where
  ne_nil := ne
  plain c mem := .inl (plain c mem)
  first c mem := isBlank_of_isPlain (plain c (List.mem_of_mem_head? mem))
  last c mem := isBlank_of_isPlain (plain c (List.mem_of_mem_getLast? mem))

theorem Bare.append {front back : List Char} (bare : Bare front) (bare' : Bare back) :
    Bare (front ++ [' '] ++ back) where
  ne_nil := by simp
  plain c mem := by
    simp only [List.mem_append, List.mem_singleton] at mem
    rcases mem with (mem | blank) | mem
    · exact bare.plain c mem
    · exact .inr blank
    · exact bare'.plain c mem
  first c mem := by
    obtain ⟨d, rest, rfl⟩ := List.exists_cons_of_ne_nil bare.ne_nil
    exact bare.first c mem
  last c mem := by
    rw [List.getLast?_append, List.getLast?_eq_some_getLast bare'.ne_nil, Option.some_or,
      ← List.getLast?_eq_some_getLast bare'.ne_nil] at mem
    exact bare'.last c mem

theorem bare_intercalate (fields : List (List Char)) (ne : fields ≠ [])
    (bare : ∀ field ∈ fields, Bare field) : Bare ([' '].intercalate fields) := by
  induction fields with
  | nil => exact absurd rfl ne
  | cons field rest ih =>
      have here := bare field List.mem_cons_self
      cases rest with
      | nil => rwa [List.intercalate_singleton]
      | cons next rest =>
          rw [List.intercalate_cons_cons]
          exact here.append (ih (List.cons_ne_nil _ _) fun field mem =>
            bare field (List.mem_cons_of_mem _ mem))

end Text

theorem Instruction.Plain.bare {instruction : Instruction} (plain : instruction.Plain) :
    Text.Bare instruction.text.toList := by
  rw [Instruction.text, String.toList_intercalate]
  refine Text.bare_intercalate _ (List.cons_ne_nil _ _) fun field mem => ?_
  obtain ⟨source, member, rfl⟩ := List.mem_map.mp mem
  exact Text.bare_of_plain (plain.field_ne member) (plain.field member)

namespace Spelling

theorem seen_comment (spelling : Spelling) (text : String) :
    spelling.comments.seen (spelling.comment text) = "" := by
  rw [CommentStyle.seen, uncomment_comment]
  rfl

theorem seen_annotated (spelling : Spelling) {command : String} (bare : Text.Bare command.toList)
    (note : Option String) :
    spelling.comments.seen (spelling.annotated command note) = command := by
  have opening : '(' ∉ command.toList := bare.not_mem (by decide) (by decide)
  have semicolon : ';' ∉ command.toList := bare.not_mem (by decide) (by decide)
  -- Behind the command the controller sees blanks at most.
  have ends (rest : List Char)
      (blank : ∀ c ∈ spelling.comments.uncomment rest, Text.isBlank c = true) :
      String.ofList (Text.trim (spelling.comments.uncomment (command.toList ++ rest))) =
        command := by
    rw [CommentStyle.uncomment_append _ opening semicolon,
      Text.trim_append bare.first bare.last blank, String.ofList_toList]
  have alone : spelling.comments.seen command = command := by
    have nothing : spelling.comments.uncomment [] = [] := by
      cases spelling.comments <;> rfl
    have := ends [] (by simp [nothing])
    rwa [List.append_nil] at this
  cases note with
  | none => exact alone
  | some text =>
      rw [annotated]
      split
      · rw [CommentStyle.seen, String.toList_append, String.toList_append, List.append_assoc]
        apply ends
        rw [CommentStyle.uncomment_append _ (by decide) (by decide), uncomment_comment]
        exact List.all_eq_true.mp (by decide)
      · exact alone

theorem isControl_annotated (spelling : Spelling) {command : String}
    (bare : Text.Bare command.toList) (note : Option String) :
    ∀ c ∈ (spelling.annotated command note).toList, Text.isControl c = false := by
  have own : ∀ c ∈ command.toList, Text.isControl c = false := by
    intro c mem
    rcases bare.plain c mem with plain | rfl
    · exact Text.isControl_of_isPlain plain
    · decide
  cases note with
  | none => exact own
  | some text =>
      rw [annotated]
      split
      · intro c mem
        simp only [String.toList_append, List.mem_append] at mem
        rcases mem with (mem | blank) | mem
        · exact own c mem
        · exact Text.isControl_of_all (by decide) c blank
        · exact spelling.isControl_comment text c mem
      · exact own

end Spelling

namespace Line

variable (dialect : Dialect)

theorem bare_text (command : Command) : Text.Bare (command.text dialect.spelling).toList := by
  rw [Command.text_eq]
  exact (command.instruction_plain dialect).bare

theorem seen_render (line : Line) :
    dialect.spelling.comments.seen (line.render dialect.spelling) =
      (line.command?.map (Command.text dialect.spelling)).getD "" := by
  cases line with
  | blank => cases dialect <;> rfl
  | remark text => exact dialect.spelling.seen_comment text
  | command order note => exact dialect.spelling.seen_annotated (bare_text dialect order) note

theorem isControl_render (line : Line) :
    ∀ c ∈ (line.render dialect.spelling).toList, Text.isControl c = false := by
  cases line with
  | blank => exact nofun
  | remark text => exact dialect.spelling.isControl_comment text
  | command order note => exact dialect.spelling.isControl_annotated (bare_text dialect order) note

end Line

/-! ## Texts -/

theorem CommentStyle.isBreak_of_isControl {c : Char} (clean : Text.isControl c = false) :
    isBreak c = false := by
  have apart : c ≠ '\r' ∧ c ≠ '\n' := by
    constructor <;>
      · rintro rfl
        revert clean
        decide
  simp [isBreak, apart]

theorem splitOnP_joinLines {ends : Char → Bool} (ending : ends '\n' = true) {line : String}
    {lines : List String} (clean : ∀ text ∈ line :: lines, ∀ c ∈ text.toList, ends c = false) :
    (joinLines (line :: lines)).toList.splitOnP ends =
      (line :: lines).map String.toList ++ [[]] := by
  rw [joinLines, String.toList_append, String.toList_intercalate]
  change List.splitOnP _ (['\n'].intercalate _ ++ ['\n']) = _
  induction lines generalizing line with
  | nil =>
      rw [List.map_singleton, List.intercalate_singleton,
        List.splitOnP_append_cons_of_forall_mem (clean line List.mem_cons_self) _ ending]
      rfl
  | cons next lines ih =>
      rw [List.map_cons, List.map_cons, List.intercalate_cons_cons, List.append_assoc,
        List.append_assoc, List.singleton_append,
        List.splitOnP_append_cons_of_forall_mem (clean line List.mem_cons_self) _ ending,
        ← List.map_cons, ih fun text mem => clean text (List.mem_cons_of_mem _ mem)]
      rfl

theorem joinLines_injective {first second : List String} (nonempty : first ≠ [])
    (nonempty' : second ≠ [])
    (clean : ∀ line ∈ first, ∀ c ∈ line.toList, Text.isControl c = false)
    (clean' : ∀ line ∈ second, ∀ c ∈ line.toList, Text.isControl c = false)
    (same : joinLines first = joinLines second) : first = second := by
  obtain ⟨line, lines, rfl⟩ := List.exists_cons_of_ne_nil nonempty
  obtain ⟨line', lines', rfl⟩ := List.exists_cons_of_ne_nil nonempty'
  have split := congrArg (fun text : String => text.toList.splitOnP Text.isControl) same
  simp only [splitOnP_joinLines (by decide) clean, splitOnP_joinLines (by decide) clean',
    List.append_left_inj] at split
  exact (List.map_inj_right fun _ _ => String.toList_inj.mp).mp split

theorem CommentStyle.view_joinLines (style : CommentStyle) {lines : List String}
    (clean : ∀ line ∈ lines, ∀ c ∈ line.toList, isBreak c = false) :
    style.view (joinLines lines) = (lines.map style.seen).filter (· != "") := by
  have empty : style.seen (.ofList []) = "" := by
    cases style <;> rfl
  rw [view]
  cases lines with
  | nil => cases style <;> decide
  | cons line lines =>
      rw [splitOnP_joinLines (by decide) clean, List.map_append, List.filter_append, List.map_map]
      simp [empty, Function.comp_def]

theorem Dialect.read_render (dialect : Dialect) (lines : List Line) :
    dialect.spelling.comments.read (lines.map (Line.render dialect.spelling)) =
      (commands lines).map (Command.instruction dialect.spelling) := by
  rw [CommentStyle.read, commands]
  induction lines with
  | nil => rfl
  | cons line lines ih =>
      rw [List.map_cons, List.filterMap_cons, Line.seen_render, List.filterMap_cons]
      cases found : line.command? with
      | none => exact ih
      | some command =>
          have plain := command.instruction_plain dialect
          rw [Option.map_some, Option.getD_some, Command.text_eq, Instruction.read?_text plain, ih]
          rfl

namespace Program

variable (program : Program)

theorem isControl_lines :
    ∀ line ∈ program.lines, ∀ c ∈ line.toList, Text.isControl c = false := by
  intro text mem c member
  obtain ⟨line, -, rfl⟩ := List.mem_map.mp mem
  exact line.isControl_render program.dialect c member

theorem seen_render (lines : List Line) :
    ((program.render lines).map program.dialect.spelling.comments.seen).filter (· != "") =
      (commands lines).map (Command.text program.dialect.spelling) := by
  rw [render, commands]
  induction lines with
  | nil => rfl
  | cons line lines ih =>
      rw [List.map_cons, List.map_cons, Line.seen_render, List.filterMap_cons]
      cases found : line.command? with
      | none => exact ih
      | some command =>
          have written : (command.text program.dialect.spelling != "") = true := by
            have ne := (Line.bare_text program.dialect command).ne_nil
            simpa using fun same => ne (by rw [same]; rfl)
          rw [Option.map_some, Option.getD_some,
            List.filter_cons_of_pos (p := (· != "")) written, ih]
          rfl

theorem view_text :
    program.dialect.spelling.comments.view program.text =
      (commands program.body).map (Command.text program.dialect.spelling) := by
  have clean : ∀ line ∈ program.lines, ∀ c ∈ line.toList, CommentStyle.isBreak c = false := by
    intro line mem c member
    exact CommentStyle.isBreak_of_isControl (program.isControl_lines line mem c member)
  rw [text, CommentStyle.view_joinLines _ clean]
  exact program.seen_render program.body

theorem read_render (lines : List Line) :
    program.dialect.spelling.comments.read (program.render lines) =
      (commands lines).map (Command.instruction program.dialect.spelling) :=
  program.dialect.read_render lines

end Program

end Millwork
