import Millwork.Proofs.Controller.View
import Millwork.Proofs.Program.Excursions

namespace Millwork

def Text.shortMove : List Char → List Char
  | 'G' :: '0' :: '0' :: rest => 'G' :: '0' :: rest
  | 'G' :: '0' :: '1' :: rest => 'G' :: '1' :: rest
  | command => command

def CommentStyle.heard (style : CommentStyle) (lines : List String) : List String :=
  ((lines.map style.seen).filter (· != "")).map fun command =>
    .ofList (Text.shortMove command.toList)

/-! ## Commands -/

namespace Text

theorem shortMove_intercalate (digit : Char) (one : digit = '0' ∨ digit = '1')
    (words : List (List Char)) :
    shortMove ([' '].intercalate (['G', '0', digit] :: words)) =
        [' '].intercalate (['G', digit] :: words) ∧
      shortMove ([' '].intercalate (['G', digit] :: words)) =
        [' '].intercalate (['G', digit] :: words) := by
  cases words with
  | nil => rcases one with rfl | rfl <;> exact ⟨rfl, rfl⟩
  | cons word words =>
      rw [List.intercalate_cons_cons, List.intercalate_cons_cons]
      rcases one with rfl | rfl <;> exact ⟨rfl, rfl⟩

end Text

namespace Command

theorem toList_move (word : String) (words : List String) :
    (" ".intercalate (word :: words)).toList =
      [' '].intercalate (word.toList :: words.map String.toList) := by
  rw [String.toList_intercalate]
  rfl

theorem shortMove_text (dialect : Dialect) (command : Command) :
    Text.shortMove (command.text dialect.spelling).toList =
      (command.text Dialect.generic.spelling).toList := by
  cases command with
  | rapid target =>
      have short := Text.shortMove_intercalate '0' (.inl rfl) (target.words.map String.toList)
      cases dialect <;> simp only [text, toList_move]
      case homag => exact short.1
      all_goals exact short.2
  | linear target feed =>
      simp only [text, List.cons_append, toList_move]
      have short := Text.shortMove_intercalate '1' (.inr rfl)
        ((target.words ++ feed.toList.map ("F" ++ ·.operand)).map String.toList)
      cases dialect
      case homag => exact short.1
      all_goals exact short.2
  | startSpindle speed =>
      simp only [text, String.toList_append]
      rfl
  | compensate side diameter =>
      cases side <;>
        · simp only [text, String.toList_append]
          rfl
  | _ =>
      simp only [text]
      rfl

end Command

theorem Program.heard_render (program : Program) (lines : List Line) :
    program.dialect.spelling.comments.heard (program.render lines) =
      (commands lines).map (Command.text Dialect.generic.spelling) := by
  unfold CommentStyle.heard
  rw [program.seen_render, List.map_map]
  apply List.map_congr_left
  intro command _
  rw [Function.comp_apply, Command.shortMove_text, String.ofList_toList]

/-! ## Programs -/

/-- Two programs that warn alike and give the same commands in the head, in every block, and in
the foot. -/
structure Program.Respelled (first second : Program) : Prop where
  warnings : first.warnings = second.warnings
  length : first.blocks.length = second.blocks.length
  header : first.dialect.spelling.comments.heard (first.render first.header) =
    second.dialect.spelling.comments.heard (second.render second.header)
  blocks : first.blocks.map (fun block =>
      first.dialect.spelling.comments.heard (first.render block)) =
    second.blocks.map fun block => second.dialect.spelling.comments.heard (second.render block)
  footer : first.dialect.spelling.comments.heard (first.render first.footer) =
    second.dialect.spelling.comments.heard (second.render second.footer)

namespace Program

variable {first second : Program}

theorem heard_eq {lines lines' : List Line} (same : commands lines = commands lines') :
    first.dialect.spelling.comments.heard (first.render lines) =
      second.dialect.spelling.comments.heard (second.render lines') := by
  rw [heard_render, heard_render, same]

theorem Respelled.of_commands (warnings : first.warnings = second.warnings)
    (header : commands first.header = commands second.header)
    (blocks : first.blocks = second.blocks)
    (footer : commands first.footer = commands second.footer) : first.Respelled second where
  warnings := warnings
  length := by rw [blocks]
  header := heard_eq header
  blocks := by
    rw [blocks]
    apply List.map_congr_left
    intro block _
    exact heard_eq rfl
  footer := heard_eq footer

end Program

section Programs

variable {profile : Profile} {panel : Panel} {operations : List Operation} {catalog : Catalog}
  {stamp : Timestamp} {program : Program}

/-- Nothing in a block depends on the dialect; it is spelled when it is written. -/
theorem block_withDialect (profile : Profile) (dialect : Dialect) (catalog : Catalog)
    (number : Number) (operation : Operation) :
    block { profile with dialect } catalog number operation =
      block profile catalog number operation := by
  unfold block
  cases catalog.find? operation.toolId with
  | none => rfl
  | some tool => cases operation <;> rfl

theorem assemble_respelled
    (made : (assemble profile panel operations catalog stamp).outcome = .ok program)
    (dialect : Dialect) (later : Timestamp) :
    ∃ other, (assemble { profile with dialect } panel operations catalog later).outcome =
        .ok other ∧
      program.dialect = profile.dialect ∧ other.dialect = dialect ∧ program.Respelled other := by
  obtain ⟨blocks, rfl, all⟩ := assemble_ok made
  have made' : (assemble { profile with dialect } panel operations catalog later).outcome =
      .ok (.ofBlocks { profile with dialect } panel later blocks) := by
    simp only [assemble_outcome, block_withDialect, Attempt.mapM_eq_ok.mpr all]
    rfl
  have header : commands profile.setup = commands ({ profile with dialect } : Profile).setup := by
    rw [Profile.commands_setup, Profile.commands_setup]
    rfl
  exact ⟨_, made', rfl, rfl, .of_commands rfl header rfl rfl⟩

theorem assemble_respelled_of_sample :
    ∃ program other,
      (assemble { Profile.standard with dialect := .homag } (Sample.panel "Shelf)")
        (Sample.operations (some "; G0 (Z-5")) .standard Sample.stamp).outcome = .ok program ∧
      (assemble { Profile.standard with dialect := .scm } (Sample.panel "Shelf)")
        (Sample.operations (some "; G0 (Z-5")) .standard Sample.stamp).outcome = .ok other ∧
      program.Respelled other := by
  obtain ⟨program, made⟩ := Attempt.exists_ok (x := (assemble
    { Profile.standard with dialect := .homag } (Sample.panel "Shelf)")
    (Sample.operations (some "; G0 (Z-5")) .standard Sample.stamp).outcome) (by decide +kernel)
  obtain ⟨other, made', -, -, alike⟩ := assemble_respelled made .scm Sample.stamp
  exact ⟨program, other, made, made', alike⟩

end Programs

end Millwork
