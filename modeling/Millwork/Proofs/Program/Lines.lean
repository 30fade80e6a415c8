import Millwork.Proofs.Machine.Comments
import Millwork.Proofs.Program.OwnLines
import Millwork.Proofs.Program.Timestamp

namespace Millwork

/-! ## Lines of a text -/

namespace Text

theorem isLineEnd_of_mem_lines {text line : List Char} (mem : line ∈ lines text) :
    ∀ c ∈ line, isLineEnd c = false := by
  induction text using lines.induct with
  | case1 => simp [lines] at mem
  | case2 c text ih =>
      rw [lines, List.mem_cons] at mem
      rcases mem with rfl | later
      · intro d member
        simpa using List.all_eq_true.mp List.all_takeWhile d member
      · exact ih later

theorem lines_joinLines_iff {texts : List String} (nonempty : texts ≠ []) :
    lines (joinLines texts).toList = texts.map String.toList ↔ ∀ text ∈ texts, OneLine text := by
  constructor
  · intro same text mem
    exact isLineEnd_of_mem_lines (same ▸ List.mem_map_of_mem mem)
  · intro one
    induction texts with
    | nil => exact absurd rfl nonempty
    | cons first rest ih =>
        rw [List.forall_mem_cons] at one
        have newline : "\n".toList = ['\n'] := rfl
        cases rest with
        | nil =>
            rw [joinLines, String.intercalate_singleton, String.toList_append, newline,
              lines_append_newline one.1, lines]
            rfl
        | cons second rest =>
            rw [joinLines, String.intercalate_cons_cons, String.append_assoc, String.append_assoc,
              String.toList_append, String.toList_append, newline, List.singleton_append,
              lines_append_newline one.1, ← joinLines, ih (by simp) one.2, ← List.map_cons]

end Text

/-! ## Own lines -/

theorem Double.oneLine_operand (x : Double) : Text.OneLine x.operand := by
  intro c mem
  rcases Double.mem_operand mem with digit | rfl | rfl | letter
  · exact Text.isLineEnd_of_isDigit digit
  · rfl
  · rfl
  · have letters : ['n', 'a', 'i', 'f'].any Text.isLineEnd = false := by decide
    exact eq_false_of_ne_true (List.any_eq_false.mp letters c letter)

theorem Number.oneLine_operand (a : Number) : Text.OneLine a.operand := a.toDouble.oneLine_operand

theorem Text.Bare.oneLine {text : String} (bare : Text.Bare text.toList) : Text.OneLine text := by
  intro c mem
  rcases bare.plain c mem with plain | rfl
  · have solid := Text.isBlank_of_isPlain plain
    by_contra ending
    rw [Bool.not_eq_false] at ending
    rw [Text.isBlank_of_isLineEnd ending] at solid
    cases solid
  · rfl

theorem Spelling.oneLine_comment (spelling : Spelling) {text : String} (one : Text.OneLine text) :
    Text.OneLine (spelling.comment text) :=
  (spelling.oneLine_comment_iff text).mpr one.not_breaks

theorem Drill.oneLine_summary (task : Drill) : Text.OneLine task.summary := by
  have place : Text.OneLine s!"Drill at X={task.x.val.operand} Y={task.y.val.operand}, " :=
    .append (.append (.append (.append (.literal rfl) (Number.oneLine_operand _)) (.literal rfl))
      (Number.oneLine_operand _)) (.literal rfl)
  have size : Text.OneLine
      s!"D={task.diameter.val.operand} mm, depth={task.depth.val.operand} mm" :=
    .append (.append (.append (.append (.literal rfl) (Number.oneLine_operand _)) (.literal rfl))
      (Number.oneLine_operand _)) (.literal rfl)
  have kind : Text.OneLine (if task.through.isOn then ", through" else "") := by
    split <;> exact .literal rfl
  exact (place.append size).append kind

theorem oneLine_followed {first second : String} (one : Text.OneLine first)
    (one' : Text.OneLine second) (points : Nat) (depth : Number) :
    Text.OneLine (first ++ toString points ++ " points, depth " ++ depth.operand ++ second) :=
  .append (.append (.append (.append one (oneLine_toString_nat _)) (.literal rfl))
    (Number.oneLine_operand _)) one'

theorem Contour.oneLine_summary (task : Contour) : Text.OneLine task.summary :=
  oneLine_followed (.literal rfl) (.literal rfl) task.path.length task.depth.val

theorem ClosedPocket.oneLine_summary (task : ClosedPocket) : Text.OneLine task.summary :=
  oneLine_followed (.literal rfl) (.literal rfl) task.path.length task.depth.val

theorem OpenPocket.oneLine_summary (task : OpenPocket) : Text.OneLine task.summary :=
  .append (oneLine_followed (.literal rfl) (.literal rfl) task.path.length task.depth.val)
    (.append (.append (.literal rfl) (Number.oneLine_operand _)) (.literal rfl))

theorem oneLine_passHeading (pass : Pass Number) : Text.OneLine
    s!"Pass {pass.index + 1}/{pass.count} - depth {pass.height.operand} mm" :=
  .append (.append (.append (.append (.append (.append (.literal rfl) (oneLine_toString_nat _))
    (.literal rfl)) (oneLine_toString_nat _)) (.literal rfl)) (Number.oneLine_operand _))
    (.literal rfl)

theorem Line.Own.oneLine {line : Line} (own : line.Own) (dialect : Dialect) :
    Text.OneLine (line.render dialect.spelling) := by
  cases own with
  | drill task => exact Spelling.oneLine_comment _ task.oneLine_summary
  | contour task => exact Spelling.oneLine_comment _ task.oneLine_summary
  | closedPocket task => exact Spelling.oneLine_comment _ task.oneLine_summary
  | openPocket task => exact Spelling.oneLine_comment _ task.oneLine_summary
  | strategy one => exact Spelling.oneLine_comment _ (.append (.literal rfl) one)
  | pass pass => exact Spelling.oneLine_comment _ (oneLine_passHeading pass)
  | @command order note one =>
      have ordered := (Line.bare_text dialect order).oneLine
      rw [render, Spelling.annotated]
      split
      · exact (ordered.append (.literal rfl)).append (Spelling.oneLine_comment _ one)
      · exact ordered

/-! ## Texts of a user -/

theorem Line.oneLine_remark_iff (spelling : Spelling) (text : String) :
    Text.OneLine ((remark text).render spelling) ↔ ¬ Text.Breaks text.toList :=
  spelling.oneLine_comment_iff text

namespace Text

def Unbroken (text : String) : Prop := ¬ ∃ c ∈ text.toList, isSoftBreak c = true

instance (text : String) : Decidable (Unbroken text) :=
  decidable_of_iff (text.toList.any isSoftBreak = false) (by simp [Unbroken])

theorem Frames.literal {text : List Char} {v : Char} (plain : text.any isLineEnd = false)
    (mem : v ∈ text) (visible : isVisible v = true) : Frames (.ofList text) :=
  ⟨.literal plain, v, by simpa using mem, visible⟩

theorem Frames.append {front back : String} (frames : Frames front) (one : OneLine back) :
    Frames (front ++ back) := by
  obtain ⟨v, mem, visible⟩ := frames.visible
  exact ⟨frames.oneLine.append one, v, by simp [mem], visible⟩

end Text

def Warning.toolId : Warning → String
  | missingTool _ _ toolId => toolId
  | tooDeep _ _ toolId _ => toolId

theorem Warning.breaks_message_iff (warning : Warning) :
    Text.Breaks warning.message.toList ↔
      ∃ c ∈ warning.toolId.toList, Text.isSoftBreak c = true := by
  cases warning with
  | missingTool number kind toolId =>
      have front : Text.Frames "ERROR: tool \"" := .literal rfl List.mem_cons_self rfl
      have back : Text.Frames ("\" not found for operation " ++ number.text) :=
        .append (.literal rfl List.mem_cons_self rfl) number.oneLine_text
      rw [Warning.toolId, ← Text.breaks_between_iff front back, ← String.append_assoc,
        ← String.append_assoc]
      rfl
  | tooDeep number depth toolId limit =>
      obtain ⟨opening, frames, message_eq⟩ : ∃ opening, Text.Frames opening ∧
          (tooDeep number depth toolId limit).message = opening ++
            ("tool \"" ++ toolId ++ "\" max depth is " ++ limit.operand ++ " mm") :=
        ⟨s!"WARNING: operation {number.text} cuts {depth.operand} mm deep, ",
          .append (.append (.append (.append (.literal rfl List.mem_cons_self rfl)
            number.oneLine_text) (.literal rfl)) depth.oneLine_operand) (.literal rfl), rfl⟩
      have front : Text.Frames (opening ++ "tool \"") := frames.append (.literal rfl)
      have back : Text.Frames ("\" max depth is " ++ (limit.operand ++ " mm")) :=
        .append (.literal rfl List.mem_cons_self rfl) (.append limit.oneLine_operand (.literal rfl))
      rw [message_eq, Warning.toolId, ← Text.breaks_between_iff front back]
      simp only [String.append_assoc]

structure Operation.Unbroken (operation : Operation) (tool : Tool) : Prop where
  name : Text.Unbroken tool.name
  comment : ∀ text ∈ operation.comment, ¬ Text.Breaks text.toList

section Blocks

variable (dialect : Dialect)

theorem oneLine_description_iff {summary : String} (own : (Line.remark summary).Own) (tool : Tool)
    (operation : Operation) :
    (∀ line ∈ description summary tool operation.comment,
      Text.OneLine (line.render dialect.spelling)) ↔ operation.Unbroken tool := by
  have front : Text.Frames "Tool: " := .literal rfl List.mem_cons_self rfl
  have back : Text.Frames (", D" ++ (tool.diameter.val.operand ++ " mm")) :=
    .append (.literal rfl List.mem_cons_self rfl)
      (.append (Number.oneLine_operand _) (.literal rfl))
  have named : Text.OneLine ((Line.remark s!"Tool: {tool.name}, D{tool.diameter.val.operand} mm")
      |>.render dialect.spelling) ↔ Text.Unbroken tool.name := by
    rw [Line.oneLine_remark_iff, Text.Unbroken, ← Text.breaks_between_iff front back]
    simp only [← String.append_assoc]
    rfl
  have commented : (∀ line ∈ (operation.comment.toList.filter (!·.isEmpty)).map Line.remark,
      Text.OneLine (line.render dialect.spelling)) ↔
        ∀ text ∈ operation.comment, ¬ Text.Breaks text.toList := by
    simp only [List.forall_mem_map, List.mem_filter, Option.mem_toList, Line.oneLine_remark_iff]
    refine forall_congr' fun text => ⟨fun shown mem broken => ?_, fun whole mem => whole mem.1⟩
    -- An empty comment is left out, and has nothing to break.
    obtain ⟨_, _, _, _, same, _⟩ := id broken
    have nonempty : text.isEmpty = false := by
      simpa using fun empty : text = "" => by simp [empty] at same
    exact shown ⟨mem, by simp [nonempty]⟩ broken
  rw [description, List.forall_mem_cons, List.forall_mem_cons, named, commented]
  constructor
  · rintro ⟨-, name, comment⟩
    exact ⟨name, comment⟩
  · rintro ⟨name, comment⟩
    exact ⟨own.oneLine dialect, name, comment⟩

variable {profile : Profile} {catalog : Catalog} {number : Number} {operation : Operation}

theorem Operation.oneLine_kindWord (operation : Operation) : Text.OneLine operation.kindWord := by
  unfold kindWord
  split
  · rename_i kind _
    cases kind <;> exact .literal rfl
  · exact .literal rfl

theorem oneLine_block_iff {result : Block × Option Warning}
    (made : (block profile catalog number operation).outcome = .ok result) :
    (∀ line ∈ result.1, Text.OneLine (line.render dialect.spelling)) ↔
      (∀ tool, catalog.find? operation.toolId = some tool → operation.Unbroken tool) ∧
        ∀ warning ∈ result.2, Text.Unbroken warning.toolId := by
  rcases block_parts made with ⟨missing, rfl⟩ | ⟨tool, warning, lines, found, -, cut, rfl⟩
  · rw [List.forall_mem_singleton, Line.oneLine_remark_iff, Warning.breaks_message_iff]
    simp [missing, Text.Unbroken]
  · obtain ⟨summary, rest, rfl, own, rests⟩ := Operation.lines_parts cut
    have heading : ∀ line ∈ operation.heading number,
        Text.OneLine (line.render dialect.spelling) := by
      rw [Operation.heading, List.forall_mem_cons, List.forall_mem_singleton]
      exact ⟨.literal rfl, Spelling.oneLine_comment _ (.append (.append (.append (.literal rfl)
        number.oneLine_text) (.literal rfl)) operation.oneLine_kindWord)⟩
    have warned : (∀ line ∈ warning.toList.map (Line.remark ·.message),
        Text.OneLine (line.render dialect.spelling)) ↔
          ∀ given ∈ warning, Text.Unbroken given.toolId := by
      simp only [List.forall_mem_map, Option.mem_toList, Line.oneLine_remark_iff,
        Warning.breaks_message_iff]
      rfl
    have moves : ∀ line ∈ rest, Text.OneLine (line.render dialect.spelling) :=
      fun line mem => (rests line mem).oneLine dialect
    simp only [List.forall_mem_append, oneLine_description_iff dialect own]
    simp only [found, Option.some.injEq, forall_eq']
    rw [warned, and_iff_right heading, and_iff_left moves, and_comm]

theorem forall_mem_blocks_iff {shown : Line → Prop} {told : Operation → Prop}
    {warned : Warning → Prop} {operations : List Operation}
    {blocks : List (Block × Option Warning)}
    (each : List.Forall₂ (fun operation result => (∀ line ∈ result.1, shown line) ↔
      told operation ∧ ∀ warning ∈ result.2, warned warning) operations blocks) :
    (∀ line ∈ (blocks.map (·.1)).flatten, shown line) ↔
      (∀ operation ∈ operations, told operation) ∧
        ∀ warning ∈ blocks.filterMap (·.2), warned warning := by
  induction each with
  | nil => simp
  | @cons operation result operations blocks here _ ih =>
      rw [List.map_cons, List.flatten_cons, List.forall_mem_append, here, ih, List.forall_mem_cons]
      cases warning : result.2 with
      | none => simp [warning, and_assoc]
      | some given => simp [warning, and_assoc, and_left_comm]

end Blocks

/-! ## Programs -/

structure Panel.Unbroken (panel : Panel) : Prop where
  name : ¬ Text.Trails panel.name.toList
  material : ¬ Text.Trails panel.material.toList

section Programs

variable {dialect : Dialect}

theorem oneLine_preamble_iff (panel : Panel) :
    (∀ line ∈ panel.preamble, Text.OneLine (line.render dialect.spelling)) ↔ panel.Unbroken := by
  have named : Text.OneLine ((Line.remark s!"Program for: {panel.name}").render dialect.spelling) ↔
      ¬ Text.Trails panel.name.toList := by
    have front : Text.Frames "Program for: " := .literal rfl List.mem_cons_self rfl
    rw [Line.oneLine_remark_iff, ← Text.breaks_append_iff front]
    rfl
  have made : Text.OneLine ((Line.remark ("Material: " ++
      if panel.material.isEmpty then "unspecified" else panel.material)).render dialect.spelling) ↔
        ¬ Text.Trails panel.material.toList := by
    have front : Text.Frames "Material: " := .literal rfl List.mem_cons_self rfl
    rw [Line.oneLine_remark_iff, Text.breaks_append_iff front]
    split
    · rename_i empty
      rw [String.isEmpty_iff.mp empty]
      have word : Text.OneLine "unspecified" := .literal rfl
      exact iff_of_true word.not_trails (Text.OneLine.literal rfl).not_trails
    · rfl
  have sizes : ∀ text ∈ [panel.length, panel.width, panel.thickness].map (·.val.operand),
      Text.OneLine text := by
    rw [List.forall_mem_map]
    exact fun size _ => Number.oneLine_operand _
  have measured : Text.OneLine ((Line.remark ("Dimensions: " ++
      " x ".intercalate ([panel.length, panel.width, panel.thickness].map (·.val.operand)) ++
        " mm")).render dialect.spelling) :=
    Spelling.oneLine_comment _
      (.append (.append (.literal rfl) (Text.oneLine_intercalate (.literal rfl) sizes))
        (.literal rfl))
  have placed : Text.OneLine ((Line.remark
      (s!"Origin: {panel.origin.title}, {panel.face.word} face, " ++
        s!"Z offset {panel.zOffset.val.operand} mm")).render dialect.spelling) := by
    have title : Text.OneLine panel.origin.title := by
      cases panel.origin <;> exact .literal rfl
    have word : Text.OneLine panel.face.word := by
      cases panel.face <;> exact .literal rfl
    exact Spelling.oneLine_comment _ (.append
      (.append (.append (.append (.append (.literal rfl) title) (.literal rfl)) word) (.literal rfl))
      (.append (.append (.literal rfl) (Number.oneLine_operand _)) (.literal rfl)))
  simp only [Panel.preamble, List.forall_mem_cons]
  constructor
  · rintro ⟨name, -, material, -⟩
    exact ⟨named.mp name, made.mp material⟩
  · rintro ⟨name, material⟩
    exact ⟨named.mpr name, measured, made.mpr material, placed, List.forall_mem_nil _⟩

theorem oneLine_stampLine (stamp : Timestamp) :
    Text.OneLine ((stampLine stamp).render dialect.spelling) :=
  Spelling.oneLine_comment _ stamp.bare_remark.oneLine

theorem oneLine_setup (profile : Profile) :
    ∀ line ∈ profile.setup, Text.OneLine (line.render dialect.spelling) := by
  have banner : ∀ text ∈ profile.dialect.spelling.banner, Text.OneLine text := by
    cases profile.dialect <;> simp only [Dialect.spelling, Option.mem_def] <;> rintro text ⟨⟩ <;>
      exact .literal rfl
  intro line mem
  simp only [Profile.setup, List.mem_append, List.mem_map, List.mem_cons, List.not_mem_nil,
    or_false] at mem
  rcases mem with ⟨text, mem, rfl⟩ | rfl | rfl | rfl | rfl
  · exact Spelling.oneLine_comment _ (banner text (Option.mem_toList.mp mem))
  · exact (Line.Own.command _ (.literal rfl)).oneLine dialect
  · exact (Line.Own.command _ (.literal rfl)).oneLine dialect
  · exact (Line.own_rapid _ (.literal rfl)).oneLine dialect
  · exact (Line.Own.command _ (.literal rfl)).oneLine dialect

theorem oneLine_footer (profile : Profile) :
    ∀ line ∈ profile.footer, Text.OneLine (line.render dialect.spelling) := by
  simp only [Profile.footer, List.forall_mem_cons]
  exact ⟨(Line.own_rapid _ (.literal rfl)).oneLine dialect,
    (Line.Own.command _ (.literal rfl)).oneLine dialect,
    (Line.Own.command _ (.literal rfl)).oneLine dialect, List.forall_mem_nil _⟩

variable {profile : Profile} {panel : Panel} {operations : List Operation} {catalog : Catalog}
  {stamp : Timestamp} {program : Program}

theorem oneLine_lines_iff
    (made : (assemble profile panel operations catalog stamp).outcome = .ok program) :
    (∀ text ∈ program.lines, Text.OneLine text) ↔ panel.Unbroken ∧
      (∀ operation ∈ operations, ∀ tool, catalog.find? operation.toolId = some tool →
        operation.Unbroken tool) ∧
      ∀ warning ∈ program.warnings, Text.Unbroken warning.toolId := by
  obtain ⟨blocks, rfl, all⟩ := assemble_ok made
  have each := forall_mem_blocks_iff (forall₂_blocks
    (fun _ _ _ => oneLine_block_iff profile.dialect) all)
  simp only [Program.lines, Program.render, Program.body, Program.header, Program.ofBlocks,
    List.forall_mem_map, List.forall_mem_append, List.forall_mem_cons]
  rw [oneLine_preamble_iff, each]
  constructor
  · rintro ⟨⟨⟨panels, -⟩, blocks⟩, -⟩
    exact ⟨panels, blocks⟩
  · rintro ⟨panels, blocks⟩
    exact ⟨⟨⟨panels, oneLine_stampLine stamp, oneLine_setup profile⟩, blocks⟩, .literal rfl,
      oneLine_footer profile⟩

end Programs

/-- A comment holds no ASCII control character, and of the other control characters and line ends
those that its text shows. So the lines of a program are those of its text, unless the panel, a
tool, a comment or a warning brings such a line end. -/
theorem comments_settled (spelling : Spelling) (text : String) :
    (∀ c, Text.isUnwanted c = true → (c ∈ (spelling.comment text).toList ↔
      Text.isControl c = false ∧ Text.Shows text.toList c)) ∧
    ∀ (profile : Profile) (panel : Panel) (operations : List Operation) (catalog : Catalog)
      (stamp : Timestamp) (program : Program),
      (assemble profile panel operations catalog stamp).outcome = .ok program →
      (Text.lines program.text.toList = program.lines.map String.toList ↔ panel.Unbroken ∧
        (∀ operation ∈ operations, ∀ tool, catalog.find? operation.toolId = some tool →
          operation.Unbroken tool) ∧
        ∀ warning ∈ program.warnings, Text.Unbroken warning.toolId) := by
  constructor
  · intro c unwanted
    exact spelling.mem_comment_iff unwanted text
  · intro profile panel operations catalog stamp program made
    have nonempty : program.lines ≠ [] := by
      simp [Program.lines, Program.render, Program.body, Program.header]
    rw [Program.text, Text.lines_joinLines_iff nonempty, oneLine_lines_iff made]

namespace Sample

def broken : String := "a\u0085b"

theorem shows_broken : Text.Shows broken.toList '\u0085' :=
  ⟨['a'], ['b'], by decide, ⟨'a', by simp, by decide⟩, ⟨'b', by simp, by decide⟩⟩

theorem unbroken_standard (operation : Operation) (silent : operation.comment = none) (tool : Tool)
    (found : Catalog.standard.find? operation.toolId = some tool) : operation.Unbroken tool where
  name := by
    have names : ∀ tool ∈ Catalog.standard.tools, Text.Unbroken tool.name := by decide +kernel
    rw [Catalog.find?, findTool?] at found
    exact names tool (List.mem_of_find?_eq_some found)
  comment := by simp [silent]

end Sample

/-- The small program has the lines of its text, and without the break of a comment it has not. -/
theorem comments_settled_of_sample :
    '\u0085' ∈ (Dialect.generic.spelling.comment Sample.broken).toList ∧
    (∃ program, (assemble .standard (Sample.panel "Shelf") (Sample.operations none) .standard
        Sample.stamp).outcome = .ok program ∧
      Text.lines program.text.toList = program.lines.map String.toList) ∧
    ∃ program, (assemble .standard (Sample.panel "Shelf") (Sample.operations (some Sample.broken))
        .standard Sample.stamp).outcome = .ok program ∧
      Text.lines program.text.toList ≠ program.lines.map String.toList := by
  have settled := comments_settled Dialect.generic.spelling Sample.broken
  refine ⟨?_, ?_, ?_⟩
  · exact (settled.1 '\u0085' (by decide)).mpr ⟨by decide, Sample.shows_broken⟩
  · obtain ⟨program, made⟩ := Attempt.exists_ok (x := (assemble .standard (Sample.panel "Shelf")
      (Sample.operations none) .standard Sample.stamp).outcome) (by decide +kernel)
    have warned : (assemble .standard (Sample.panel "Shelf") (Sample.operations none) .standard
        Sample.stamp).outcome.toOption.all (fun program =>
          decide (∀ warning ∈ program.warnings, Text.Unbroken warning.toolId)) = true := by
      decide +kernel
    rw [made] at warned
    refine ⟨program, made, (settled.2 _ _ _ _ _ _ made).mpr
      ⟨⟨(Text.OneLine.literal rfl).not_trails, (Text.OneLine.literal rfl).not_trails⟩, ?_,
        of_decide_eq_true warned⟩⟩
    intro operation mem
    apply Sample.unbroken_standard
    simp only [Sample.operations, List.mem_cons, List.not_mem_nil, or_false] at mem
    rcases mem with rfl | rfl <;> rfl
  · obtain ⟨program, made⟩ := Attempt.exists_ok (x := (assemble .standard (Sample.panel "Shelf")
      (Sample.operations (some Sample.broken)) .standard Sample.stamp).outcome) (by decide +kernel)
    refine ⟨program, made, fun same => ?_⟩
    obtain ⟨-, tools, -⟩ := (settled.2 _ _ _ _ _ _ made).mp same
    have found : Catalog.standard.find? "mill_6mm" =
        some (Catalog.standard.tools.get ⟨2, by decide⟩) := by decide +kernel
    exact (tools _ List.mem_cons_self _ found).comment Sample.broken rfl
      ⟨'\u0085', by decide, Sample.shows_broken⟩

end Millwork
