import Millwork.Proofs.Program.OwnLines
import Millwork.Proofs.Program.Timestamp

/-!
# Programs without their stamps

The stamp is the one line that tells when a program was made. A program is stripped of it by its
text, and of every other line that is written alike. All remarks of the library open with words of
their own, so that only the comment of an operation can be such a line: `Operation.imitates`.
-/

namespace Millwork

/-! ## Lines -/

namespace Line

def showsStamp (dialect : Dialect) (stamp : Timestamp) (line : Line) : Bool :=
  line.render dialect.spelling == (stampLine stamp).render dialect.spelling

/-- No remark, or one that opens with another letter than a stamp. -/
def isApart : Line → Bool
  | .remark text => text.toList.head?.any fun c => c.isAlphanum && c != 'G'
  | _ => true

variable {dialect : Dialect} {stamp : Timestamp}

theorem showsStamp_remark (text : String) : (remark text).showsStamp dialect stamp =
    (Text.trim (flatten text.toList) == stamp.remark.toList) := by
  rw [Bool.eq_iff_iff, beq_iff_eq, ← CommentStyle.body_eq_remark_iff dialect.spelling.comments,
    showsStamp, beq_iff_eq]
  change dialect.spelling.comment text = dialect.spelling.comment stamp.remark ↔ _
  rw [← String.toList_inj, Spelling.toList_comment, Spelling.toList_comment, List.append_left_inj,
    List.append_right_inj]

theorem stampLine_injective {first second : Timestamp}
    (same : (stampLine first).render dialect.spelling =
      (stampLine second).render dialect.spelling) : first = second := by
  have shows : (remark first.remark).showsStamp dialect second = true := beq_iff_eq.mpr same
  rw [showsStamp_remark, first.bare_remark.trim_flatten, beq_iff_eq, Timestamp.remark,
    Timestamp.remark, String.toList_append, String.toList_append, List.append_right_inj,
    String.toList_inj] at shows
  exact Timestamp.text_injective shows

theorem isApart_append {front : String} (apart : (remark front).isApart = true) (back : String) :
    (remark (front ++ back)).isApart = true := by
  simp only [isApart, String.toList_append, List.head?_append] at apart ⊢
  cases first : front.toList.head? with
  | none => simp [first] at apart
  | some c => simpa [first] using apart

theorem Own.isApart {line : Line} (own : line.Own) : line.isApart = true := by
  cases own with
  | drill task =>
      unfold Drill.summary
      repeat with_reducible apply isApart_append
      rfl
  | contour task =>
      unfold Contour.summary
      repeat with_reducible apply isApart_append
      rfl
  | closedPocket task =>
      unfold ClosedPocket.summary
      repeat with_reducible apply isApart_append
      rfl
  | openPocket task =>
      unfold OpenPocket.summary
      repeat with_reducible apply isApart_append
      rfl
  | strategy one =>
      unfold strategyLine
      repeat with_reducible apply isApart_append
      rfl
  | pass pass =>
      unfold passHeading
      repeat with_reducible apply isApart_append
      rfl
  | command order one => rfl

theorem head_trim_flatten {c : Char} (plain : Text.isPlain c = true) (text : List Char) :
    (Text.trim (flatten (c :: text))).head? = some c := by
  have stays := Text.isBlank_of_isPlain plain
  simp only [flatten, Text.isControl_of_isPlain plain, Bool.not_false, if_true, Text.trim,
    List.dropWhile_cons, stays, Bool.false_eq_true, if_false, List.reverse_cons,
    List.dropWhile_append, List.dropWhile_nil]
  split <;> simp

theorem showsStamp_of_isApart {line : Line} (apart : line.isApart = true) :
    line.showsStamp dialect stamp = false := by
  cases line with
  | blank =>
      apply beq_false_of_ne
      intro same
      have chars := congrArg String.toList same
      simp only [render, stampLine, Spelling.toList_comment] at chars
      cases dialect <;> cases chars
  | command order note =>
      apply beq_false_of_ne
      intro same
      -- A controller sees the command, and nothing of a remark.
      have seen := congrArg dialect.spelling.comments.seen same
      rw [seen_render, seen_render] at seen
      apply (bare_text dialect order).ne_nil
      exact congrArg String.toList seen
  | remark text =>
      rw [showsStamp_remark]
      apply beq_false_of_ne
      intro same
      unfold isApart at apart
      cases chars : text.toList with
      | nil => simp [chars] at apart
      | cons c rest =>
          simp [chars] at apart
          have first := head_trim_flatten (Text.isPlain_of_isAlphanum apart.1) rest
          rw [← chars, same, Timestamp.remark, String.toList_append] at first
          exact apart.2 (Option.some.inj first).symm

theorem countP_showsStamp_of_isApart {lines : List Line}
    (apart : ∀ line ∈ lines, line.isApart = true) :
    lines.countP (showsStamp dialect stamp) = 0 := by
  rw [List.countP_eq_zero]
  intro line mem
  simp [showsStamp_of_isApart (apart line mem)]

end Line

/-! ## Operations -/

/-- The comment says what the stamp says, control characters and the blanks at its ends aside. -/
def Operation.imitates (stamp : Timestamp) (operation : Operation) : Bool :=
  operation.comment.any fun text => Text.trim (flatten text.toList) == stamp.remark.toList

def Catalog.imitates (catalog : Catalog) (stamp : Timestamp) (operation : Operation) : Bool :=
  (catalog.find? operation.toolId).isSome && operation.imitates stamp

section Operations

variable {dialect : Dialect} {stamp : Timestamp}

theorem countP_description {summary : String} (apart : (Line.remark summary).isApart = true)
    (tool : Tool) (comment : Option String) :
    (description summary tool comment).countP (Line.showsStamp dialect stamp) =
      if comment.any (fun text => Text.trim (flatten text.toList) == stamp.remark.toList) then 1
      else 0 := by
  have own : (Line.remark s!"Tool: {tool.name}, D{tool.diameter.val.operand} mm").isApart =
      true := by
    repeat with_reducible apply Line.isApart_append
    rfl
  simp only [description, List.countP_cons, Line.showsStamp_of_isApart apart,
    Line.showsStamp_of_isApart own, Bool.false_eq_true, if_false, Nat.add_zero]
  cases comment with
  | none => rfl
  | some text =>
      by_cases empty : text.isEmpty = true
      · have nothing : text = "" := String.isEmpty_iff.mp empty
        have silent : stamp.remark ≠ "" := by
          intro same
          apply stamp.bare_remark.ne_nil
          rw [same]
          rfl
        subst nothing
        simp [flatten, Text.trim, silent]
      · simp [empty, List.countP_cons, Line.showsStamp_remark]

theorem Warning.isApart_message (warning : Warning) :
    (Line.remark warning.message).isApart = true := by
  cases warning <;>
    · unfold message
      repeat with_reducible apply Line.isApart_append
      rfl

theorem countP_block (dialect : Dialect) (stamp : Timestamp) {profile : Profile}
    {catalog : Catalog} {number : Number} {operation : Operation} {result : Block × Option Warning}
    (made : (block profile catalog number operation).outcome = .ok result) :
    result.1.countP (Line.showsStamp dialect stamp) =
      if catalog.imitates stamp operation then 1 else 0 := by
  rcases block_parts made with ⟨missing, rfl⟩ | ⟨tool, warning, lines, found, -, cut, rfl⟩
  · simp [Catalog.imitates, missing, Line.showsStamp_of_isApart (Warning.isApart_message _)]
  · have opening : ∀ line ∈ operation.heading number ++ warning.toList.map (.remark ·.message),
        line.isApart = true := by
      intro line mem
      simp only [Operation.heading, List.cons_append, List.nil_append, List.mem_cons,
        List.mem_map] at mem
      rcases mem with rfl | rfl | ⟨warning, -, rfl⟩
      · rfl
      · repeat with_reducible apply Line.isApart_append
        rfl
      · exact warning.isApart_message
    obtain ⟨summary, rest, rfl, own, rests⟩ := Operation.lines_parts cut
    rw [List.countP_append, Line.countP_showsStamp_of_isApart opening, List.countP_append,
      countP_description own.isApart,
      Line.countP_showsStamp_of_isApart fun line mem => (rests line mem).isApart,
      Catalog.imitates, found]
    simp [Operation.imitates]

theorem countP_blocks {catalog : Catalog} {operations : List Operation}
    {blocks : List (Block × Option Warning)}
    (each : List.Forall₂ (fun operation result =>
      result.1.countP (Line.showsStamp dialect stamp) =
        if catalog.imitates stamp operation then 1 else 0) operations blocks) :
    (blocks.map (·.1)).flatten.countP (Line.showsStamp dialect stamp) =
      operations.countP (catalog.imitates stamp) := by
  induction each with
  | nil => rfl
  | cons here _ ih =>
      rw [List.map_cons, List.flatten_cons, List.countP_append, here, ih, List.countP_cons,
        Nat.add_comm]

end Operations

/-! ## Programs -/

theorem Panel.isApart_preamble (panel : Panel) : ∀ line ∈ panel.preamble, line.isApart = true := by
  intro line mem
  simp only [preamble, List.mem_cons, List.not_mem_nil, or_false] at mem
  rcases mem with rfl | rfl | rfl | rfl <;>
    · repeat with_reducible apply Line.isApart_append
      rfl

theorem Profile.isApart_setup (profile : Profile) :
    ∀ line ∈ profile.setup, line.isApart = true := by
  have banner : ∀ text ∈ profile.dialect.spelling.banner, (Line.remark text).isApart = true := by
    intro text mem
    cases dialect : profile.dialect <;> simp [dialect, Dialect.spelling] at mem <;> subst mem <;>
      rfl
  intro line mem
  simp only [setup, List.mem_append, List.mem_map, List.mem_cons, List.not_mem_nil,
    or_false] at mem
  rcases mem with ⟨text, mem, rfl⟩ | rfl | rfl | rfl | rfl
  · exact banner text (Option.mem_toList.mp mem)
  all_goals rfl

namespace Program

def unstamped (program : Program) : List Line :=
  program.preamble ++ (program.setup ++ program.blocks.flatten ++ program.footer)

theorem lines_eq (program : Program) : program.lines = program.render program.preamble ++
    program.stampLine ::
      program.render (program.setup ++ program.blocks.flatten ++ program.footer) := by
  simp [lines, body, header, render, stampLine]

theorem withoutStamp_eq (program : Program) : program.withoutStamp =
    joinLines ((program.render program.unstamped).filter (· != program.stampLine)) := by
  rw [withoutStamp, lines_eq, List.filter_append, List.filter_cons_of_neg (by simp),
    ← List.filter_append]
  simp [unstamped, render]

theorem count_stampLine (program : Program) : program.lines.count program.stampLine =
    (program.render program.unstamped).count program.stampLine + 1 := by
  rw [lines_eq, List.count_append, List.count_cons_self, ← Nat.add_assoc, ← List.count_append]
  simp [unstamped, render]

structure Stamped (program : Program) (profile : Profile) (catalog : Catalog)
    (operations : List Operation) (stamp : Timestamp) : Prop where
  dialect : program.dialect = profile.dialect
  stamp : program.stamp = Millwork.stampLine stamp
  preamble : program.preamble.length = 4
  /-- At least one line is never taken for a stamp. -/
  kept : ∃ line ∈ program.unstamped, line.isApart = true
  shows (moment : Timestamp) : program.unstamped.countP (Line.showsStamp profile.dialect moment) =
    operations.countP (catalog.imitates moment)

end Program

namespace Program.Stamped

variable {program : Program} {profile : Profile} {catalog : Catalog} {operations : List Operation}
  {stamp : Timestamp}

theorem stampLine_eq (stamped : program.Stamped profile catalog operations stamp) :
    program.stampLine = (Millwork.stampLine stamp).render profile.dialect.spelling := by
  rw [Program.stampLine, stamped.stamp, stamped.dialect]

theorem count_unstamped (stamped : program.Stamped profile catalog operations stamp) :
    (program.render program.unstamped).count program.stampLine =
      operations.countP (catalog.imitates stamp) := by
  rw [← stamped.shows stamp, stamped.stampLine_eq, List.count, Program.render, List.countP_map,
    stamped.dialect]
  rfl

theorem not_mem_iff (stamped : program.Stamped profile catalog operations stamp) :
    program.stampLine ∉ program.render program.unstamped ↔
      ∀ operation ∈ operations, catalog.imitates stamp operation = false := by
  rw [← List.count_eq_zero, stamped.count_unstamped, List.countP_eq_zero]
  simp

theorem kept_ne_nil (stamped : program.Stamped profile catalog operations stamp) :
    (program.render program.unstamped).filter (· != program.stampLine) ≠ [] := by
  obtain ⟨line, mem, apart⟩ := stamped.kept
  apply List.ne_nil_of_mem (a := line.render program.dialect.spelling)
  rw [List.mem_filter]
  constructor
  · exact List.mem_map_of_mem mem
  · have shown := @Line.showsStamp_of_isApart profile.dialect stamp line apart
    rw [stamped.stampLine_eq, stamped.dialect]
    simpa [Line.showsStamp] using shown

end Program.Stamped

section Programs

variable {profile : Profile} {panel : Panel} {operations : List Operation} {catalog : Catalog}
  {earlier later : Timestamp} {first second : Program}

theorem assemble_stamped
    (made : (assemble profile panel operations catalog earlier).outcome = .ok first) :
    first.Stamped profile catalog operations earlier := by
  obtain ⟨blocks, rfl, all⟩ := assemble_ok made
  constructor
  case dialect => rfl
  case stamp => rfl
  case preamble => rfl
  case kept =>
    have apart := panel.isApart_preamble _ List.mem_cons_self
    exact ⟨_, List.mem_append_left _ List.mem_cons_self, apart⟩
  case shows =>
    intro moment
    have footer : ∀ line ∈ Line.blank :: profile.footer, line.isApart = true := by
      simp [Profile.footer, Profile.retract, Line.rapid, Line.isApart]
    have each := countP_blocks (forall₂_blocks
      (fun _ _ _ => countP_block profile.dialect moment) all)
    simp only [Program.unstamped, Program.ofBlocks, List.countP_append, each,
      Line.countP_showsStamp_of_isApart panel.isApart_preamble,
      Line.countP_showsStamp_of_isApart profile.isApart_setup,
      Line.countP_showsStamp_of_isApart footer, Nat.zero_add, Nat.add_zero]

theorem assemble_restamped
    (made : (assemble profile panel operations catalog earlier).outcome = .ok first)
    (later : Timestamp) : (assemble profile panel operations catalog later).outcome =
      .ok { first with stamp := stampLine later } := by
  obtain ⟨blocks, rfl, all⟩ := assemble_ok made
  rw [assemble_outcome, Attempt.mapM_eq_ok.mpr all]
  rfl

theorem filter_ne_eq_iff {lines : List String} {first second : String} :
    lines.filter (· != first) = lines.filter (· != second) ↔
      first = second ∨ first ∉ lines ∧ second ∉ lines := by
  constructor
  · intro same
    by_cases equal : first = second
    · exact .inl equal
    · have kept (line : String) : line ∈ lines.filter (· != first) ↔
          line ∈ lines.filter (· != second) := by rw [same]
      have one := kept first
      have other := kept second
      simp [equal, Ne.symm equal] at one other
      exact .inr ⟨one, other⟩
  · rintro (rfl | ⟨one, other⟩)
    · rfl
    · have all {line : String} (absent : line ∉ lines) : lines.filter (· != line) = lines := by
        rw [List.filter_eq_self]
        intro kept mem
        rw [bne_iff_ne]
        rintro rfl
        exact absent mem
      rw [all one, all other]

/-- The programs are of two moments in universal time, both written with the offset `+00:00`. Clocks
of other zones, whose stamps have offsets of their own, are not covered. -/
theorem withoutStamp_eq_iff
    (made : (assemble profile panel operations catalog earlier).outcome = .ok first)
    (made' : (assemble profile panel operations catalog later).outcome = .ok second) :
    (first.withoutStamp = second.withoutStamp ↔ earlier = later ∨
      ∀ operation ∈ operations, catalog.imitates earlier operation = false ∧
        catalog.imitates later operation = false) ∧
    first.lines[4]? = some first.stampLine ∧
    first.lines.count first.stampLine = operations.countP (catalog.imitates earlier) + 1 := by
  have stamped := assemble_stamped made
  have stamped' := assemble_stamped made'
  have others : second.render second.unstamped = first.render first.unstamped := by
    rw [assemble_restamped made later] at made'
    cases made'
    rfl
  have clean (stamp : String) : ∀ text ∈ (first.render first.unstamped).filter (· != stamp),
      ∀ c ∈ text.toList, Text.isControl c = false := by
    intro text mem c member
    obtain ⟨line, -, rfl⟩ := List.mem_map.mp (List.mem_of_mem_filter mem)
    exact line.isControl_render _ c member
  have moments : first.stampLine = second.stampLine ↔ earlier = later := by
    rw [stamped.stampLine_eq, stamped'.stampLine_eq]
    exact ⟨Line.stampLine_injective, fun same => by rw [same]⟩
  have kept := stamped.kept_ne_nil
  have kept' := stamped'.kept_ne_nil
  rw [others] at kept'
  refine ⟨?_, ?_, ?_⟩
  · rw [Program.withoutStamp_eq, Program.withoutStamp_eq, others, forall₂_and,
      ← stamped.not_mem_iff, ← stamped'.not_mem_iff, others, ← moments, ← filter_ne_eq_iff]
    constructor
    · exact joinLines_injective kept kept' (clean _) (clean _)
    · exact congrArg joinLines
  · have front : (first.render first.preamble).length = 4 := by
      rw [Program.render, List.length_map, stamped.preamble]
    rw [Program.lines_eq, List.getElem?_append_right (Nat.le_of_eq front), front]
    rfl
  · rw [Program.count_stampLine, stamped.count_unstamped]

namespace Sample

def copied : String := "\tGenerated: 2024-01-01T00:00:00+00:00 "

end Sample

/-- Without a comment only the stamp is taken out; where a comment is a copied stamp it goes too. -/
theorem withoutStamp_eq_iff_of_sample :
    (∃ first second,
      (assemble .standard (Sample.panel "Shelf") (Sample.operations none) .standard
        Sample.stamp).outcome = .ok first ∧
      (assemble .standard (Sample.panel "Shelf") (Sample.operations none) .standard
        Sample.stamp.next).outcome = .ok second ∧
      first.withoutStamp = second.withoutStamp ∧ first.lines.count first.stampLine = 1) ∧
    ∃ first second,
      (assemble .standard (Sample.panel "Shelf") (Sample.operations (some Sample.copied)) .standard
        Sample.stamp).outcome = .ok first ∧
      (assemble .standard (Sample.panel "Shelf") (Sample.operations (some Sample.copied)) .standard
        Sample.stamp.next).outcome = .ok second ∧
      first.withoutStamp ≠ second.withoutStamp ∧ first.lines.count first.stampLine = 2 := by
  have made (comment : Option String) (stamp : Timestamp)
      (fine : (assemble .standard (Sample.panel "Shelf") (Sample.operations comment) .standard
        stamp).outcome.isOk = true) := Attempt.exists_ok fine
  constructor
  · obtain ⟨first, here⟩ := made none Sample.stamp (by decide +kernel)
    obtain ⟨second, there⟩ := made none Sample.stamp.next (by decide +kernel)
    obtain ⟨same, -, count⟩ := withoutStamp_eq_iff here there
    exact ⟨first, second, here, there, same.mpr (.inr (by decide +kernel)),
      count.trans (by decide +kernel)⟩
  · obtain ⟨first, here⟩ := made (some Sample.copied) Sample.stamp (by decide +kernel)
    obtain ⟨second, there⟩ := made (some Sample.copied) Sample.stamp.next (by decide +kernel)
    obtain ⟨same, -, count⟩ := withoutStamp_eq_iff here there
    exact ⟨first, second, here, there, mt same.mp (by decide +kernel),
      count.trans (by decide +kernel)⟩

end Programs

end Millwork
