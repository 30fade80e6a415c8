import Millwork.Proofs.Controller.View
import Millwork.Proofs.Program.Excursions

namespace Millwork

def Operation.block? (operation : Operation) (profile : Profile) (number : Number) :
    Option Tool → Attempt Block
  | none =>
    .ok [.remark (Warning.missingTool number operation.kindWord operation.toolId).message]
  | some tool => do
    let warning ← depthWarning? number operation tool
    let lines ← (operation.lines tool profile).outcome
    return operation.heading number ++ warning.toList.map (.remark ·.message) ++ lines

namespace Catalog

variable (catalog : Catalog)

def has (operation : Operation) : Bool := (catalog.find? operation.toolId).isSome

def equipped (operations : List Operation) : List (Operation × Tool) :=
  operations.filterMap fun operation => (catalog.find? operation.toolId).map (operation, ·)

def cuts? (profile : Profile) (operations : List Operation) : Attempt (List (List Line)) :=
  (catalog.equipped operations).mapM fun entry => (entry.1.lines entry.2 profile).outcome

end Catalog

namespace Program

variable (program : Program)

/-- The commands of the written program, without comments and empty lines. -/
def view : List String := program.dialect.spelling.comments.view program.text

def told (lines : List Line) : List String :=
  ((program.render lines).map program.dialect.spelling.comments.seen).filter (· != "")

structure Composed (profile : Profile) (catalog : Catalog) (operations : List Operation) :
    Prop where
  dialect : program.dialect = profile.dialect
  blocks : List.Forall₂ (fun entry block =>
      entry.1.block? profile (.whole entry.2) (catalog.find? entry.1.toolId) = .ok block)
    (operations.zipIdx 1) program.blocks
  /-- Without a tool it is written as one comment. -/
  missing : List.Forall₂ (fun entry block => catalog.find? entry.1.toolId = none →
      program.render block = [program.dialect.spelling.comment
        s!"ERROR: tool \"{entry.1.toolId}\" not found for operation {entry.2}"])
    (operations.zipIdx 1) program.blocks
  head : program.told program.header =
    profile.opening.map (Command.text profile.dialect.spelling)
  foot : program.told program.footer =
    profile.closing.map (Command.text profile.dialect.spelling)
  view : ∃ cuts, catalog.cuts? profile operations = .ok cuts ∧
    program.view = program.told program.header ++ cuts.flatMap program.told ++
      program.told program.footer

end Program

/-! ## Blocks -/

section Blocks

variable {profile : Profile} {catalog : Catalog} {number : Number} {operation : Operation}

theorem block_outcome : Prod.fst <$> (block profile catalog number operation).outcome =
    operation.block? profile number (catalog.find? operation.toolId) := by
  cases found : catalog.find? operation.toolId with
  | none => rw [block_of_missing found]; rfl
  | some tool =>
      rw [block_of_found found, Operation.block?]
      simp only [map_eq_pure_bind, bind_assoc, pure_bind]

theorem block?_of_block {result : Block × Option Warning}
    (made : (block profile catalog number operation).outcome = .ok result) :
    operation.block? profile number (catalog.find? operation.toolId) = .ok result.1 := by
  rw [← block_outcome, made]
  rfl

theorem depthWarning?_isOk (number' : Number) {tool : Tool} {warning : Option Warning}
    (warned : depthWarning? number operation tool = .ok warning) :
    ∃ warning', depthWarning? number' operation tool = .ok warning' := by
  unfold depthWarning? at warned ⊢
  cases limited : tool.maxDepth with
  | none => exact ⟨none, rfl⟩
  | some limit =>
      cases measured : operation.cutDepth? with
      | none =>
          rw [limited, measured] at warned
          cases warned
      | some depth =>
          simp only [limited, measured] at warned ⊢
          split
          · exact ⟨none, rfl⟩
          · rename_i deep
            rw [if_neg deep] at warned
            obtain ⟨x, converts, -⟩ := Attempt.bind_eq_ok.mp warned
            exact ⟨_, Attempt.bind_eq_ok.mpr ⟨x, converts, rfl⟩⟩

theorem block_isOk_of (number' : Number)
    (made : ∃ result, (block profile catalog number operation).outcome = .ok result) :
    ∃ result, (block profile catalog number' operation).outcome = .ok result := by
  obtain ⟨result, made⟩ := made
  rcases block_parts made with ⟨missing, -⟩ | ⟨tool, warning, lines, found, warned, cut, -⟩
  · exact ⟨_, block_of_missing missing⟩
  · obtain ⟨warning', warned'⟩ := depthWarning?_isOk number' warned
    refine ⟨(operation.heading number' ++ warning'.toList.map (.remark ·.message) ++ lines,
      warning'), ?_⟩
    rw [block_of_found found, warned', cut]
    rfl

end Blocks

/-! ## Cuts -/

namespace Catalog

variable (catalog : Catalog) (profile : Profile)

theorem equipped_append (front back : List Operation) :
    catalog.equipped (front ++ back) = catalog.equipped front ++ catalog.equipped back :=
  List.filterMap_append

theorem equipped_filter (operations : List Operation) :
    catalog.equipped (operations.filter catalog.has) = catalog.equipped operations := by
  rw [equipped, equipped, List.filterMap_filter]
  congr 1
  funext operation
  cases found : catalog.find? operation.toolId <;> simp [has, found]

theorem cuts?_filter (operations : List Operation) :
    catalog.cuts? profile (operations.filter catalog.has) = catalog.cuts? profile operations := by
  rw [cuts?, cuts?, equipped_filter]

theorem cuts?_append {front back : List Operation} {cuts cuts' : List (List Line)}
    (first : catalog.cuts? profile front = .ok cuts)
    (second : catalog.cuts? profile back = .ok cuts') :
    catalog.cuts? profile (front ++ back) = .ok (cuts ++ cuts') := by
  rw [cuts?] at first second ⊢
  rw [equipped_append, List.mapM_append, first, Attempt.ok_bind, second]
  rfl

end Catalog

section Programs

variable {profile : Profile} {panel : Panel} {operations : List Operation} {catalog : Catalog}
  {stamp : Timestamp} {program : Program}

theorem blocks_cuts {first : Nat} {blocks : List (Block × Option Warning)}
    (made : List.Forall₂ (fun entry result =>
      (block profile catalog (.whole entry.2) entry.1).outcome = .ok result)
      (operations.zipIdx first) blocks) :
    ∃ cuts, catalog.cuts? profile operations = .ok cuts ∧
      commands (blocks.map (·.1)).flatten = cuts.flatMap commands := by
  have each := forall₂_blocks (fun _ _ _ => block_ok) made
  clear made
  -- On the operations with their blocks; what a block commands no longer tells its number.
  induction each with
  | nil => exact ⟨[], rfl, rfl⟩
  | @cons operation result operations blocks here _ ih =>
      obtain ⟨cuts, all, same⟩ := ih
      have whole : commands ((result :: blocks).map (·.1)).flatten =
          commands result.1 ++ cuts.flatMap commands := by
        rw [List.map_cons, List.flatten_cons, commands_append, same]
      rcases here with ⟨missing, silent⟩ | ⟨tool, lines, found, cut, told⟩
      · refine ⟨cuts, ?_, by rw [whole, silent, List.nil_append]⟩
        rw [← all, Catalog.cuts?, Catalog.cuts?, Catalog.equipped, List.filterMap_cons, missing]
        rfl
      · refine ⟨lines :: cuts, ?_, by rw [whole, told, List.flatMap_cons]⟩
        have one : catalog.cuts? profile [operation] = .ok [lines] := by
          rw [Catalog.cuts?, Catalog.equipped, List.filterMap_cons, found]
          exact Attempt.mapM_eq_ok.mpr (.cons cut .nil)
        exact catalog.cuts?_append profile one all

theorem assemble_isOk_iff : (∃ program,
    (assemble profile panel operations catalog stamp).outcome = .ok program) ↔
      ∀ operation ∈ operations, ∃ result,
        (block profile catalog 0 operation).outcome = .ok result := by
  have blocks : (∃ program, (assemble profile panel operations catalog stamp).outcome =
      .ok program) ↔ ∀ entry ∈ operations.zipIdx 1, ∃ result,
        (block profile catalog (.whole entry.2) entry.1).outcome = .ok result := by
    rw [← Attempt.mapM_isOk_iff, assemble_outcome]
    simp only [Attempt.map_eq_ok]
    exact ⟨fun ⟨_, made, all, _⟩ => ⟨made, all⟩, fun ⟨made, all⟩ => ⟨_, made, all, rfl⟩⟩
  rw [blocks]
  -- Each block carries the number of its place, and may as well carry another.
  constructor
  · intro each operation mem
    rw [← List.zipIdx_map_fst 1 operations] at mem
    obtain ⟨entry, member, rfl⟩ := List.mem_map.mp mem
    exact block_isOk_of 0 (each entry member)
  · intro each entry mem
    exact block_isOk_of _ (each entry.1 (List.fst_mem_of_mem_zipIdx mem))

/-! ## Programs -/

theorem Program.told_eq (program : Program) (lines : List Line) :
    program.told lines = (commands lines).map (Command.text program.dialect.spelling) :=
  program.seen_render lines

theorem Program.flatMap_told (program : Program) (parts : List (List Line)) :
    parts.flatMap program.told =
      (parts.flatMap commands).map (Command.text program.dialect.spelling) := by
  rw [List.map_flatMap]
  exact congrArg parts.flatMap (funext program.told_eq)

theorem Program.view_eq (program : Program) : program.view = program.told program.header ++
    program.told program.blocks.flatten ++ program.told program.footer := by
  rw [view, view_text, body, commands_append, commands_append, List.map_append, List.map_append,
    told_eq, told_eq, told_eq]

theorem assemble_told
    (made : (assemble profile panel operations catalog stamp).outcome = .ok program) :
    program.dialect = profile.dialect ∧
      program.told program.header = profile.opening.map (Command.text profile.dialect.spelling) ∧
      program.told program.footer = profile.closing.map (Command.text profile.dialect.spelling) ∧
      ∃ cuts, catalog.cuts? profile operations = .ok cuts ∧
        program.told program.blocks.flatten =
          (cuts.flatMap commands).map (Command.text profile.dialect.spelling) := by
  obtain ⟨blocks, rfl, all⟩ := assemble_ok made
  obtain ⟨cuts, planned, same⟩ := blocks_cuts all
  refine ⟨rfl, ?_, ?_, cuts, planned, ?_⟩
  · rw [Program.told_eq, ← profile.commands_setup]
    rfl
  · rw [Program.told_eq, ← profile.commands_footer]
    rfl
  · rw [← same, Program.told_eq]
    rfl

theorem Program.composed
    (made : (assemble profile panel operations catalog stamp).outcome = .ok program) :
    program.Composed profile catalog operations := by
  obtain ⟨dialect, head, foot, cuts, planned, told⟩ := assemble_told made
  obtain ⟨blocks, rfl, all⟩ := assemble_ok made
  constructor
  · exact dialect
  · exact List.forall₂_map_right_iff.mpr (all.imp fun _ _ => block?_of_block)
  · refine List.forall₂_map_right_iff.mpr (all.imp fun entry result here missing => ?_)
    rw [block_of_missing missing] at here
    cases here
    rfl
  · exact head
  · exact foot
  · exact ⟨cuts, planned, by rw [view_eq, told, flatMap_told]; rfl⟩

/-- Operations without their tool may be left out, and further operations add their commands behind
those of the program. -/
theorem assemble_composed
    (made : (assemble profile panel operations catalog stamp).outcome = .ok program) :
    program.Composed profile catalog operations ∧
    (∃ pruned, (assemble profile panel (operations.filter catalog.has) catalog stamp).outcome =
      .ok pruned ∧ pruned.view = program.view) ∧
    ∀ more, ((∃ whole, (assemble profile panel (operations ++ more) catalog stamp).outcome =
          .ok whole) ↔
        ∃ further, (assemble profile panel more catalog stamp).outcome = .ok further) ∧
      ∀ whole further,
        (assemble profile panel (operations ++ more) catalog stamp).outcome = .ok whole →
        (assemble profile panel more catalog stamp).outcome = .ok further →
        whole.view = program.told program.header ++ program.told program.blocks.flatten ++
          further.told further.blocks.flatten ++ program.told program.footer := by
  obtain ⟨-, head, foot, cuts, planned, told⟩ := assemble_told made
  have each := assemble_isOk_iff.mp ⟨program, made⟩
  refine ⟨Program.composed made, ?_, fun more => ⟨?_, fun whole further made' made'' => ?_⟩⟩
  · have prunes : ∃ pruned, (assemble profile panel (operations.filter catalog.has) catalog
        stamp).outcome = .ok pruned :=
      assemble_isOk_iff.mpr fun operation mem => each operation (List.mem_of_mem_filter mem)
    obtain ⟨pruned, made'⟩ := prunes
    obtain ⟨-, head', foot', cuts', planned', told'⟩ := assemble_told made'
    -- What is left out has no cuts, so both programs have the same ones.
    rw [Catalog.cuts?_filter, planned] at planned'
    cases planned'
    refine ⟨pruned, made', ?_⟩
    rw [Program.view_eq, Program.view_eq, head, foot, told, head', foot', told']
  · rw [assemble_isOk_iff, assemble_isOk_iff, List.forall_mem_append]
    exact and_iff_right each
  · obtain ⟨-, head', foot', cuts', planned', told'⟩ := assemble_told made'
    obtain ⟨-, -, -, cuts'', planned'', told''⟩ := assemble_told made''
    rw [catalog.cuts?_append profile planned planned''] at planned'
    cases planned'
    rw [Program.view_eq, head', foot', told', head, foot, told, told'', List.flatMap_append,
      List.map_append, ← List.append_assoc]

theorem assemble_composed_of_sample :
    ∃ program pruned whole,
      (assemble .standard (Sample.panel "Shelf") (Sample.operations none) .standard
        Sample.stamp).outcome = .ok program ∧
      program.Composed .standard .standard (Sample.operations none) ∧
      (assemble .standard (Sample.panel "Shelf") ((Sample.operations none).filter
        Catalog.standard.has) .standard Sample.stamp).outcome = .ok pruned ∧
      pruned.view = program.view ∧
      (assemble .standard (Sample.panel "Shelf") (Sample.operations none ++ Sample.operations none)
        .standard Sample.stamp).outcome = .ok whole ∧
      whole.view = program.told program.header ++ program.told program.blocks.flatten ++
        program.told program.blocks.flatten ++ program.told program.footer := by
  obtain ⟨program, made⟩ := Attempt.exists_ok (x := (assemble .standard (Sample.panel "Shelf")
    (Sample.operations none) .standard Sample.stamp).outcome) (by decide +kernel)
  obtain ⟨composed, ⟨pruned, made', same⟩, longer⟩ := assemble_composed made
  obtain ⟨compiles, told⟩ := longer (Sample.operations none)
  obtain ⟨whole, made''⟩ := compiles.mpr ⟨program, made⟩
  exact ⟨program, pruned, whole, made, composed, made', same, made'',
    told whole program made'' made⟩

end Programs

end Millwork
