import Millwork.Proofs.Attempt
import Millwork.Program.Basic

namespace Millwork

/-! ## Commands of lines -/

@[simp] theorem commands_nil : commands [] = [] := rfl

@[simp] theorem commands_blank (lines : List Line) : commands (.blank :: lines) = commands lines :=
  rfl

@[simp] theorem commands_remark (text : String) (lines : List Line) :
    commands (.remark text :: lines) = commands lines := rfl

@[simp] theorem commands_command (order : Command) (note : Option String) (lines : List Line) :
    commands (.command order note :: lines) = order :: commands lines := rfl

@[simp] theorem commands_append (front back : List Line) :
    commands (front ++ back) = commands front ++ commands back := List.filterMap_append

@[simp] theorem commands_map_remark (texts : List String) : commands (texts.map .remark) = [] := by
  induction texts with
  | nil => rfl
  | cons text texts ih => exact ih

theorem forall_mem_commands {holds : Command → Prop} {lines : List Line} :
    (∀ command ∈ commands lines, holds command) ↔
      ∀ line ∈ lines, ∀ command ∈ line.command?, holds command := by
  constructor
  · intro all line mem command found
    exact all command (List.mem_filterMap.mpr ⟨line, mem, found⟩)
  · intro all command mem
    obtain ⟨line, member, found⟩ := List.mem_filterMap.mp mem
    exact all line member command found

theorem commands_flatMap {α : Type} (f : α → List Line) (items : List α) :
    commands (items.flatMap f) = items.flatMap fun item => commands (f item) := by
  induction items with
  | nil => rfl
  | cons item items ih => simp [List.flatMap_cons, ih]

theorem commands_flatten (blocks : List Block) :
    commands blocks.flatten = blocks.flatMap commands := by
  induction blocks with
  | nil => rfl
  | cons block blocks ih => simp [ih]

@[simp] theorem commands_description (summary : String) (tool : Tool) (comment : Option String) :
    commands (description summary tool comment) = [] :=
  commands_map_remark (summary :: _ :: comment.toList.filter (!·.isEmpty))

/-! ## Blocks -/

def Operation.heading (number : Number) (operation : Operation) : List Line :=
  [.blank, .remark s!"Operation {number.text}: {operation.kindWord}"]

theorem findTool?_rel {alike : Tool → Tool → Prop}
    (ids : ∀ {first second : Tool}, alike first second → first.id = second.id)
    {tools tools' : List Tool} (each : List.Forall₂ alike tools tools') (id : String) :
    Option.Rel alike (findTool? tools id) (findTool? tools' id) := by
  induction each with
  | nil => exact .none
  | cons here _ ih =>
      rw [findTool?, findTool?, List.find?_cons, List.find?_cons, ids here]
      split
      · exact .some here
      · exact ih

variable {profile : Profile} {catalog : Catalog} {number : Number} {operation : Operation}

theorem mapM_remark_outcome (warnings : List Warning) :
    (warnings.mapM Warning.remark).outcome = .ok (warnings.map fun w => .remark w.message) := by
  rw [Traced.outcome_mapM, Attempt.mapM_eq_ok]
  induction warnings with
  | nil => exact .nil
  | cons warning warnings ih => exact .cons rfl ih

theorem block_of_missing (missing : catalog.find? operation.toolId = none) :
    (block profile catalog number operation).outcome =
      .ok ([.remark (Warning.missingTool number operation.kindWord operation.toolId).message],
        some (.missingTool number operation.kindWord operation.toolId)) := by
  rw [block, missing]
  rfl

theorem block_of_found {tool : Tool} (found : catalog.find? operation.toolId = some tool) :
    (block profile catalog number operation).outcome = do
      let warning ← depthWarning? number operation tool
      let lines ← (operation.lines tool profile).outcome
      return (operation.heading number ++ warning.toList.map (.remark ·.message) ++ lines,
        warning) := by
  rw [block, found]
  simp only [Traced.outcome_bind, Traced.outcome_lift, mapM_remark_outcome, Attempt.ok_bind,
    Traced.outcome_pure]
  rfl

theorem block_parts {result : Block × Option Warning}
    (made : (block profile catalog number operation).outcome = .ok result) :
    catalog.find? operation.toolId = none ∧
        result =
          ([.remark (Warning.missingTool number operation.kindWord operation.toolId).message],
            some (.missingTool number operation.kindWord operation.toolId)) ∨
      ∃ tool warning lines, catalog.find? operation.toolId = some tool ∧
        depthWarning? number operation tool = .ok warning ∧
        (operation.lines tool profile).outcome = .ok lines ∧
        result = (operation.heading number ++ warning.toList.map (.remark ·.message) ++ lines,
          warning) := by
  cases found : catalog.find? operation.toolId with
  | none =>
      rw [block_of_missing found] at made
      exact .inl ⟨rfl, (Except.ok.inj made).symm⟩
  | some tool =>
      rw [block_of_found found] at made
      obtain ⟨warning, warned, made⟩ := Attempt.bind_eq_ok.mp made
      obtain ⟨lines, cut, made⟩ := Attempt.bind_eq_ok.mp made
      exact .inr ⟨tool, warning, lines, rfl, warned, cut, (Attempt.pure_eq_ok.mp made).symm⟩

theorem block_ok {result : Block × Option Warning}
    (made : (block profile catalog number operation).outcome = .ok result) :
    catalog.find? operation.toolId = none ∧ commands result.1 = [] ∨
      ∃ tool lines, catalog.find? operation.toolId = some tool ∧
        (operation.lines tool profile).outcome = .ok lines ∧
        commands result.1 = commands lines := by
  rcases block_parts made with ⟨missing, rfl⟩ | ⟨tool, warning, lines, found, -, cut, rfl⟩
  · exact .inl ⟨missing, rfl⟩
  · refine .inr ⟨tool, lines, found, cut, ?_⟩
    cases warning <;> simp [Operation.heading]

/-! ## Cuts -/

theorem Contour.lines_outcome (contour : Contour) (tool : Tool) (profile : Profile) :
    (contour.lines tool profile).outcome = do
      let passes ← (contour.passes? contour.depth : Attempt _)
      return description contour.summary tool contour.comment ++
        passes.flatMap (contour.pass tool profile) := by
  simp only [Contour.lines, Traced.outcome_bind, Traced.outcome_lift, Traced.outcome_note,
    Attempt.ok_bind, Traced.outcome_pure]
  rfl

section Cuts

variable {tool : Tool} {lines : List Line}

theorem Contour.lines_ok {contour : Contour}
    (cut : ((Operation.contour contour).lines tool profile).outcome = .ok lines) :
    ∃ passes, contour.passes? contour.depth = .ok passes ∧
      lines = description contour.summary tool contour.comment ++
        passes.flatMap (contour.pass tool profile) := by
  rw [Operation.lines, Contour.lines_outcome] at cut
  obtain ⟨passes, planned, same⟩ := Attempt.bind_eq_ok.mp cut
  exact ⟨passes, Attempt.liftM_eq_ok.mp planned, (Attempt.pure_eq_ok.mp same).symm⟩

theorem ClosedPocket.lines_ok {pocket : ClosedPocket}
    (cut : ((Operation.closedPocket pocket).lines tool profile).outcome = .ok lines) :
    ∃ passes, pocket.passes? pocket.depth = .ok passes ∧
      lines = description pocket.summary tool pocket.comment ++
        strategyLine pocket.strategy.word ::
        passes.flatMap (pocketPass pocket.path true tool profile) := by
  rw [Operation.lines, Traced.outcome_lift, Attempt.liftM_eq_ok, ClosedPocket.lines] at cut
  obtain ⟨passes, planned, same⟩ := Attempt.bind_eq_ok.mp cut
  exact ⟨passes, planned, (Attempt.pure_eq_ok.mp same).symm⟩

theorem OpenPocket.lines_ok {pocket : OpenPocket}
    (cut : ((Operation.openPocket pocket).lines tool profile).outcome = .ok lines) :
    ∃ passes, pocket.passes? pocket.depth = .ok passes ∧
      lines = description pocket.summary tool pocket.comment ++
        strategyLine pocket.strategy.word ::
        passes.flatMap (pocketPass pocket.path false tool profile) := by
  rw [Operation.lines, Traced.outcome_lift, Attempt.liftM_eq_ok, OpenPocket.lines] at cut
  obtain ⟨passes, planned, same⟩ := Attempt.bind_eq_ok.mp cut
  exact ⟨passes, planned, (Attempt.pure_eq_ok.mp same).symm⟩

end Cuts

/-! ## Programs -/

section Programs

variable {panel : Panel} {operations : List Operation} {stamp : Timestamp}

def Program.ofBlocks (profile : Profile) (panel : Panel) (stamp : Timestamp)
    (blocks : List (Block × Option Warning)) : Program where
  dialect := profile.dialect
  preamble := panel.preamble
  stamp := Millwork.stampLine stamp
  setup := profile.setup
  blocks := blocks.map (·.1)
  footer := .blank :: profile.footer
  warnings := blocks.filterMap (·.2)

theorem assemble_outcome :
    (assemble profile panel operations catalog stamp).outcome =
      Program.ofBlocks profile panel stamp <$> (operations.zipIdx 1).mapM fun entry =>
        (block profile catalog (.whole entry.2) entry.1).outcome := by
  simp only [assemble, Traced.outcome_bind, Traced.outcome_mapM, Traced.outcome_note,
    Attempt.ok_bind, Traced.outcome_pure, map_eq_pure_bind]
  rfl

theorem assemble_ok {program : Program}
    (made : (assemble profile panel operations catalog stamp).outcome = .ok program) :
    ∃ blocks, program = .ofBlocks profile panel stamp blocks ∧
      List.Forall₂ (fun entry result =>
        (block profile catalog (.whole entry.2) entry.1).outcome = .ok result)
        (operations.zipIdx 1) blocks := by
  rw [assemble_outcome] at made
  obtain ⟨blocks, all, same⟩ := Attempt.map_eq_ok.mp made
  exact ⟨blocks, same.symm, Attempt.mapM_eq_ok.mp all⟩

theorem assemble_congr {catalog' : Catalog} (each : ∀ operation ∈ operations, ∀ number,
      block profile catalog number operation = block profile catalog' number operation) :
    assemble profile panel operations catalog stamp =
      assemble profile panel operations catalog' stamp := by
  rw [assemble, assemble]
  refine congrArg (· >>= _) (Traced.mapM_congr fun entry mem => ?_)
  exact each entry.1 (List.fst_mem_of_mem_zipIdx mem) _

/-- The number of an operation is only written in remarks, so it may be any. -/
theorem forall₂_blocks {first : Nat} {blocks : List (Block × Option Warning)}
    {holds : Operation → Block × Option Warning → Prop}
    (each : ∀ number operation result,
      (block profile catalog number operation).outcome = .ok result → holds operation result)
    (made : List.Forall₂ (fun entry result =>
      (block profile catalog (.whole entry.2) entry.1).outcome = .ok result)
      (operations.zipIdx first) blocks) :
    List.Forall₂ holds operations blocks := by
  have entries : List.Forall₂ holds ((operations.zipIdx first).map Prod.fst) blocks := by
    rw [List.forall₂_map_left_iff]
    exact made.imp fun entry result here => each _ _ _ here
  rwa [List.zipIdx_map_fst] at entries

end Programs

/-! ## A small job

A contour of two passes, ramped into and out of with the tool beside it, and a hole without a
tool. -/

namespace Sample

def panel (name : String) : Panel where
  name
  length := .whole 600
  width := .whole 300
  thickness := .whole 18
  material := ""
  origin := .bottomLeft
  face := .top
  zOffset := ⟨.whole 0, by decide +kernel⟩

def stamp : Timestamp := ⟨2024, 1, 1, 0, 0, 0, 0⟩

def point (x y : Nat) (inRange : decide (x ≤ 600 ∧ y ≤ 600) = true := by exact Eq.refl true) :
    Point :=
  have small := of_decide_eq_true inRange
  have finite {n : Nat} (bound : n ≤ 600) : (Double.ofInt n).isFinite = true :=
    Number.isFinite_whole (Nat.le_trans bound (by decide))
  ⟨⟨.ofInt x, finite small.1⟩, ⟨.ofInt y, finite small.2⟩⟩

theorem toolId_ne : "mill_6mm" ≠ "" := by decide

def outline (comment : Option String) : Contour where
  toolId := "mill_6mm"
  depth := ⟨.whole 5, by decide +kernel⟩
  comment
  toolId_ne
  multiPass := true
  passDepth := some (.whole 3)
  path := ⟨point 0 0, [point 40 0, point 40 30]⟩
  closed := true
  entry := some ⟨.ramp, none, none⟩
  exit := some ⟨.ramp⟩
  compensation := .left

def hole (comment : Option String) : Drill where
  toolId := "none"
  depth := ⟨.whole 5, by decide +kernel⟩
  comment
  toolId_ne := by decide
  x := ⟨.whole 20, by decide +kernel⟩
  y := ⟨.whole 15, by decide +kernel⟩
  diameter := .whole 5
  through := true

def operations (comment : Option String) : List Operation :=
  [.contour (outline comment), .drill (hole comment)]

end Sample

end Millwork
