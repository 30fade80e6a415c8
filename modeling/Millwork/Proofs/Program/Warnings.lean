import Millwork.Proofs.Program.WellFormed

namespace Millwork

/-! ## Notices -/

namespace Traced

variable {α β : Type}

theorem warnings_bind {first : Traced α} {a : α} (done : first.outcome = .ok a)
    (next : α → Traced β) :
    (first >>= next).warnings = first.warnings ++ (next a).warnings := by
  rw [warnings, notices_bind, done]
  exact List.filterMap_append

@[simp] theorem warnings_pure (a : α) : (pure a : Traced α).warnings = [] := rfl

@[simp] theorem warnings_lift (attempt : Attempt α) : (liftM attempt : Traced α).warnings = [] :=
  rfl

theorem warnings_mapM {f : α → Traced β} {items : List α} {results : List β}
    (done : List.Forall₂ (fun item result => (f item).outcome = .ok result) items results) :
    (items.mapM f).warnings = items.flatMap fun item => (f item).warnings := by
  induction done with
  | nil => rfl
  | @cons item result items results here rest ih =>
      have others : (items.mapM f).outcome = .ok results := by
        rw [outcome_mapM, Attempt.mapM_eq_ok]
        exact rest
      rw [List.mapM_cons, warnings_bind here, warnings_bind others, ih, warnings_pure,
        List.append_nil, List.flatMap_cons]

end Traced

namespace Notice

def isAlarm (notice : Notice) : Bool :=
  notice.level = .warning && notice.source = "panelcam.gcode_generator"

theorem isAlarm_eq (notice : Notice) : notice.isAlarm = notice.warning?.isSome := by
  cases notice <;> simp [isAlarm, level, source, warning?]

end Notice

/-! ## What is to be said of an operation -/

namespace Catalog

def remark? (catalog : Catalog) (number : Nat) (operation : Operation) : Option String :=
  match catalog.find? operation.toolId with
  | none => some s!"ERROR: tool \"{operation.toolId}\" not found for operation {number}"
  | some tool => do
    let limit ← tool.maxDepth
    let depth ← operation.cutDepth?
    if limit.val < depth then
      some (s!"WARNING: operation {number} cuts {depth.operand} mm deep, " ++
        s!"tool \"{operation.toolId}\" max depth is {limit.val.operand} mm")
    else none

theorem id_of_find? {catalog : Catalog} {id : String} {tool : Tool}
    (found : catalog.find? id = some tool) : tool.id = id := by
  rw [find?, findTool?] at found
  have same := List.find?_some found
  exact eq_of_beq same

end Catalog

theorem Number.not_le_iff_lt {a b : Number} (finite : a.isFinite = true)
    (finite' : b.isFinite = true) : ¬a ≤ b ↔ b < a := by
  obtain ⟨m, place, -⟩ := exists_place_of_isFinite finite
  obtain ⟨n, place', -⟩ := exists_place_of_isFinite finite'
  change ¬a.le b = true ↔ b.lt a = true
  simp [le, lt, place, place']

section Blocks

variable {profile : Profile} {catalog : Catalog} {number : Nat} {operation : Operation}
  {tool : Tool}

theorem Operation.isFinite_cutDepth {kind : OperationKind} (known : operation.kind? = some kind)
    {depth : Number} (measured : operation.cutDepth? = some depth) : depth.isFinite = true := by
  cases operation with
  | drill task =>
      cases measured
      exact task.isFinite_cutDepth
  | contour task | closedPocket task | openPocket task =>
      cases measured
      exact task.depth.property.1
  | ofNoKind => cases known

theorem Operation.kind?_of_lines {lines : List Line}
    (cut : (operation.lines tool profile).outcome = .ok lines) :
    ∃ kind, operation.kind? = some kind := by
  cases operation with
  | ofNoKind => cases cut
  | _ => exact ⟨_, rfl⟩

theorem message_depthWarning? {kind : OperationKind} (known : operation.kind? = some kind)
    (found : catalog.find? operation.toolId = some tool) {warning : Option Warning}
    (warned : depthWarning? (.whole number) operation tool = .ok warning) :
    warning.map Warning.message = catalog.remark? number operation := by
  have named := Catalog.id_of_find? found
  rw [Catalog.remark?, found]
  rw [depthWarning?] at warned
  cases limited : tool.maxDepth with
  | none =>
      rw [limited] at warned
      cases warned
      simp [limited]
  | some limit =>
      cases measured : operation.cutDepth? with
      | none =>
          rw [limited, measured] at warned
          cases warned
      | some depth =>
          have deeper := Number.not_le_iff_lt (operation.isFinite_cutDepth known measured)
            limit.property.1
          simp only [limited, measured] at warned ⊢
          split at warned
          · rename_i within
            cases warned
            exact (if_neg fun less => deeper.mpr less within).symm
          · rename_i deep
            obtain ⟨x, -, same⟩ := Attempt.bind_eq_ok.mp warned
            cases same
            rw [named]
            exact (if_pos (deeper.mp deep)).symm

theorem block_remarked {result : Block × Option Warning}
    (made : (block profile catalog (.whole number) operation).outcome = .ok result) :
    result.2.map Warning.message = catalog.remark? number operation ∧
      ∀ message ∈ catalog.remark? number operation,
        catalog.find? operation.toolId = none ∧ result.1 = [.remark message] ∨
        catalog.find? operation.toolId ≠ none ∧ ∃ rest,
          result.1 = operation.heading (.whole number) ++ .remark message :: rest := by
  rcases block_parts made with ⟨missing, rfl⟩ | ⟨tool, warning, lines, found, warned, cut, rfl⟩
  · rw [Catalog.remark?, missing]
    refine ⟨rfl, fun message told => ?_⟩
    cases told
    exact .inl ⟨rfl, rfl⟩
  · obtain ⟨kind, known⟩ := Operation.kind?_of_lines cut
    have said := message_depthWarning? known found warned
    refine ⟨said, fun message told => .inr ⟨by simp [found], lines, ?_⟩⟩
    rw [← said] at told
    cases warning with
    | none => cases told
    | some warning =>
        cases told
        simp

theorem warnings_lines {lines : List Line}
    (cut : (operation.lines tool profile).outcome = .ok lines) :
    (operation.lines tool profile).warnings = [] := by
  cases operation with
  | contour task =>
      obtain ⟨passes, planned, -⟩ := task.lines_ok cut
      have planned : (liftM (task.passes? task.depth) : Attempt _) = .ok passes :=
        Attempt.liftM_eq_ok.mpr planned
      rw [Operation.lines, Contour.lines, Traced.warnings_bind planned]
      rfl
  | _ => rfl

theorem warnings_remarks (warnings : List Warning) :
    (warnings.mapM Warning.remark).warnings = warnings := by
  have each : List.Forall₂ (fun warning line => (Warning.remark warning).outcome = .ok line)
      warnings (warnings.map fun warning => .remark warning.message) := by
    rw [← Attempt.mapM_eq_ok, ← Traced.outcome_mapM]
    exact mapM_remark_outcome warnings
  rw [Traced.warnings_mapM each]
  exact List.flatMap_singleton' warnings

theorem block_warnings {number : Number} {result : Block × Option Warning}
    (made : (block profile catalog number operation).outcome = .ok result) :
    (block profile catalog number operation).warnings = result.2.toList := by
  rcases block_parts made with ⟨missing, rfl⟩ | ⟨tool, warning, lines, found, warned, cut, rfl⟩
  · rw [block, missing]
    rfl
  · rw [block, found]
    have warned' : (liftM (depthWarning? number operation tool) : Traced _).outcome = .ok warning :=
      warned
    dsimp only
    rw [Traced.warnings_bind warned', Traced.warnings_bind (mapM_remark_outcome _),
      Traced.warnings_bind cut, warnings_remarks, warnings_lines cut]
    simp

end Blocks

/-! ## Whole programs -/

namespace Program

/-- What a program says of operations that lack a tool or cut too deep, and the notices of its
making. -/
structure Warned (program : Program) (catalog : Catalog) (operations : List Operation)
    (notices : List Notice) : Prop where
  messages : program.warnings.map Warning.message =
    (operations.zipIdx 1).filterMap fun entry => catalog.remark? entry.2 entry.1
  /-- Without a tool the warning is the block; else it stands behind the heading of the block. -/
  shown : List.Forall₂ (fun entry block => ∀ message ∈ catalog.remark? entry.2 entry.1,
      let comment := program.dialect.spelling.comment
      catalog.find? entry.1.toolId = none ∧ program.render block = [comment message] ∨
      catalog.find? entry.1.toolId ≠ none ∧ ∃ rest, program.render block =
        "" :: comment s!"Operation {entry.2}: {entry.1.kindWord}" :: comment message :: rest)
    (operations.zipIdx 1) program.blocks
  alarms : (notices.filter Notice.isAlarm).length = program.warnings.length

end Program

section Programs

variable {profile : Profile} {panel : Panel} {operations : List Operation} {catalog : Catalog}
  {stamp : Timestamp} {program : Program}

private theorem flatMap_eq_flatMap {α β γ : Type} {f : α → List γ} {g : β → List γ}
    {items : List α} {others : List β} (each : List.Forall₂ (fun a b => f a = g b) items others) :
    items.flatMap f = others.flatMap g := by
  induction each with
  | nil => rfl
  | cons here _ ih => rw [List.flatMap_cons, List.flatMap_cons, here, ih]

theorem assemble_warnings
    (made : (assemble profile panel operations catalog stamp).outcome = .ok program) :
    (assemble profile panel operations catalog stamp).warnings = program.warnings := by
  obtain ⟨blocks, rfl, all⟩ := assemble_ok made
  have done := (Traced.outcome_mapM _ _).trans (Attempt.mapM_eq_ok.mpr all)
  rw [assemble, Traced.warnings_bind done, Traced.warnings_mapM all,
    flatMap_eq_flatMap (all.imp fun _ _ => block_warnings), ← List.filterMap_eq_flatMap_toList]
  exact List.append_nil _

theorem assemble_warned
    (made : (assemble profile panel operations catalog stamp).outcome = .ok program) :
    program.Warned catalog operations
      (assemble profile panel operations catalog stamp).notices := by
  have noticed := assemble_warnings made
  obtain ⟨blocks, rfl, all⟩ := assemble_ok made
  refine ⟨?_, ?_, ?_⟩
  · rw [Program.ofBlocks, List.map_filterMap, List.filterMap_eq_flatMap_toList,
      List.filterMap_eq_flatMap_toList]
    refine (flatMap_eq_flatMap (all.imp fun entry result here => ?_)).symm
    rw [(block_remarked here).1]
  · refine List.forall₂_map_right_iff.mpr (all.imp fun entry result here message told => ?_)
    rcases (block_remarked here).2 message told with ⟨missing, lines⟩ | ⟨found, rest, lines⟩
    · exact .inl ⟨missing, by rw [lines]; rfl⟩
    · exact .inr ⟨found, _, by rw [lines]; rfl⟩
  · have alarm : Notice.isAlarm = fun notice => notice.warning?.isSome :=
      funext Notice.isAlarm_eq
    rw [← noticed, Traced.warnings, List.length_filterMap_eq_countP, alarm,
      List.countP_eq_length_filter]

end Programs

namespace Sample

def deepHole : Drill :=
  { hole none with toolId := "mill_6mm", toolId_ne, depth := ⟨.whole 19, by decide +kernel⟩ }

/-- Of three operations the second has no tool and the third cuts too deep. -/
def troubled : List Operation := operations none ++ [.drill deepHole]

end Sample

theorem assemble_warned_of_sample :
    let made := assemble .standard (Sample.panel "") Sample.troubled .standard Sample.stamp
    (∃ program, made.outcome = .ok program ∧
      program.Warned .standard Sample.troubled made.notices) ∧
    (Sample.troubled.zipIdx 1).filterMap (fun entry => Catalog.standard.remark? entry.2 entry.1) =
      ["ERROR: tool \"none\" not found for operation 2",
        "WARNING: operation 3 cuts 21 mm deep, tool \"mill_6mm\" max depth is 20 mm"] := by
  refine ⟨?_, by decide +kernel⟩
  obtain ⟨program, made⟩ := Attempt.exists_ok
    (x := (assemble .standard (Sample.panel "") Sample.troubled .standard Sample.stamp).outcome)
    (by decide +kernel)
  exact ⟨program, made, assemble_warned made⟩

end Millwork
