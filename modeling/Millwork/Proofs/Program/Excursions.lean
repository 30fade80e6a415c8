import Millwork.Proofs.Controller.Motion
import Millwork.Proofs.Program.Assembly

/-!
# Excursions of a program

Whatever is drilled or followed, the tool goes to a place at the safe height, cuts, and comes back:
one excursion for a hole, one for every pass of a path. `Operation.excursions?` is what an operation
tells the machine to do, without any of its remarks.

* `Operation.commands_lines`: the commands of an operation are those of its excursions.
* `block_orders`: so are the commands of a block.
* `assemble_carries`: a program carries the excursions of its operations, between a head and a foot
  that depend on the profile alone.
-/

namespace Millwork

/-! ## Lines that cut -/

namespace Line

def isCut : Line → Bool
  | .command order _ => order.isCut
  | _ => false

def isLinear : Line → Bool
  | .command order _ => order.isLinear
  | _ => false

theorem isCut_of_isLinear {line : Line} (moves : line.isLinear = true) : line.isCut = true := by
  cases line with
  | command order note => exact Command.isCut_of_isLinear moves
  | _ => cases moves

end Line

theorem isCut_of_mem_commands {lines : List Line} (cut : ∀ line ∈ lines, line.isCut = true) :
    ∀ command ∈ commands lines, command.isCut = true := by
  rw [forall_mem_commands]
  rintro (_ | text | ⟨order, note⟩) mem command ⟨⟩
  exact cut _ mem

theorem isLinear_of_mem_commands {lines : List Line}
    (moves : ∀ line ∈ lines, line.isLinear = true) :
    ∀ command ∈ commands lines, command.isLinear = true := by
  rw [forall_mem_commands]
  rintro (_ | text | ⟨order, note⟩) mem command ⟨⟩
  exact moves _ mem

theorem Path.isLinear_traverse (path : Path) (feed : Double) (closed : Bool) :
    ∀ line ∈ path.traverse feed closed, line.isLinear = true := by
  intro line mem
  rw [traverse, List.mem_append, List.mem_map] at mem
  rcases mem with ⟨entry, -, rfl⟩ | mem
  · rfl
  · cases closed with
    | false => cases mem
    | true =>
        cases List.mem_singleton.mp mem
        rfl

namespace Line

theorem isLinear_entering (entry : Option Entry) (start : Spot) (z rate : Double) :
    ∀ line ∈ entering entry start z rate, line.isLinear = true := by
  rw [entering]
  split <;> simp [isLinear, linear, plunge, Command.isLinear]

theorem isLinear_leaving (exit : Option Exit) (start : Spot) (rate : Double) :
    ∀ line ∈ leaving exit start rate, line.isLinear = true := by
  rw [leaving]
  split <;> simp [isLinear, linear, Command.isLinear]

end Line

/-! ## Passes -/

namespace Excursion

def along (start : Spot) (lines : List Line) (cut : ∀ line ∈ lines, line.isCut = true) :
    Excursion :=
  ⟨start.1, start.2, commands lines, isCut_of_mem_commands cut⟩

variable (profile : Profile) (start : Spot) {lines : List Line}
  (cut : ∀ line ∈ lines, line.isCut = true)

theorem orders_along (pass : Pass Number) :
    commands (passHeading pass :: profile.approach start ++ lines ++
      [profile.retract "Retract to safe height"]) =
        (along start lines cut).orders (PositiveNumber.toDouble profile.safeHeight) := by
  simp [passHeading, Profile.approach, Profile.retract, Line.rapid, orders, along]

end Excursion

namespace Drill

def excursion (drill : Drill) (tool : Tool) (profile : Profile) : Excursion where
  x := drill.x.val.toDouble
  y := drill.y.val.toDouble
  cuts := [.linear (.height (-drill.cutDepth).toDouble)
    (some (PositiveNumber.toDouble (profile.plungeRateFor tool)))]
  cut := by simp [Command.isCut]

theorem commands_lines (drill : Drill) (tool : Tool) (profile : Profile) :
    commands (drill.lines tool profile) =
      (drill.excursion tool profile).orders (PositiveNumber.toDouble profile.safeHeight) := by
  simp [lines, Profile.retract, Line.rapid, Line.linear, Excursion.orders, excursion]

end Drill

namespace Contour

variable (contour : Contour) (tool : Tool) (profile : Profile) (pass : Pass Number)

def cutLines : List Line :=
  let start := contour.path.start.spot
  let feed := PositiveNumber.toDouble (profile.feedRateFor tool)
  let plunge := PositiveNumber.toDouble (profile.plungeRateFor tool)
  let entry := if pass.isFirst then contour.entry else none
  let compensated := profile.compensates contour.compensation
  Line.entering entry start pass.height.toDouble plunge ++
    (if compensated then [Line.startCompensation contour.compensation tool] else []) ++
    (if isRampEntry entry then [Line.rampReturn start feed] else []) ++
    contour.path.traverse feed contour.closed.isOn ++
    (if pass.isLast then Line.leaving contour.exit start plunge else []) ++
    (if compensated then [Line.endCompensation] else [])

theorem isCut_cutLines : ∀ line ∈ contour.cutLines tool profile pass, line.isCut = true := by
  intro line mem
  simp only [cutLines, List.mem_append, List.mem_ite_nil_right, List.mem_singleton] at mem
  rcases mem with ((((entering | ⟨-, rfl⟩) | ⟨-, rfl⟩) | path) | ⟨-, leaving⟩) | ⟨-, rfl⟩
  · exact Line.isCut_of_isLinear (Line.isLinear_entering _ _ _ _ line entering)
  · rfl
  · rfl
  · exact Line.isCut_of_isLinear (contour.path.isLinear_traverse _ _ line path)
  · exact Line.isCut_of_isLinear (Line.isLinear_leaving _ _ _ line leaving)
  · rfl

def excursion : Excursion :=
  .along contour.path.start.spot (contour.cutLines tool profile pass)
    (contour.isCut_cutLines tool profile pass)

theorem pass_eq : contour.pass tool profile pass =
    passHeading pass :: profile.approach contour.path.start.spot ++
      contour.cutLines tool profile pass ++ [profile.retract "Retract to safe height"] := by
  simp only [Contour.pass, cutLines, List.cons_append, List.append_assoc]

theorem commands_pass : commands (contour.pass tool profile pass) =
    (contour.excursion tool profile pass).orders (PositiveNumber.toDouble profile.safeHeight) := by
  rw [excursion, ← Excursion.orders_along profile _ _ pass, pass_eq]

end Contour

section Pockets

variable (path : Path) (closed : Bool) (tool : Tool) (profile : Profile) (pass : Pass Number)

def pocketLines : List Line :=
  Line.plunge pass.height.toDouble (PositiveNumber.toDouble (profile.plungeRateFor tool)) ::
    path.traverse (PositiveNumber.toDouble (profile.feedRateFor tool)) closed

theorem isLinear_pocketLines : ∀ line ∈ pocketLines path closed tool profile pass,
    line.isLinear = true := by
  rw [pocketLines, List.forall_mem_cons]
  exact ⟨rfl, path.isLinear_traverse _ closed⟩

theorem isCut_pocketLines : ∀ line ∈ pocketLines path closed tool profile pass,
    line.isCut = true := by
  intro line mem
  exact Line.isCut_of_isLinear (isLinear_pocketLines path closed tool profile pass line mem)

def pocketExcursion : Excursion :=
  .along path.start.spot (pocketLines path closed tool profile pass)
    (isCut_pocketLines path closed tool profile pass)

theorem commands_pocketPass : commands (pocketPass path closed tool profile pass) =
    (pocketExcursion path closed tool profile pass).orders
      (PositiveNumber.toDouble profile.safeHeight) := by
  rw [pocketExcursion, ← Excursion.orders_along profile _ _ pass]
  rfl

end Pockets

/-! ## Operations -/

def Stepping.excursions? (stepping : Stepping) (depth : NonnegNumber)
    (excursion : Pass Number → Excursion) : Attempt (List Excursion) := do
  let passes ← (stepping.passes? depth : Attempt _)
  return passes.map excursion

theorem Stepping.excursions?_ok {stepping : Stepping} {depth : NonnegNumber}
    {excursion : Pass Number → Excursion} {excursions : List Excursion}
    (planned : stepping.excursions? depth excursion = .ok excursions) :
    ∃ passes, stepping.passes? depth = .ok passes ∧ excursions = passes.map excursion := by
  obtain ⟨passes, scheduled, same⟩ := Attempt.bind_eq_ok.mp planned
  exact ⟨passes, Attempt.liftM_eq_ok.mp scheduled, (Attempt.pure_eq_ok.mp same).symm⟩

def Operation.excursions? (operation : Operation) (tool : Tool) (profile : Profile) :
    Attempt (List Excursion) :=
  match operation with
  | drill task => .ok [task.excursion tool profile]
  | contour task => task.excursions? task.depth (task.excursion tool profile)
  | closedPocket task => task.excursions? task.depth (pocketExcursion task.path true tool profile)
  | openPocket task => task.excursions? task.depth (pocketExcursion task.path false tool profile)
  | ofNoKind .. => .error .notCuttable

def orders (profile : Profile) (excursions : List Excursion) : List Command :=
  excursions.flatMap (Excursion.orders (PositiveNumber.toDouble profile.safeHeight))

theorem commands_flatMap_passes {profile : Profile} {cut : Pass Number → List Line}
    {excursion : Pass Number → Excursion}
    (one : ∀ pass, commands (cut pass) =
      (excursion pass).orders (PositiveNumber.toDouble profile.safeHeight))
    (passes : List (Pass Number)) :
    commands (passes.flatMap cut) = orders profile (passes.map excursion) := by
  rw [commands_flatMap, orders, List.flatMap_map]
  exact congrArg passes.flatMap (funext one)

theorem Operation.commands_lines (operation : Operation) (tool : Tool) (profile : Profile) :
    commands <$> (operation.lines tool profile).outcome =
      orders profile <$> operation.excursions? tool profile := by
  have pocket (summary : String) (comment : Option String) (word : String) (path : Path)
      (closed : Bool) (passes : List (Pass Number)) :
      commands (description summary tool comment ++
        strategyLine word :: passes.flatMap (pocketPass path closed tool profile)) =
          orders profile (passes.map (pocketExcursion path closed tool profile)) := by
    rw [commands_append, commands_description, List.nil_append, strategyLine, commands_remark]
    exact commands_flatMap_passes (commands_pocketPass path closed tool profile) passes
  cases operation with
  | drill task =>
      change Except.ok (commands (task.lines tool profile)) = _
      rw [Drill.commands_lines]
      simp [excursions?, orders]
  | contour task =>
      rw [lines, Contour.lines_outcome, excursions?, Stepping.excursions?]
      cases task.passes? task.depth with
      | error fault => rfl
      | ok passes =>
          refine congrArg Except.ok ?_
          rw [commands_append, commands_description, List.nil_append]
          exact commands_flatMap_passes (task.commands_pass tool profile) passes
  | closedPocket task =>
      rw [lines, Traced.outcome_lift, excursions?, Stepping.excursions?, ClosedPocket.lines]
      cases task.passes? task.depth with
      | error fault => rfl
      | ok passes => exact congrArg Except.ok (pocket _ _ _ _ _ passes)
  | openPocket task =>
      rw [lines, Traced.outcome_lift, excursions?, Stepping.excursions?, OpenPocket.lines]
      cases task.passes? task.depth with
      | error fault => rfl
      | ok passes => exact congrArg Except.ok (pocket _ _ _ _ _ passes)
  | ofNoKind toolId depth comment => rfl

/-! ## Programs -/

def Catalog.excursions? (catalog : Catalog) (profile : Profile) (operation : Operation) :
    Attempt (List Excursion) :=
  match catalog.find? operation.toolId with
  | none => .ok []
  | some tool => operation.excursions? tool profile

section Programs

variable {profile : Profile} {catalog : Catalog}

theorem block_orders {number : Number} {operation : Operation} {result : Block × Option Warning}
    (made : (block profile catalog number operation).outcome = .ok result) :
    ∃ excursions, catalog.excursions? profile operation = .ok excursions ∧
      commands result.1 = orders profile excursions := by
  rcases block_ok made with ⟨missing, silent⟩ | ⟨tool, lines, found, cut, same⟩
  · exact ⟨[], by rw [Catalog.excursions?, missing], silent⟩
  · have spec := operation.commands_lines tool profile
    rw [cut] at spec
    obtain ⟨excursions, planned, told⟩ := Attempt.map_eq_ok.mp spec.symm
    refine ⟨excursions, ?_, same.trans told.symm⟩
    rw [Catalog.excursions?, found]
    exact planned

theorem blocks_orders {operations : List Operation} {first : Nat}
    {blocks : List (Block × Option Warning)}
    (made : List.Forall₂ (fun entry result =>
      (block profile catalog (.whole entry.2) entry.1).outcome = .ok result)
      (operations.zipIdx first) blocks) :
    ∃ excursions, List.Forall₂ (fun operation cuts =>
        catalog.excursions? profile operation = .ok cuts) operations excursions ∧
      (blocks.map (·.1)).map commands = excursions.map (orders profile) := by
  have each : List.Forall₂ (fun operation result => ∃ cuts,
      catalog.excursions? profile operation = .ok cuts ∧
        commands result.1 = orders profile cuts) operations blocks :=
    forall₂_blocks (fun _ _ _ => block_orders) made
  clear made
  induction each with
  | nil => exact ⟨[], .nil, rfl⟩
  | cons here _ ih =>
      obtain ⟨cuts, planned, told⟩ := here
      obtain ⟨excursions, all, same⟩ := ih
      exact ⟨cuts :: excursions, .cons planned all, by
        rw [List.map_cons, List.map_cons, told, same, List.map_cons]⟩

end Programs

namespace Profile

def opening (profile : Profile) : List Command :=
  [.absolutePositions, .millimetres, .rapid (.height (PositiveNumber.toDouble profile.safeHeight)),
    .startSpindle (PositiveNumber.toDouble profile.spindleSpeed)]

def closing (profile : Profile) : List Command :=
  [.rapid (.height (PositiveNumber.toDouble profile.safeHeight)), .stopSpindle, .endProgram]

theorem commands_setup (profile : Profile) : commands profile.setup = profile.opening := by
  simp [setup, retract, Line.rapid, opening]

theorem commands_footer (profile : Profile) : commands profile.footer = profile.closing := rfl

end Profile

/-- The program tells a machine of the profile to make these excursions, block by block. -/
structure Program.Carries (program : Program) (profile : Profile)
    (excursions : List (List Excursion)) : Prop where
  dialect : program.dialect = profile.dialect
  header : commands program.header = profile.opening
  blocks : program.blocks.map commands = excursions.map (orders profile)
  footer : program.footer = .blank :: profile.footer

theorem assemble_carries {profile : Profile} {panel : Panel} {operations : List Operation}
    {catalog : Catalog} {stamp : Timestamp} {program : Program}
    (made : (assemble profile panel operations catalog stamp).outcome = .ok program) :
    ∃ excursions, List.Forall₂ (fun operation cuts =>
        catalog.excursions? profile operation = .ok cuts) operations excursions ∧
      program.Carries profile excursions := by
  obtain ⟨blocks, rfl, all⟩ := assemble_ok made
  obtain ⟨excursions, planned, told⟩ := blocks_orders all
  exact ⟨excursions, planned, rfl, profile.commands_setup, told, rfl⟩

theorem orders_flatten (profile : Profile) (excursions : List (List Excursion)) :
    orders profile excursions.flatten = (excursions.map (orders profile)).flatten := by
  induction excursions with
  | nil => rfl
  | cons cuts excursions ih =>
      rw [List.flatten_cons, List.map_cons, List.flatten_cons, ← ih]
      exact List.flatMap_append

namespace Program.Carries

variable {program : Program} {profile : Profile} {excursions : List (List Excursion)}

theorem body (carries : program.Carries profile excursions) :
    commands program.body =
      profile.opening ++ orders profile excursions.flatten ++ profile.closing := by
  rw [Program.body, commands_append, commands_append, carries.header, carries.footer,
    commands_blank, profile.commands_footer, commands_flatten, List.flatMap_def, carries.blocks,
    orders_flatten]

theorem upto {before after : List Block} {block : Block}
    (carries : program.Carries profile excursions)
    (here : program.blocks = before ++ block :: after) :
    ∃ made, commands (program.header ++ before.flatten ++ block) =
      profile.opening ++ orders profile made := by
  have blocks := carries.blocks
  rw [here, List.map_append] at blocks
  -- The excursions are split where the blocks are.
  obtain ⟨front, rest, rfl, first, second⟩ := List.append_eq_map_iff.mp blocks
  obtain ⟨cuts, back, rfl, same, -⟩ := List.map_eq_cons_iff.mp second
  refine ⟨front.flatten ++ cuts, ?_⟩
  rw [commands_append, commands_append, carries.header, commands_flatten, List.flatMap_def, ← first,
    ← same, ← orders_flatten, List.append_assoc]
  exact congrArg _ List.flatMap_append.symm

end Program.Carries

end Millwork
