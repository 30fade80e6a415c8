import Millwork.Proofs.Controller.Offset
import Millwork.Proofs.Controller.Position
import Millwork.Proofs.Program.MotionSafety
import Millwork.Proofs.Program.Schedule

namespace Millwork

/-! ## What is to be compensated -/

/-- The contour and its tool, if the tool is to run beside the path. -/
def Catalog.besidePath? (catalog : Catalog) (profile : Profile) :
    Operation → Option (Contour × Tool)
  | .contour contour =>
    if profile.toolCompensation.isOn &&
        (contour.compensation == .left || contour.compensation == .right) then
      (catalog.find? contour.toolId).map fun tool => (contour, tool)
    else none
  | _ => none

namespace Contour

def passCount? (contour : Contour) : Except ArithmeticFault Nat :=
  passCount contour.depth.val (contour.passDepth.map (·.val)) contour.multiPass.isOn

/-- The offset starts on the side of the contour by the diameter of the tool, right behind a cut to
the height of the pass. -/
structure StartedAt (contour : Contour) (tool : Tool) (pass : Pass Number) (start : OffsetStart) :
    Prop where
  previous : ∃ cut ∈ start.previous, cut.isLinear = true ∧
    cut.operand? 'Z' = some pass.height.operand
  words : start.instruction.words = [('D', tool.diameter.val.operand)]
  side : contour.compensation = .left ∧ start.instruction.code = "G41" ∨
    contour.compensation = .right ∧ start.instruction.code = "G42"

end Contour

/-- One start for every pass that is to be compensated, in order. -/
def Catalog.Compensated (catalog : Catalog) (profile : Profile) (operation : Operation)
    (starts : List OffsetStart) : Prop :=
  match catalog.besidePath? profile operation with
  | none => starts = []
  | some (contour, tool) => ∃ passes, contour.passes? contour.depth = .ok passes ∧
    List.Forall₂ (contour.StartedAt tool) passes starts

def Catalog.passCount? (catalog : Catalog) (profile : Profile) (operation : Operation) :
    Except ArithmeticFault Nat :=
  match catalog.besidePath? profile operation with
  | none => .ok 0
  | some (contour, _) => contour.passCount?

def Catalog.totalCount? (catalog : Catalog) (profile : Profile) :
    List Operation → Except ArithmeticFault Nat
  | [] => .ok 0
  | operation :: rest => do
    let count ← catalog.passCount? profile operation
    return count + (← catalog.totalCount? profile rest)

namespace Program

def offsetAfter? (program : Program) (lines : List Line) : Option Bool :=
  (program.dialect.spelling.comments.read (program.render lines)).foldlM Instruction.offset? false

def startsIn (program : Program) (lines : List Line) : List OffsetStart :=
  starts none (program.dialect.spelling.comments.read (program.render lines))

structure Compensated (program : Program) (profile : Profile) (catalog : Catalog)
    (operations : List Operation) : Prop where
  /-- Nothing is given in the wrong state, and at the end the offset is off. -/
  ended : program.offsetAfter? program.body = some false
  cleared : ∀ before block rest, program.blocks = before ++ block :: rest →
    program.offsetAfter? (program.header ++ before.flatten ++ block) = some false
  blocks : List.Forall₂ (fun operation block =>
    catalog.Compensated profile operation (program.startsIn block)) operations program.blocks
  count : catalog.totalCount? profile operations =
    .ok (program.instructions.countP Instruction.startsOffset)

end Program

/-! ## Passes -/

theorem Line.commands_entering (entry : Option Entry) (start : Spot) (z rate : Double) :
    ∃ front target feed, commands (entering entry start z rate) =
        front ++ [.linear target feed] ∧
      (∀ command ∈ front, command.isLinear = true) ∧ target.z = some z := by
  rw [entering]
  split
  · exact ⟨[.linear (.height surface) (some rate)], _, _, rfl, by simp [Command.isLinear], rfl⟩
  · exact ⟨[], _, _, rfl, List.forall_mem_nil _, rfl⟩

namespace Contour

variable (contour : Contour) (tool : Tool) (profile : Profile) (pass : Pass Number)

def pathLines : List Line :=
  let start := contour.path.start.spot
  let feed := PositiveNumber.toDouble (profile.feedRateFor tool)
  let plunge := PositiveNumber.toDouble (profile.plungeRateFor tool)
  let entry := if pass.isFirst then contour.entry else none
  (if isRampEntry entry then [Line.rampReturn start feed] else []) ++
    contour.path.traverse feed contour.closed.isOn ++
    (if pass.isLast then Line.leaving contour.exit start plunge else [])

theorem isLinear_pathLines : ∀ line ∈ contour.pathLines tool profile pass,
    line.isLinear = true := by
  intro line mem
  simp only [pathLines, List.mem_append, List.mem_ite_nil_right, List.mem_singleton] at mem
  rcases mem with (⟨-, rfl⟩ | path) | ⟨-, leaving⟩
  · rfl
  · exact contour.path.isLinear_traverse _ _ line path
  · exact Line.isLinear_leaving _ _ _ line leaving

theorem cutLines_besidePath (beside : profile.compensates contour.compensation = true) :
    contour.cutLines tool profile pass =
      Line.entering (if pass.isFirst then contour.entry else none) contour.path.start.spot
          pass.height.toDouble (PositiveNumber.toDouble (profile.plungeRateFor tool)) ++
        Line.startCompensation contour.compensation tool ::
        contour.pathLines tool profile pass ++ [Line.endCompensation] := by
  simp [cutLines, pathLines, beside]

theorem cutLines_onPath (onPath : profile.compensates contour.compensation = false) :
    contour.cutLines tool profile pass =
      Line.entering (if pass.isFirst then contour.entry else none) contour.path.start.spot
          pass.height.toDouble (PositiveNumber.toDouble (profile.plungeRateFor tool)) ++
        contour.pathLines tool profile pass := by
  simp [cutLines, pathLines, onPath]

end Contour

theorem Command.operand?_linear (dialect : Dialect) {target : Target} (feed : Option Double)
    {z : Double} (height : target.z = some z) :
    ((linear target feed).instruction dialect.spelling).operand? 'Z' = some z.operand := by
  rw [(operands_linear dialect target feed).2.2, height]
  rfl

theorem Profile.side_of_compensates {profile : Profile} {side : Compensation}
    (beside : profile.compensates side = true) : side = .left ∨ side = .right := by
  cases side with
  | none => simp [compensates] at beside
  | left => exact .inl rfl
  | right => exact .inr rfl

namespace Contour

variable {contour : Contour} {tool : Tool} {profile : Profile}

theorem cuts_besidePath (beside : profile.compensates contour.compensation = true)
    (pass : Pass Number) :
    ∃ front target feed back, (contour.excursion tool profile pass).cuts = front ++
        [.linear target feed,
          .compensate contour.compensation (PositiveNumber.toDouble tool.diameter)] ++
        back ++ [.cancelCompensation] ∧
      (∀ command ∈ front ++ back, command.isLinear = true) ∧
      target.z = some pass.height.toDouble := by
  obtain ⟨front, target, feed, entering, before, height⟩ := Line.commands_entering
    (if pass.isFirst then contour.entry else none) contour.path.start.spot pass.height.toDouble
    (PositiveNumber.toDouble (profile.plungeRateFor tool))
  refine ⟨front, target, feed, commands (contour.pathLines tool profile pass), ?_, ?_, height⟩
  · change commands (contour.cutLines tool profile pass) = _
    rw [contour.cutLines_besidePath tool profile pass beside, List.append_assoc, commands_append,
      entering]
    simp [Line.startCompensation, Line.endCompensation]
  · rw [List.forall_mem_append]
    exact ⟨before, isLinear_of_mem_commands (contour.isLinear_pathLines tool profile pass)⟩

theorem startedAt (beside : profile.compensates contour.compensation = true) (pass : Pass Number)
    {target : Target} (feed : Option Double) (height : target.z = some pass.height.toDouble) :
    contour.StartedAt tool pass
      ⟨some ((Command.linear target feed).instruction profile.dialect.spelling),
        (Command.compensate contour.compensation
          (PositiveNumber.toDouble tool.diameter)).instruction profile.dialect.spelling⟩ := by
  have linear := (Command.isLinear_instruction profile.dialect (.linear target feed)).mpr
    ⟨target, feed, rfl⟩
  have side := Profile.side_of_compensates beside
  constructor
  · exact ⟨_, rfl, linear, Command.operand?_linear profile.dialect feed height⟩
  · rcases side with left | right
    · rw [left]
      rfl
    · rw [right]
      rfl
  · rcases side with left | right
    · refine .inl ⟨left, ?_⟩
      rw [left]
      rfl
    · refine .inr ⟨right, ?_⟩
      rw [right]
      rfl

theorem spans_besidePath (beside : profile.compensates contour.compensation = true)
    (pass : Pass Number) :
    ∃ start, Spans false (profile.read (contour.excursion tool profile pass).cuts) [start] false ∧
      contour.StartedAt tool pass start := by
  obtain ⟨front, target, feed, back, cuts, moves, height⟩ := cuts_besidePath beside pass
  rw [List.forall_mem_append] at moves
  have entry := Command.spans_linear profile.dialect false moves.1
  have start := Command.spans_compensate profile.dialect target feed contour.compensation
    (PositiveNumber.toDouble tool.diameter)
  have path := Command.spans_linear profile.dialect true moves.2
  have all := ((entry.append start).append path).append (Command.spans_cancel profile.dialect)
  refine ⟨_, ?_, startedAt beside pass feed height⟩
  rw [cuts, Profile.read, List.map_append, List.map_append, List.map_append]
  exact all

theorem isLinear_excursion (onPath : profile.compensates contour.compensation = false)
    (pass : Pass Number) :
    ∀ command ∈ (contour.excursion tool profile pass).cuts, command.isLinear = true := by
  apply isLinear_of_mem_commands
  rw [contour.cutLines_onPath tool profile pass onPath, List.forall_mem_append]
  exact ⟨Line.isLinear_entering _ _ _ _, contour.isLinear_pathLines tool profile pass⟩

end Contour

/-! ## Operations -/

theorem Profile.compensates_eq (profile : Profile) (side : Compensation) :
    profile.compensates side =
      (profile.toolCompensation.isOn && (side == .left || side == .right)) := by
  cases side <;> rfl

section Operations

variable {catalog : Catalog} {profile : Profile} {operation : Operation} {tool : Tool}

theorem spans_onPath {excursions : List Excursion}
    (onPath : ∀ excursion ∈ excursions, ∀ command ∈ excursion.cuts, command.isLinear = true) :
    Spans false (profile.read (orders profile excursions)) [] false := by
  have each : ∀ excursion ∈ excursions, Spans false (profile.read
      (excursion.orders (PositiveNumber.toDouble profile.safeHeight))) [] false := by
    intro excursion mem
    exact Excursion.spans _ (Command.spans_linear profile.dialect false (onPath excursion mem))
  have silent : excursions.flatMap (fun _ => ([] : List OffsetStart)) = [] :=
    List.flatMap_eq_nil_iff.mpr fun _ _ => rfl
  have all := Spans.flatMap each
  rw [silent] at all
  simpa [Profile.read, orders, List.map_flatMap] using all

namespace Catalog

theorem besidePath?_of_missing (missing : catalog.find? operation.toolId = none) :
    catalog.besidePath? profile operation = none := by
  cases operation with
  | contour task =>
      change catalog.find? task.toolId = none at missing
      simp [besidePath?, missing]
  | _ => rfl

theorem besidePath?_contour {contour : Contour}
    (found : catalog.find? contour.toolId = some tool) :
    catalog.besidePath? profile (.contour contour) =
      if profile.compensates contour.compensation then some (contour, tool) else none := by
  rw [besidePath?, found, Profile.compensates_eq]
  rfl

theorem compensated_nil (missing : catalog.besidePath? profile operation = none) :
    catalog.Compensated profile operation [] := by
  rw [Compensated, missing]

theorem spans_contour {contour : Contour} (found : catalog.find? contour.toolId = some tool)
    {passes : List (Pass Number)} (scheduled : contour.passes? contour.depth = .ok passes) :
    ∃ given, Spans false (profile.read
        (orders profile (passes.map (contour.excursion tool profile)))) given false ∧
      catalog.Compensated profile (.contour contour) given := by
  have path : catalog.besidePath? profile (.contour contour) =
      if profile.compensates contour.compensation then some (contour, tool) else none :=
    besidePath?_contour found
  cases beside : profile.compensates contour.compensation with
  | false =>
      rw [beside] at path
      refine ⟨[], spans_onPath ?_, compensated_nil path⟩
      intro excursion mem
      obtain ⟨pass, -, rfl⟩ := List.mem_map.mp mem
      exact Contour.isLinear_excursion beside pass
  | true =>
      rw [beside] at path
      have each : ∀ pass ∈ passes, ∃ start, Spans false (profile.read
          ((contour.excursion tool profile pass).orders
            (PositiveNumber.toDouble profile.safeHeight))) [start] false ∧
          contour.StartedAt tool pass start := by
        intro pass _
        obtain ⟨start, spans, started⟩ := Contour.spans_besidePath beside pass
        exact ⟨start, Excursion.spans _ spans, started⟩
      obtain ⟨given, spans, all⟩ := Spans.forall₂ each
      refine ⟨given, ?_, ?_⟩
      · simpa [Profile.read, orders, List.map_flatMap, List.flatMap_map] using spans
      · rw [Compensated, path]
        exact ⟨passes, scheduled, all⟩

theorem spans_orders {excursions : List Excursion}
    (planned : catalog.excursions? profile operation = .ok excursions) :
    ∃ given, Spans false (profile.read (orders profile excursions)) given false ∧
      catalog.Compensated profile operation given := by
  rw [excursions?] at planned
  cases found : catalog.find? operation.toolId with
  | none =>
      rw [found] at planned
      cases planned
      exact ⟨[], .nil, compensated_nil (besidePath?_of_missing found)⟩
  | some tool =>
      rw [found] at planned
      -- A pocket is followed as a contour is that is not compensated.
      have pocket {path : Path} {closed : Bool} {passes : List (Pass Number)} :
          Spans false (profile.read (orders profile
            (passes.map (pocketExcursion path closed tool profile)))) [] false := by
        apply spans_onPath
        intro excursion mem
        obtain ⟨pass, -, rfl⟩ := List.mem_map.mp mem
        exact isLinear_of_mem_commands (isLinear_pocketLines path closed tool profile pass)
      cases operation with
      | drill task =>
          cases planned
          refine ⟨[], spans_onPath ?_, compensated_nil rfl⟩
          simp [Drill.excursion, Command.isLinear]
      | contour task =>
          obtain ⟨passes, scheduled, rfl⟩ := Stepping.excursions?_ok planned
          exact spans_contour found scheduled
      | closedPocket task =>
          obtain ⟨passes, -, rfl⟩ := Stepping.excursions?_ok planned
          exact ⟨[], pocket, compensated_nil rfl⟩
      | openPocket task =>
          obtain ⟨passes, -, rfl⟩ := Stepping.excursions?_ok planned
          exact ⟨[], pocket, compensated_nil rfl⟩
      | ofNoKind toolId depth comment => cases planned

theorem Compensated.count {given : List OffsetStart}
    (compensated : catalog.Compensated profile operation given) :
    catalog.passCount? profile operation = .ok given.length := by
  rw [Compensated] at compensated
  rw [passCount?]
  cases path : catalog.besidePath? profile operation with
  | none =>
      rw [path] at compensated
      rw [compensated]
      rfl
  | some beside =>
      obtain ⟨contour, tool⟩ := beside
      rw [path] at compensated
      obtain ⟨passes, scheduled, all⟩ := compensated
      rw [← all.length_eq]
      exact Stepping.passCount_of_passes scheduled

theorem totalCount?_eq {operations : List Operation} {blocks : List Block}
    {given : Block → List OffsetStart}
    (all : List.Forall₂ (fun operation block => catalog.Compensated profile operation (given block))
      operations blocks) :
    catalog.totalCount? profile operations = .ok (blocks.flatMap given).length := by
  induction all with
  | nil => rfl
  | cons here _ ih =>
      rw [totalCount?, here.count, ih, List.flatMap_cons, List.length_append]
      rfl

end Catalog

end Operations

/-! ## Programs -/

def Profile.startsIn (profile : Profile) (lines : List Line) : List OffsetStart :=
  starts none (profile.read (commands lines))

def Profile.Brackets (profile : Profile) (lines : List Line) : Prop :=
  Spans false (profile.read (commands lines)) (profile.startsIn lines) false

section Brackets

variable {profile : Profile}

theorem Spans.brackets {lines : List Line} {given : List OffsetStart}
    (spans : Spans false (profile.read (commands lines)) given false) :
    profile.Brackets lines ∧ profile.startsIn lines = given := by
  have same : profile.startsIn lines = given := spans.starts none
  rw [Profile.Brackets, same]
  exact ⟨spans, rfl⟩

namespace Profile.Brackets

theorem append {front back : List Line} (first : profile.Brackets front)
    (second : profile.Brackets back) :
    profile.Brackets (front ++ back) ∧
      profile.startsIn (front ++ back) = profile.startsIn front ++ profile.startsIn back := by
  have both := Spans.append first second
  rw [← read_append, ← commands_append] at both
  exact both.brackets

theorem flatten {blocks : List Block} (each : ∀ block ∈ blocks, profile.Brackets block) :
    profile.Brackets blocks.flatten ∧
      profile.startsIn blocks.flatten = blocks.flatMap profile.startsIn := by
  have all := Spans.flatMap each
  have same : blocks.flatMap (fun block => profile.read (commands block)) =
      profile.read (commands blocks.flatten) := by
    rw [commands_flatten, read, List.map_flatMap]
    rfl
  rw [same] at all
  exact all.brackets

theorem of_apart {lines : List Line}
    (apart : ∀ command ∈ commands lines, command.setsOffset = false) :
    profile.Brackets lines ∧ profile.startsIn lines = [] := by
  apply Spans.brackets
  apply Command.spans_map
  intro command mem
  exact Command.spans profile.dialect (apart command mem) nofun

end Profile.Brackets

end Brackets

namespace Program.Carries

variable {program : Program} {profile : Profile} {excursions : List (List Excursion)}

theorem header_brackets (carries : program.Carries profile excursions) :
    profile.Brackets program.header ∧ profile.startsIn program.header = [] := by
  apply Profile.Brackets.of_apart
  rw [carries.header]
  simp [Profile.opening, Command.setsOffset]

theorem footer_brackets (carries : program.Carries profile excursions) :
    profile.Brackets program.footer ∧ profile.startsIn program.footer = [] := by
  apply Profile.Brackets.of_apart
  rw [carries.footer, commands_blank, profile.commands_footer]
  simp [Profile.closing, Command.setsOffset]

theorem startsIn_eq (carries : program.Carries profile excursions) (lines : List Line) :
    program.startsIn lines = profile.startsIn lines := by
  rw [Program.startsIn, carries.read_render]
  rfl

theorem offsetAfter?_eq (carries : program.Carries profile excursions) {lines : List Line}
    (brackets : profile.Brackets lines) : program.offsetAfter? lines = some false := by
  rw [Program.offsetAfter?, carries.read_render]
  exact brackets.scan

theorem body_brackets (carries : program.Carries profile excursions)
    (each : ∀ block ∈ program.blocks, profile.Brackets block) :
    profile.Brackets program.body ∧
      profile.startsIn program.body = program.blocks.flatMap profile.startsIn := by
  obtain ⟨header, quiet⟩ := carries.header_brackets
  obtain ⟨footer, quiet'⟩ := carries.footer_brackets
  obtain ⟨blocks, starts⟩ := Profile.Brackets.flatten each
  obtain ⟨front, starts'⟩ := header.append blocks
  obtain ⟨body, starts''⟩ := front.append footer
  rw [starts', quiet, starts, quiet', List.nil_append, List.append_nil] at starts''
  exact ⟨body, starts''⟩

theorem upto_brackets (carries : program.Carries profile excursions)
    (each : ∀ block ∈ program.blocks, profile.Brackets block) {before after : List Block}
    {block : Block} (here : program.blocks = before ++ block :: after) :
    profile.Brackets (program.header ++ before.flatten ++ block) := by
  rw [here, List.forall_mem_append, List.forall_mem_cons] at each
  have front := (Profile.Brackets.flatten each.1).1
  exact ((carries.header_brackets.1.append front).1.append each.2.1).1

theorem countP_eq (carries : program.Carries profile excursions)
    (each : ∀ block ∈ program.blocks, profile.Brackets block) :
    program.instructions.countP Instruction.startsOffset =
      (program.blocks.flatMap profile.startsIn).length := by
  obtain ⟨body, starts⟩ := carries.body_brackets each
  have read : program.instructions = profile.read (commands program.body) :=
    carries.read_render program.body
  rw [read, Spans.countP body, starts]

theorem compensated (carries : program.Carries profile excursions) {catalog : Catalog}
    {operations : List Operation}
    (each : List.Forall₂ (fun operation block => profile.Brackets block ∧
      catalog.Compensated profile operation (profile.startsIn block)) operations program.blocks) :
    program.Compensated profile catalog operations := by
  have flipped : List.Forall₂ (fun block operation => profile.Brackets block ∧
      catalog.Compensated profile operation (profile.startsIn block)) program.blocks operations :=
    each.flip
  have brackets := ((List.forall₂_and_left _ _).mp flipped).1
  constructor
  · exact carries.offsetAfter?_eq (carries.body_brackets brackets).1
  · intro before block rest split
    exact carries.offsetAfter?_eq (carries.upto_brackets brackets split)
  · apply each.imp
    intro operation block held
    rw [carries.startsIn_eq]
    exact held.2
  · rw [carries.countP_eq brackets]
    exact Catalog.totalCount?_eq (each.imp fun _ _ held => held.2)

end Program.Carries

section Programs

variable {profile : Profile} {panel : Panel} {operations : List Operation} {catalog : Catalog}
  {stamp : Timestamp} {program : Program}

theorem block_brackets {number : Number} {operation : Operation}
    {result : Block × Option Warning}
    (made : (block profile catalog number operation).outcome = .ok result) :
    profile.Brackets result.1 ∧
      catalog.Compensated profile operation (profile.startsIn result.1) := by
  obtain ⟨excursions, planned, told⟩ := block_orders made
  obtain ⟨given, spans, compensated⟩ := Catalog.spans_orders planned
  rw [← told] at spans
  obtain ⟨brackets, same⟩ := spans.brackets
  rw [same]
  exact ⟨brackets, compensated⟩

theorem assemble_compensated
    (made : (assemble profile panel operations catalog stamp).outcome = .ok program) :
    program.Compensated profile catalog operations := by
  obtain ⟨_, -, carries⟩ := assemble_carries made
  obtain ⟨blocks, rfl, all⟩ := assemble_ok made
  apply carries.compensated
  have each := forall₂_blocks (fun _ _ _ => block_brackets) all
  exact List.forall₂_map_right_iff.mpr each

theorem assemble_compensated_of_sample :
    ∃ program, (assemble { Profile.standard with toolCompensation := true } (Sample.panel "G41")
        (Sample.operations (some "G42")) .standard Sample.stamp).outcome = .ok program ∧
      program.Compensated { Profile.standard with toolCompensation := true } .standard
        (Sample.operations (some "G42")) := by
  obtain ⟨program, made⟩ := Attempt.exists_ok (x := (assemble
    { Profile.standard with toolCompensation := true } (Sample.panel "G41")
    (Sample.operations (some "G42")) .standard Sample.stamp).outcome) (by decide +kernel)
  exact ⟨program, made, assemble_compensated made⟩

end Programs

end Millwork
