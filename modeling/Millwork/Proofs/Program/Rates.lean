import Millwork.Proofs.Controller.Position
import Millwork.Proofs.Controller.View
import Millwork.Proofs.Program.Feeds

namespace Millwork

/-! ## Written feeds -/

namespace Instruction

def operands (instruction : Instruction) (letter : Char) : List String :=
  (instruction.words.filter (·.1 == letter)).map Prod.snd

/-- A linear move has one feed, which depends on whether it names a height; a rapid move has
none. -/
structure Fed (profile : Profile) (tool : Tool) (instruction : Instruction) : Prop where
  linear : instruction.isLinear = true → instruction.operands 'F' =
    [if (instruction.operand? 'Z').isSome then (profile.plungeRateFor tool).val.operand
      else (profile.feedRateFor tool).val.operand]
  rapid : instruction.isRapid = true → instruction.operands 'F' = []

end Instruction

theorem Target.filter_operands (target : Target) :
    target.operands.filter (·.1 == 'F') = [] := by
  obtain ⟨x, y, z⟩ := target
  cases x <;> cases y <;> cases z <;> rfl

namespace Command

variable (dialect : Dialect) (profile : Profile) (tool : Tool)

theorem fed_rapid (target : Target) :
    ((rapid target).instruction dialect.spelling).Fed profile tool where
  linear moves := by
    obtain ⟨_, _, other⟩ := (isLinear_instruction dialect _).mp moves
    cases other
  rapid _ := congrArg (List.map Prod.snd) target.filter_operands

theorem Follows.fed {command : Command} (follows : command.Follows (profile.tooling tool)) :
    (command.instruction dialect.spelling).Fed profile tool where
  linear moves := by
    obtain ⟨target, rate, rfl⟩ := (isLinear_instruction dialect _).mp moves
    -- The rate goes by the height of the target, and so does the word that is written for it.
    cases follows
    have height := (operands_linear dialect target
      (some (if target.z.isSome then (profile.tooling tool).plunge
        else (profile.tooling tool).feed))).2.2
    rw [height, Option.isSome_map, Instruction.operands, instruction, List.filter_append,
      target.filter_operands]
    cases target.z <;> rfl
  rapid moves := by
    obtain ⟨target, rfl⟩ := (isRapid_instruction dialect _).mp moves
    exact follows.elim

end Command

theorem Excursion.fed_orders {profile : Profile} {tool : Tool} {excursion : Excursion}
    (dialect : Dialect) (follows : excursion.Follows (profile.tooling tool)) (safe : Double) :
    ∀ command ∈ excursion.orders safe,
      (command.instruction dialect.spelling).Fed profile tool := by
  have rapids := Command.fed_rapid dialect profile tool
  simp only [orders, List.cons_append, List.forall_mem_cons, List.forall_mem_append]
  exact ⟨rapids _, rapids _, fun command mem => (follows command mem).fed dialect profile tool,
    rapids _, List.forall_mem_nil _⟩

theorem Operation.fed_lines {operation : Operation} {tool : Tool} {profile : Profile}
    {lines : List Line} (dialect : Dialect)
    (cut : (operation.lines tool profile).outcome = .ok lines) :
    ∀ instruction ∈ dialect.spelling.comments.read (lines.map (Line.render dialect.spelling)),
      instruction.Fed profile tool := by
  have told := operation.commands_lines tool profile
  rw [cut] at told
  obtain ⟨excursions, planned, same⟩ := Attempt.map_eq_ok.mp told.symm
  rw [dialect.read_render, List.forall_mem_map, ← same]
  intro command mem
  obtain ⟨excursion, member, here⟩ := List.mem_flatMap.mp mem
  exact Excursion.fed_orders dialect (follows_excursions planned excursion member) _ command here

/-! ## Tools that are fed alike -/

namespace Tool

/-- Programs name and describe the two tools alike. Kinds, speeds and rates may differ. -/
structure NamedLike (first second : Tool) : Prop where
  id : first.id = second.id
  name : first.name = second.name
  diameter : first.diameter = second.diameter
  maxDepth : first.maxDepth = second.maxDepth

/-- The two tools differ in the plunge rate of a drill bit, and in their speeds, if at all. -/
structure RatedLike (first second : Tool) : Prop extends first.NamedLike second where
  kind : first.kind = second.kind
  feedRate : first.feedRate = second.feedRate
  plungeRate : first.kind = .millingBit → first.plungeRate = second.plungeRate

end Tool

structure Profile.FeedsLike (profile : Profile) (first second : Tool) : Prop
    extends first.NamedLike second where
  feed : profile.feedRateFor first = profile.feedRateFor second
  plunge : profile.plungeRateFor first = profile.plungeRateFor second

namespace Profile

variable {profile : Profile} {first second : Tool}

theorem feedsLike_of_named (legacy : profile.toolRates.isOn = false)
    (named : first.NamedLike second) : profile.FeedsLike first second where
  toNamedLike := named
  feed := by simp [feedRateFor, legacy]
  plunge := by simp [plungeRateFor, legacy]

theorem feedsLike_of_rated (rated : first.RatedLike second) : profile.FeedsLike first second where
  toNamedLike := rated.toNamedLike
  feed := by rw [feedRateFor, feedRateFor, rated.feedRate]
  plunge := by
    rw [plungeRateFor, plungeRateFor, ← rated.kind]
    by_cases mills : first.kind = .millingBit
    · rw [rated.plungeRate mills]
    · simp [mills]

end Profile

section FeedsLike

variable {profile : Profile} {first second : Tool}

theorem depthWarning?_congr (named : first.NamedLike second) (number : Number)
    (operation : Operation) :
    depthWarning? number operation first = depthWarning? number operation second := by
  rw [depthWarning?, depthWarning?, named.maxDepth, named.id]

theorem Profile.FeedsLike.tooling (alike : profile.FeedsLike first second) :
    profile.tooling first = profile.tooling second := by
  rw [Profile.tooling, Profile.tooling, alike.plunge, alike.feed, alike.diameter]

theorem block_congr {catalog catalog' : Catalog}
    (alike : List.Forall₂ profile.FeedsLike catalog.tools catalog'.tools) (number : Number)
    (operation : Operation) :
    block profile catalog number operation = block profile catalog' number operation := by
  have found : Option.Rel profile.FeedsLike (catalog.find? operation.toolId)
      (catalog'.find? operation.toolId) :=
    findTool?_rel (fun tools => tools.id) alike operation.toolId
  rw [block, block]
  generalize catalog.find? operation.toolId = first at found ⊢
  generalize catalog'.find? operation.toolId = second at found ⊢
  cases found with
  | none => rfl
  | some tools =>
      simp only [depthWarning?_congr tools.toNamedLike,
        operation.lines_congr tools.name tools.tooling]

theorem assemble_refed {catalog catalog' : Catalog}
    (alike : List.Forall₂ profile.FeedsLike catalog.tools catalog'.tools) (panel : Panel)
    (operations : List Operation) (stamp : Timestamp) :
    assemble profile panel operations catalog stamp =
      assemble profile panel operations catalog' stamp :=
  assemble_congr fun operation _ number => block_congr alike number operation

end FeedsLike

/-- The feeds of an operation are those of its tool. Where tools are not fed at their own rates,
their kinds and rates do not matter, and where they are, the plunge rate of a drill bit does not. -/
theorem Profile.feeds_disciplined (profile : Profile) :
    (∀ (operation : Operation) (tool : Tool) (lines : List Line),
      (operation.lines tool profile).outcome = .ok lines →
        ∀ instruction ∈ profile.dialect.spelling.comments.read
            (lines.map (Line.render profile.dialect.spelling)),
          instruction.Fed profile tool) ∧
      ∀ catalog catalog' : Catalog,
        (profile.toolRates.isOn = false ∧
            List.Forall₂ Tool.NamedLike catalog.tools catalog'.tools ∨
          profile.toolRates.isOn = true ∧
            List.Forall₂ Tool.RatedLike catalog.tools catalog'.tools) →
        ∀ (panel : Panel) (operations : List Operation) (stamp : Timestamp),
          assemble profile panel operations catalog stamp =
            assemble profile panel operations catalog' stamp := by
  refine ⟨fun operation tool lines cut => Operation.fed_lines profile.dialect cut, ?_⟩
  rintro catalog catalog' (⟨legacy, named⟩ | ⟨-, rated⟩)
  · exact assemble_refed (named.imp fun _ _ => feedsLike_of_named legacy)
  · exact assemble_refed (rated.imp fun _ _ => feedsLike_of_rated)

namespace Sample

def legacyProfile : Profile := { Profile.standard with toolRates := false }

def blunt (tool : Tool) : Tool :=
  { tool with kind := .drillBit, feedRate := .whole 1, plungeRate := some (.whole 1) }

def hasty (tool : Tool) : Tool :=
  { tool with plungeRate := if tool.kind = .drillBit then some (.whole 1) else tool.plungeRate }

def blunted : Catalog := ⟨Catalog.standard.tools.map blunt, by decide +kernel⟩

def hastened : Catalog := ⟨Catalog.standard.tools.map hasty, by decide +kernel⟩

end Sample

theorem Profile.feeds_disciplined_of_sample :
    (∃ tool lines, tool ∈ Catalog.standard.tools ∧
      ((Operation.contour (Sample.outline none)).lines tool .standard).outcome = .ok lines ∧
      ∀ instruction ∈ CommentStyle.semicolon.read
          (lines.map (Line.render Dialect.generic.spelling)),
        instruction.Fed .standard tool) ∧
      assemble Sample.legacyProfile (Sample.panel "Shelf") (Sample.operations none) .standard
          Sample.stamp =
        assemble Sample.legacyProfile (Sample.panel "Shelf") (Sample.operations none)
          Sample.blunted Sample.stamp ∧
      assemble .standard (Sample.panel "Shelf") (Sample.operations none) .standard Sample.stamp =
        assemble .standard (Sample.panel "Shelf") (Sample.operations none) Sample.hastened
          Sample.stamp := by
  let tool := Catalog.standard.tools.get ⟨2, by decide⟩
  obtain ⟨lines, cut⟩ := Attempt.exists_ok
    (x := ((Operation.contour (Sample.outline none)).lines tool .standard).outcome)
    (by decide +kernel)
  have named : List.Forall₂ Tool.NamedLike Catalog.standard.tools Sample.blunted.tools :=
    List.forall₂_map_right_iff.mpr (List.forall₂_same.mpr fun tool _ => ⟨rfl, rfl, rfl, rfl⟩)
  have rated : List.Forall₂ Tool.RatedLike Catalog.standard.tools Sample.hastened.tools := by
    refine List.forall₂_map_right_iff.mpr (List.forall₂_same.mpr fun tool _ => ?_)
    exact ⟨⟨rfl, rfl, rfl, rfl⟩, rfl, rfl, fun mills => by simp [Sample.hasty, mills]⟩
  refine ⟨⟨tool, lines, List.get_mem _ _, cut, ?_⟩, ?_, ?_⟩
  · exact (feeds_disciplined .standard).1 _ tool lines cut
  · exact (feeds_disciplined Sample.legacyProfile).2 _ _ (.inl ⟨rfl, named⟩) _ _ _
  · exact (feeds_disciplined .standard).2 _ _ (.inr ⟨rfl, rated⟩) _ _ _

end Millwork
