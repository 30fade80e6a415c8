import Millwork.Proofs.Number.Exact
import Millwork.Proofs.Program.Excursions

namespace Millwork

structure Tooling where
  plunge : Double
  feed : Double
  diameter : Double

def Profile.tooling (profile : Profile) (tool : Tool) : Tooling where
  plunge := PositiveNumber.toDouble (profile.plungeRateFor tool)
  feed := PositiveNumber.toDouble (profile.feedRateFor tool)
  diameter := PositiveNumber.toDouble tool.diameter

section Alike

variable {profile : Profile} {first second : Tool}

/-- The two tools agree in kind, and in the values of their diameters and rates. -/
structure Tool.CutsLike (first second : Tool) : Prop where
  kind : first.kind = second.kind
  diameter : first.diameter.SameValue second.diameter
  feedRate : first.feedRate.SameValue second.feedRate
  plungeRate : Option.Rel PositiveNumber.SameValue first.plungeRate second.plungeRate

namespace Profile

theorem sameValue_feedRateFor (alike : first.CutsLike second) :
    (profile.feedRateFor first).SameValue (profile.feedRateFor second) := by
  rw [feedRateFor, feedRateFor]
  split
  · exact alike.feedRate
  · rfl

theorem sameValue_plungeRateFor (alike : first.CutsLike second) :
    (profile.plungeRateFor first).SameValue (profile.plungeRateFor second) := by
  rw [plungeRateFor, plungeRateFor, alike.kind]
  split
  · have rates := alike.plungeRate
    generalize first.plungeRate = rate at rates ⊢
    generalize second.plungeRate = rate' at rates ⊢
    cases rates with
    | none => rfl
    | some own => exact own
  · rfl

theorem tooling_of_cutsLike (alike : first.CutsLike second) :
    profile.tooling first = profile.tooling second := by
  rw [tooling, tooling, PositiveNumber.toDouble_congr (sameValue_plungeRateFor alike),
    PositiveNumber.toDouble_congr (sameValue_feedRateFor alike),
    PositiveNumber.toDouble_congr alike.diameter]

end Profile

theorem description_congr (named : first.name = second.name)
    (measured : first.diameter.val.operand = second.diameter.val.operand) (summary : String)
    (comment : Option String) :
    description summary first comment = description summary second comment := by
  rw [description, description, named, measured]

theorem Contour.pass_congr (run : profile.tooling first = profile.tooling second)
    (contour : Contour) : contour.pass first profile = contour.pass second profile := by
  obtain ⟨plunge, feed, diameter⟩ := Tooling.mk.inj run
  funext pass
  simp only [Contour.pass, feed, plunge, Line.startCompensation, diameter]

theorem pocketPass_congr (run : profile.tooling first = profile.tooling second) (path : Path)
    (closed : Bool) :
    pocketPass path closed first profile = pocketPass path closed second profile := by
  obtain ⟨plunge, feed, -⟩ := Tooling.mk.inj run
  funext pass
  rw [pocketPass, pocketPass, feed, plunge]

theorem Operation.lines_congr (named : first.name = second.name)
    (run : profile.tooling first = profile.tooling second) (operation : Operation) :
    operation.lines first profile = operation.lines second profile := by
  obtain ⟨plunge, -, diameter⟩ := Tooling.mk.inj run
  have described := description_congr named (congrArg Double.operand diameter)
  cases operation with
  | drill task => rw [lines, lines, Drill.lines, Drill.lines, described, plunge]
  | contour task =>
      rw [lines, lines, Contour.lines, Contour.lines, described, task.pass_congr run]
  | closedPocket task =>
      rw [lines, lines, ClosedPocket.lines, ClosedPocket.lines, described, pocketPass_congr run]
  | openPocket task =>
      rw [lines, lines, OpenPocket.lines, OpenPocket.lines, described, pocketPass_congr run]
  | ofNoKind toolId depth comment => rfl

end Alike

def Command.Follows (tooling : Tooling) : Command → Prop
  | linear target rate =>
    rate = some (if target.z.isSome then tooling.plunge else tooling.feed)
  | compensate _ diameter => diameter = tooling.diameter
  | cancelCompensation => True
  | _ => False

def Line.Follows (tooling : Tooling) (line : Line) : Prop :=
  ∀ command ∈ line.command?, command.Follows tooling

section Lines

variable (tooling : Tooling)

theorem Line.follows_linear {target : Target} {rate : Double} {note : String}
    (same : rate = if target.z.isSome then tooling.plunge else tooling.feed) :
    (linear target rate note).Follows tooling := by
  rintro command ⟨⟩
  exact congrArg some same

theorem Path.follows_traverse (path : Path) (closed : Bool) :
    ∀ line ∈ path.traverse tooling.feed closed, line.Follows tooling := by
  intro line mem
  rw [traverse, List.mem_append, List.mem_map] at mem
  rcases mem with ⟨entry, -, rfl⟩ | mem
  · exact Line.follows_linear tooling rfl
  · cases closed with
    | false => cases mem
    | true =>
        cases List.mem_singleton.mp mem
        exact Line.follows_linear tooling rfl

theorem Line.follows_entering (entry : Option Entry) (start : Spot) (z : Double) :
    ∀ line ∈ entering entry start z tooling.plunge, line.Follows tooling := by
  rw [entering]
  split
  · simp only [List.forall_mem_cons]
    exact ⟨follows_linear tooling rfl, follows_linear tooling rfl, List.forall_mem_nil _⟩
  · rw [List.forall_mem_singleton]
    exact follows_linear tooling rfl

theorem Line.follows_leaving (exit : Option Exit) (start : Spot) :
    ∀ line ∈ leaving exit start tooling.plunge, line.Follows tooling := by
  rw [leaving]
  split
  · rw [List.forall_mem_singleton]
    exact follows_linear tooling rfl
  · exact List.forall_mem_nil _

end Lines

section Cuts

variable (tool : Tool) (profile : Profile)

theorem Contour.follows_cutLines (contour : Contour) (pass : Pass Number) :
    ∀ line ∈ contour.cutLines tool profile pass, line.Follows (profile.tooling tool) := by
  intro line mem
  simp only [cutLines, List.mem_append, List.mem_ite_nil_right, List.mem_singleton] at mem
  -- The parts of a pass, from its entry to the end of compensation.
  rcases mem with ((((entering | ⟨-, rfl⟩) | ⟨-, rfl⟩) | path) | ⟨-, leaving⟩) | ⟨-, rfl⟩
  · exact Line.follows_entering (profile.tooling tool) _ _ _ line entering
  · rintro command ⟨⟩
    rfl
  · exact Line.follows_linear (profile.tooling tool) rfl
  · exact contour.path.follows_traverse (profile.tooling tool) _ line path
  · exact Line.follows_leaving (profile.tooling tool) _ _ line leaving
  · rintro command ⟨⟩
    trivial

theorem follows_pocketLines (path : Path) (closed : Bool) (pass : Pass Number) :
    ∀ line ∈ pocketLines path closed tool profile pass, line.Follows (profile.tooling tool) := by
  rw [pocketLines, List.forall_mem_cons]
  exact ⟨Line.follows_linear (profile.tooling tool) rfl,
    path.follows_traverse (profile.tooling tool) closed⟩

end Cuts

/-! ## Excursions -/

def Excursion.Follows (tooling : Tooling) (excursion : Excursion) : Prop :=
  ∀ command ∈ excursion.cuts, command.Follows tooling

theorem Excursion.follows_along {tooling : Tooling} {start : Spot} {lines : List Line}
    (cut : ∀ line ∈ lines, line.isCut = true) (follows : ∀ line ∈ lines, line.Follows tooling) :
    (along start lines cut).Follows tooling :=
  forall_mem_commands.mpr follows

theorem Stepping.follows_excursions {tooling : Tooling} {stepping : Stepping}
    {depth : NonnegNumber} {excursion : Pass Number → Excursion} {excursions : List Excursion}
    (each : ∀ pass, (excursion pass).Follows tooling)
    (planned : stepping.excursions? depth excursion = .ok excursions) :
    ∀ excursion ∈ excursions, excursion.Follows tooling := by
  obtain ⟨passes, -, rfl⟩ := excursions?_ok planned
  intro excursion mem
  obtain ⟨pass, -, rfl⟩ := List.mem_map.mp mem
  exact each pass

theorem Operation.follows_excursions {operation : Operation} {tool : Tool} {profile : Profile}
    {excursions : List Excursion} (planned : operation.excursions? tool profile = .ok excursions) :
    ∀ excursion ∈ excursions, excursion.Follows (profile.tooling tool) := by
  cases operation with
  | drill task =>
      cases planned
      rw [List.forall_mem_singleton, Excursion.Follows, Drill.excursion, List.forall_mem_singleton]
      rfl
  | contour task =>
      refine Stepping.follows_excursions (fun pass => ?_) planned
      exact Excursion.follows_along _ (task.follows_cutLines tool profile pass)
  | closedPocket task =>
      refine Stepping.follows_excursions (fun pass => ?_) planned
      exact Excursion.follows_along _ (follows_pocketLines tool profile _ _ pass)
  | openPocket task =>
      refine Stepping.follows_excursions (fun pass => ?_) planned
      exact Excursion.follows_along _ (follows_pocketLines tool profile _ _ pass)
  | ofNoKind toolId depth comment => cases planned

theorem Catalog.follows_excursions {catalog : Catalog} {profile : Profile} {operation : Operation}
    {excursions : List Excursion}
    (planned : catalog.excursions? profile operation = .ok excursions) :
    ∀ excursion ∈ excursions, ∃ tool, catalog.find? operation.toolId = some tool ∧
      excursion.Follows (profile.tooling tool) := by
  rw [excursions?] at planned
  split at planned
  · cases planned
    exact List.forall_mem_nil _
  · rename_i tool found
    exact fun excursion mem => ⟨tool, found, Operation.follows_excursions planned excursion mem⟩

end Millwork
