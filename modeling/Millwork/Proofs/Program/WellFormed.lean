import Millwork.Proofs.Controller.Grammar
import Millwork.Proofs.Number.Finite
import Millwork.Proofs.Program.Schedule

namespace Millwork

/-! ## Heights -/

namespace Number

theorem isLength_times (n : Nat) (step : PositiveNumber) :
    (Length.times n step.val).IsLength := by
  obtain ⟨step, finite, positive⟩ := step
  cases step with
  | whole k =>
      have pos : 0 < k := (whole_lt_whole 0 k).mp positive
      have product : 0 ≤ n * k := Int.mul_nonneg (Int.natCast_nonneg n) (Int.le_of_lt pos)
      exact .inr ⟨n * k * Double.unitsPerOne, rfl, Int.mul_nonneg product (Int.natCast_nonneg _)⟩
  | double x =>
      have product : Length.times n (double x) = double (.ofInt n * x) := rfl
      obtain ⟨m, fits, rfl, -, pos⟩ := exists_units_of_pos finite positive
      rw [product]
      have sign : decide ((n : Int) < 0) = false := decide_eq_false (by omega)
      rw [Double.ofInt, sign, Double.nearest]
      split
      · rw [Double.finite_mul_finite]
        exact isLength_nearest _ _
      · rw [Double.infinite_mul_finite _ _ fits (Nat.ne_of_gt pos)]
        exact .inl rfl

end Number

theorem Stepping.isFinite_height {stepping : Stepping} {depth : NonnegNumber}
    {passes : List (Pass Number)} (planned : stepping.passes? depth = .ok passes) :
    ∀ pass ∈ passes, pass.height.isFinite = true := by
  refine forall_height (·.isFinite = true) planned ?_ fun i step _ => ?_
  · rw [Number.isFinite_neg]
    exact depth.property.1
  · rw [Number.isFinite_neg]
    exact Number.isFinite_min (Number.isLength_times _ step) depth.property.1

/-! ## Operands -/

def Line.Sound (line : Line) : Prop := ∀ command ∈ line.command?, command.Sound

theorem Line.sound_linear {target : Target} {rate : Double} {note : String}
    (moves : target.Sound) (fed : rate.isFinite = true) : (linear target rate note).Sound := by
  rintro command ⟨⟩
  exact ⟨moves, rate, rfl, fed⟩

structure Spot.Sound (spot : Spot) : Prop where
  x : spot.1.isFinite = true
  y : spot.2.isFinite = true

theorem Point.sound_spot (point : Point) : Spot.Sound point.spot :=
  ⟨point.x.property, point.y.property⟩

theorem Spot.Sound.ramp {spot : Spot} (sound : Spot.Sound spot) : Spot.Sound (rampSpot spot) := by
  have small : Double.IsSmall rampDistance := Double.isSmall_ofInt (by decide)
  exact ⟨Double.isFinite_add sound.x small, Double.isFinite_add sound.y small⟩

theorem PositiveNumber.isFinite_toDouble (a : PositiveNumber) : (toDouble a).isFinite = true :=
  a.property.1

theorem isFinite_surface : surface.isFinite = true := rfl

section Cuts

variable {start : Spot} {z rate : Double}

theorem Path.sound_traverse (path : Path) (closed : Bool) (fed : rate.isFinite = true) :
    ∀ line ∈ path.traverse rate closed, line.Sound := by
  have cut (point : Point) (note : String) :
      (Line.linear (.position point.x.val point.y.val) rate note).Sound :=
    Line.sound_linear (Target.sound_position point.x.property point.y.property) fed
  intro line mem
  rw [traverse, List.mem_append, List.mem_map] at mem
  rcases mem with ⟨entry, -, rfl⟩ | mem
  · exact cut _ _
  · cases closed with
    | false => cases mem
    | true =>
        cases List.mem_singleton.mp mem
        exact cut _ _

theorem Line.sound_plunge (finite : z.isFinite = true) (fed : rate.isFinite = true) :
    (plunge z rate).Sound :=
  sound_linear (Target.sound_height finite) fed

theorem Target.sound_slope (sound : Spot.Sound start) (finite : z.isFinite = true) :
    (⟨some (rampSpot start).1, some (rampSpot start).2, some z⟩ : Target).Sound where
  nonempty := by simp
  x := by simpa using sound.ramp.x
  y := by simpa using sound.ramp.y
  z := by simpa using finite

theorem Line.sound_entering (entry : Option Entry) (sound : Spot.Sound start)
    (finite : z.isFinite = true) (fed : rate.isFinite = true) :
    ∀ line ∈ entering entry start z rate, line.Sound := by
  rw [entering]
  split
  · simp only [List.forall_mem_cons]
    exact ⟨sound_linear (Target.sound_height rfl) fed,
      sound_linear (Target.sound_slope sound finite) fed, List.forall_mem_nil _⟩
  · simpa using sound_plunge finite fed

theorem Line.sound_leaving (exit : Option Exit) (sound : Spot.Sound start)
    (fed : rate.isFinite = true) : ∀ line ∈ leaving exit start rate, line.Sound := by
  rw [leaving]
  split
  · simpa using sound_linear (Target.sound_slope sound isFinite_surface) fed
  · simp

end Cuts

namespace Contour

theorem sound_cutLines (contour : Contour) (tool : Tool) (profile : Profile) {pass : Pass Number}
    (finite : pass.height.isFinite = true) :
    ∀ line ∈ contour.cutLines tool profile pass, line.Sound := by
  have start := contour.path.start.sound_spot
  have feed := (profile.feedRateFor tool).isFinite_toDouble
  have plunge := (profile.plungeRateFor tool).isFinite_toDouble
  intro line mem
  simp only [cutLines, List.mem_append, List.mem_ite_nil_right, List.mem_singleton] at mem
  rcases mem with ((((entering | ⟨-, rfl⟩) | ⟨-, rfl⟩) | path) | ⟨-, leaving⟩) | ⟨-, rfl⟩
  · exact Line.sound_entering _ start finite plunge line entering
  · rintro command ⟨⟩
    exact tool.diameter.isFinite_toDouble
  · exact Line.sound_linear (Target.sound_position start.x start.y) feed
  · exact contour.path.sound_traverse _ feed line path
  · exact Line.sound_leaving _ start plunge line leaving
  · rintro command ⟨⟩
    trivial

end Contour

theorem sound_pocketLines (path : Path) (closed : Bool) (tool : Tool) (profile : Profile)
    {pass : Pass Number} (finite : pass.height.isFinite = true) :
    ∀ line ∈ pocketLines path closed tool profile pass, line.Sound := by
  rw [pocketLines, List.forall_mem_cons]
  exact ⟨Line.sound_plunge finite (profile.plungeRateFor tool).isFinite_toDouble,
    path.sound_traverse closed (profile.feedRateFor tool).isFinite_toDouble⟩

theorem isSmall_overtravel : Double.IsSmall overtravel.toDouble := by
  rw [overtravel, Number.toDouble]
  exact @Double.isSmall_ofInt 2 (by decide)

theorem Drill.isFinite_cutDepth (drill : Drill) : drill.cutDepth.isFinite = true := by
  have own := drill.depth.property.1
  rw [cutDepth]
  split
  · cases given : drill.depth.val with
    | whole n =>
        rw [given] at own
        exact Double.isFinite_add own isSmall_overtravel
    | double x =>
        rw [given] at own
        exact Double.isFinite_add own isSmall_overtravel
  · exact own

/-! ## Excursions -/

namespace Excursion

structure Sound (excursion : Excursion) : Prop where
  x : excursion.x.isFinite = true
  y : excursion.y.isFinite = true
  cuts : ∀ command ∈ excursion.cuts, command.Sound

theorem sound_along {start : Spot} (place : Spot.Sound start) {lines : List Line}
    (cut : ∀ line ∈ lines, line.isCut = true) (sound : ∀ line ∈ lines, line.Sound) :
    (along start lines cut).Sound :=
  ⟨place.x, place.y, forall_mem_commands.mpr sound⟩

theorem Sound.orders {excursion : Excursion} (sound : excursion.Sound) {safe : Double}
    (finite : safe.isFinite = true) : ∀ command ∈ excursion.orders safe, command.Sound := by
  have retract : (Command.rapid (.height safe)).Sound := Target.sound_height finite
  simp only [Excursion.orders, List.forall_mem_cons, List.forall_mem_append]
  exact ⟨⟨Target.sound_position sound.x sound.y, retract, sound.cuts⟩, retract,
    List.forall_mem_nil _⟩

end Excursion

theorem Stepping.sound_excursions {stepping : Stepping} {depth : NonnegNumber}
    {excursion : Pass Number → Excursion} {excursions : List Excursion}
    (each : ∀ pass : Pass Number, pass.height.isFinite = true → (excursion pass).Sound)
    (planned : stepping.excursions? depth excursion = .ok excursions) :
    ∀ excursion ∈ excursions, excursion.Sound := by
  obtain ⟨passes, scheduled, rfl⟩ := excursions?_ok planned
  intro excursion mem
  obtain ⟨pass, member, rfl⟩ := List.mem_map.mp mem
  exact each pass (isFinite_height scheduled pass member)

theorem Operation.sound_excursions {operation : Operation} {tool : Tool} {profile : Profile}
    {excursions : List Excursion} (planned : operation.excursions? tool profile = .ok excursions) :
    ∀ excursion ∈ excursions, excursion.Sound := by
  cases operation with
  | drill task =>
      cases planned
      have depth : (-task.cutDepth).isFinite = true := by
        rw [Number.isFinite_neg]
        exact task.isFinite_cutDepth
      have rate := (profile.plungeRateFor tool).isFinite_toDouble
      simp only [List.forall_mem_singleton]
      refine ⟨task.x.property, task.y.property, ?_⟩
      simp only [Drill.excursion, List.forall_mem_singleton]
      exact ⟨Target.sound_height depth, _, rfl, rate⟩
  | contour task =>
      refine Stepping.sound_excursions (fun pass finite => ?_) planned
      exact Excursion.sound_along task.path.start.sound_spot _
        (task.sound_cutLines tool profile finite)
  | closedPocket task =>
      refine Stepping.sound_excursions (fun pass finite => ?_) planned
      exact Excursion.sound_along task.path.start.sound_spot _
        (sound_pocketLines _ _ tool profile finite)
  | openPocket task =>
      refine Stepping.sound_excursions (fun pass finite => ?_) planned
      exact Excursion.sound_along task.path.start.sound_spot _
        (sound_pocketLines _ _ tool profile finite)
  | ofNoKind toolId depth comment => cases planned

theorem Catalog.sound_excursions {catalog : Catalog} {profile : Profile} {operation : Operation}
    {excursions : List Excursion}
    (planned : catalog.excursions? profile operation = .ok excursions) :
    ∀ excursion ∈ excursions, excursion.Sound := by
  rw [excursions?] at planned
  split at planned
  · cases planned
    exact List.forall_mem_nil _
  · exact Operation.sound_excursions planned

/-! ## Programs -/

/-- Lines are told apart by their ends alone, and each is one of the grammar. -/
structure Program.WellFormed (program : Program) (spelling : Spelling) : Prop where
  clean : ∀ line ∈ program.lines, ∀ c ∈ line.toList, Text.isControl c = false
  /-- The text before its last line end, split at every line end, is the lines. -/
  split : ∃ body, program.text = body ++ "\n" ∧
    (body.toList.splitOn '\n').map String.ofList = program.lines
  grammar : ∀ line ∈ program.lines, LineText spelling line

theorem Line.Sound.lineText {line : Line} (sound : line.Sound) (spelling : Spelling) :
    LineText spelling (line.render spelling) := by
  cases line with
  | blank => exact .empty
  | remark text => exact .comment (spelling.commentText text)
  | command order note =>
      have command := (sound order rfl).commandText spelling
      cases note with
      | none => exact .command command
      | some text =>
          rw [render, Spelling.annotated]
          split
          · rename_i shown
            exact .annotated command (Bool.and_eq_true_iff.mp shown).2 (spelling.commentText text)
          · exact .command command

namespace Program

variable (program : Program)

theorem lines_ne_nil : program.lines ≠ [] := by
  simp [lines, render, body, header]

theorem splitOn_lines :
    ("\n".intercalate program.lines).toList.splitOn '\n' = program.lines.map String.toList := by
  rw [String.toList_intercalate]
  apply List.splitOn_intercalate
  · intro text mem ending
    obtain ⟨line, member, rfl⟩ := List.mem_map.mp mem
    have clean := program.isControl_lines line member '\n' ending
    revert clean
    decide
  · simpa using program.lines_ne_nil

end Program

theorem Program.Carries.sound {program : Program} {profile : Profile}
    {excursions : List (List Excursion)} (carries : program.Carries profile excursions)
    (sound : ∀ cuts ∈ excursions, ∀ excursion ∈ cuts, excursion.Sound) :
    ∀ line ∈ program.body, line.Sound := by
  have safe := profile.safeHeight.isFinite_toDouble
  have retract : (Command.rapid (.height (PositiveNumber.toDouble profile.safeHeight))).Sound :=
    Target.sound_height safe
  have opening : ∀ command ∈ profile.opening, command.Sound := by
    simp only [Profile.opening, List.forall_mem_cons]
    exact ⟨trivial, trivial, retract, profile.spindleSpeed.isFinite_toDouble,
      List.forall_mem_nil _⟩
  have closing : ∀ command ∈ profile.closing, command.Sound := by
    simp only [Profile.closing, List.forall_mem_cons]
    exact ⟨retract, trivial, trivial, List.forall_mem_nil _⟩
  unfold Line.Sound
  rw [← forall_mem_commands, carries.body]
  simp only [List.forall_mem_append]
  refine ⟨⟨opening, ?_⟩, closing⟩
  intro command mem
  obtain ⟨excursion, member, own⟩ := List.mem_flatMap.mp mem
  obtain ⟨cuts, here, among⟩ := List.mem_flatten.mp member
  exact (sound cuts here excursion among).orders safe command own

variable {profile : Profile} {panel : Panel} {operations : List Operation} {catalog : Catalog}
  {stamp : Timestamp} {program : Program}

theorem assemble_wellFormed
    (made : (assemble profile panel operations catalog stamp).outcome = .ok program) :
    program.WellFormed profile.dialect.spelling := by
  obtain ⟨excursions, planned, carries⟩ := assemble_carries made
  have sound : ∀ cuts ∈ excursions, ∀ excursion ∈ cuts, excursion.Sound := by
    clear carries made
    induction planned with
    | nil => exact List.forall_mem_nil _
    | cons here _ ih => exact List.forall_mem_cons.mpr ⟨Catalog.sound_excursions here, ih⟩
  constructor
  · exact program.isControl_lines
  · refine ⟨_, rfl, ?_⟩
    rw [program.splitOn_lines, List.map_map]
    simp [Function.comp_def]
  · intro text mem
    obtain ⟨line, member, rfl⟩ := List.mem_map.mp mem
    rw [← carries.dialect]
    exact (carries.sound sound line member).lineText _

theorem assemble_wellFormed_of_sample :
    ∃ program, (assemble { Profile.standard with toolCompensation := true } (Sample.panel "(\n)")
        (Sample.operations (some "G0 X-0\u0000")) .standard Sample.stamp).outcome = .ok program ∧
      program.WellFormed Dialect.generic.spelling := by
  obtain ⟨program, made⟩ := Attempt.exists_ok (x := (assemble
    { Profile.standard with toolCompensation := true } (Sample.panel "(\n)")
    (Sample.operations (some "G0 X-0\u0000")) .standard Sample.stamp).outcome) (by decide +kernel)
  exact ⟨program, made, assemble_wellFormed made⟩

end Millwork
