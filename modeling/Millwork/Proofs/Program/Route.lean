import Millwork.Proofs.Controller.Position
import Millwork.Proofs.Controller.View
import Millwork.Proofs.Program.Excursions
import Millwork.Proofs.Program.Schedule

namespace Millwork

structure Outline where
  path : Path
  closed : Bool
  stepping : Stepping
  depth : NonnegNumber
  rampIn : Bool
  rampOut : Bool

def Operation.outline? : Operation → Option Outline
  | contour task => some {
      path := task.path
      closed := task.closed.isOn
      stepping := task.toStepping
      depth := task.depth
      rampIn := isRampEntry task.entry
      rampOut := isRampExit task.exit }
  | closedPocket task => some ⟨task.path, true, task.toStepping, task.depth, false, false⟩
  | openPocket task => some ⟨task.path, false, task.toStepping, task.depth, false, false⟩
  | drill _ | ofNoKind .. => none

/-- Beside a spot, where a ramp begins or ends. -/
def rampPlace (spot : Spot) (z : Double) : Position :=
  .of (spot.1 + rampDistance) (spot.2 + rampDistance) z

/-- Down to a height over a spot; a ramp goes by the surface and the place beside the spot. -/
def downTo (spot : Spot) (z : Double) (ramps : Bool) : List Position :=
  let there := Position.of spot.1 spot.2 z
  if ramps then [.of spot.1 spot.2 surface, rampPlace spot z, there] else [there]

namespace Outline

variable (outline : Outline) (pass : Pass Number)

def spot : Spot := outline.path.start.spot

def descent : List Position :=
  downTo outline.spot pass.height.toDouble (pass.isFirst && outline.rampIn)

def followed : List Position :=
  (outline.path.rest ++ if outline.closed then [outline.path.start] else []).map fun point =>
    .of point.x.val point.y.val pass.height.toDouble

def ascent : List Position :=
  if pass.isLast && outline.rampOut then [rampPlace outline.spot surface] else []

def places : List Position := outline.descent pass ++ outline.followed pass ++ outline.ascent pass

def routes (safe : Double) : (height : Option String) → List (Pass Number) → List Visit
  | _, [] => []
  | height, pass :: rest =>
    route outline.spot.1 outline.spot.2 safe (outline.places pass) height ++
      routes safe (some safe.operand) rest

end Outline

/-- The first of two passes. -/
example : ((Operation.contour (Sample.outline none)).outline?.map
    fun outline => (outline.places ⟨0, 2, .whole (-3)⟩).map fun place =>
      [place.x, place.y, place.z].reduceOption) =
    some [["0", "0", "0"], ["10", "10", "-3"], ["0", "0", "-3"], ["40", "0", "-3"],
      ["40", "30", "-3"], ["0", "0", "-3"]] := by
  decide +kernel

/-! ## Cuts of a pass -/

def Point.cut (feed : Double) (point : Point) : Command :=
  .linear (.position point.x.val point.y.val) (some feed)

theorem Path.commands_traverse (path : Path) (feed : Double) (closed : Bool) :
    commands (path.traverse feed closed) =
      (path.rest ++ if closed then [path.start] else []).map (Point.cut feed) := by
  rw [traverse, commands_append, List.map_append]
  congr 1
  · -- The number of a point only occurs in its note.
    rw [commands, List.filterMap_map]
    calc
      _ = path.rest.zipIdx.map (Point.cut feed ∘ Prod.fst) := congrFun List.filterMap_eq_map' _
      _ = path.rest.map (Point.cut feed) := by rw [← List.map_map, List.zipIdx_map_fst]
  · cases closed <;> rfl

section Cuts

variable (dialect : Dialect)

theorem tours_points (points : List Point) (feed : Double) {start : Position} {z : Double}
    (height : start.z = some z.operand) :
    Tours dialect (points.map (Point.cut feed)) start
      (points.map fun point => .of point.x.val point.y.val z) := by
  induction points generalizing start with
  | nil => exact .nil dialect start
  | cons point points ih =>
      have here : start.reach (.position point.x.val point.y.val) =
          .of point.x.val point.y.val z := by
        simp [Position.reach, Target.position, Position.of, height]
      have first := Tours.linear dialect start (.position point.x.val point.y.val) (some feed)
      rw [here] at first
      exact first.append (ih rfl)

theorem tours_descent {entry : Option Entry} {ramps : Bool} (given : isRampEntry entry = ramps)
    (start : Spot) (z plunge feed safe : Double) {setting : List Line}
    (silent : ∀ place, Tours dialect (commands setting) place []) :
    Tours dialect (commands (Line.entering entry start z plunge ++ setting ++
        if isRampEntry entry then [Line.rampReturn start feed] else []))
      (.of start.1 start.2 safe) (downTo start z ramps) := by
  have down (height : Double) := Tours.linear dialect (.of start.1 start.2 safe) (.height height)
    (some plunge)
  subst given
  rw [Line.entering, commands_append, commands_append, downTo]
  split
  · have ramp := (down surface).append (.linear dialect _
      ⟨some (start.1 + rampDistance), some (start.2 + rampDistance), some z⟩ (some plunge))
    exact (ramp.append_silent (silent _)).append
      (.linear dialect _ (.position start.1 start.2) (some feed))
  · rw [commands_nil, List.append_nil]
    exact (down z).append_silent (silent _)

theorem tours_leaving (exit : Option Exit) (start : Spot) (rate : Double) (given : Bool)
    (last : Position) :
    Tours dialect (commands (if given then Line.leaving exit start rate else [])) last
      (if given && isRampExit exit then [rampPlace start surface] else []) := by
  cases given with
  | false => exact .nil dialect last
  | true =>
      rw [if_pos rfl, Line.leaving, Bool.true_and]
      split
      · exact .linear dialect _ _ _
      · exact .nil dialect last

theorem tours_setting (command : Command) (note : Option String) (given : Bool) (start : Position)
    (rapid : ¬∃ target, command = .rapid target)
    (linear : ¬∃ target feed, command = .linear target feed) :
    Tours dialect (commands (if given then [.command command note] else [])) start [] := by
  cases given with
  | false => exact .nil dialect start
  | true => exact .setting dialect start rapid linear

end Cuts

namespace Outline

variable (outline : Outline) (pass : Pass Number)

theorem z_descent (last : Position) :
    ((outline.descent pass).getLastD last).z = some pass.height.toDouble.operand := by
  rw [descent, downTo]
  split <;> rfl

theorem tours_followed (dialect : Dialect) (feed : Double) {start : Position}
    (height : start.z = some pass.height.toDouble.operand) :
    Tours dialect (commands (outline.path.traverse feed outline.closed)) start
      (outline.followed pass) := by
  rw [Path.commands_traverse]
  exact tours_points dialect _ feed height

end Outline

namespace Contour

variable (contour : Contour) (tool : Tool) (profile : Profile) (pass : Pass Number)

theorem tours_cutLines {outline : Outline}
    (outlined : (Operation.contour contour).outline? = some outline) (dialect : Dialect)
    (safe : Double) :
    Tours dialect (commands (contour.cutLines tool profile pass))
      (.of outline.spot.1 outline.spot.2 safe) (outline.places pass) := by
  have entry : isRampEntry (if pass.isFirst then contour.entry else none) =
      (pass.isFirst && isRampEntry contour.entry) := by
    cases pass.isFirst <;> rfl
  have down := tours_descent dialect entry contour.path.start.spot pass.height.toDouble
    (PositiveNumber.toDouble (profile.plungeRateFor tool))
    (PositiveNumber.toDouble (profile.feedRateFor tool)) safe fun place =>
      tours_setting dialect
        (.compensate contour.compensation (PositiveNumber.toDouble tool.diameter))
        (some "Tool compensation") (profile.compensates contour.compensation) place (by simp)
        (by simp)
  have path := outline.tours_followed pass dialect
    (PositiveNumber.toDouble (profile.feedRateFor tool))
    (outline.z_descent pass (.of outline.spot.1 outline.spot.2 safe))
  have out := tours_leaving dialect contour.exit contour.path.start.spot
    (PositiveNumber.toDouble (profile.plungeRateFor tool)) pass.isLast
  have off (place : Position) := tours_setting dialect .cancelCompensation
    (some "Cancel tool compensation") (profile.compensates contour.compensation) place (by simp)
    (by simp)
  cases outlined
  rw [cutLines, commands_append, commands_append, commands_append]
  exact ((down.append path).append (out _)).append_silent (off _)

end Contour

theorem tours_pocketLines (outline : Outline) (straight : outline.rampIn = false)
    (stays : outline.rampOut = false) (tool : Tool) (profile : Profile) (pass : Pass Number)
    (dialect : Dialect) (safe : Double) :
    Tours dialect (commands (pocketLines outline.path outline.closed tool profile pass))
      (.of outline.spot.1 outline.spot.2 safe) (outline.places pass) := by
  have down := Tours.linear dialect (.of outline.spot.1 outline.spot.2 safe)
    (.height pass.height.toDouble) (some (PositiveNumber.toDouble (profile.plungeRateFor tool)))
  have path := outline.tours_followed pass dialect
    (PositiveNumber.toDouble (profile.feedRateFor tool))
    (outline.z_descent pass (.of outline.spot.1 outline.spot.2 safe))
  have descent : outline.descent pass =
      [.of outline.spot.1 outline.spot.2 pass.height.toDouble] := by
    rw [Outline.descent, straight, Bool.and_false]
    rfl
  have ascent : outline.ascent pass = [] := by
    rw [Outline.ascent, stays, Bool.and_false]
    rfl
  rw [descent] at path
  rw [Outline.places, ascent, List.append_nil, descent]
  exact down.append path

/-! ## Operations -/

structure Outline.Excurses (outline : Outline) (dialect : Dialect) (safe : Double)
    (excursion : Pass Number → Excursion) : Prop where
  x : ∀ pass, (excursion pass).x = outline.spot.1
  y : ∀ pass, (excursion pass).y = outline.spot.2
  tours : ∀ pass, Tours dialect (excursion pass).cuts (.of outline.spot.1 outline.spot.2 safe)
    (outline.places pass)

namespace Operation

variable {operation : Operation} {outline : Outline}

theorem excursions?_of_outline (outlined : operation.outline? = some outline) (tool : Tool)
    (profile : Profile) (dialect : Dialect) (safe : Double) :
    ∃ excursion, outline.Excurses dialect safe excursion ∧ operation.excursions? tool profile =
      outline.stepping.excursions? outline.depth excursion := by
  cases operation with
  | contour task =>
      have tours := fun pass => task.tours_cutLines tool profile pass outlined dialect safe
      cases outlined
      exact ⟨_, ⟨fun _ => rfl, fun _ => rfl, tours⟩, rfl⟩
  | closedPocket task =>
      have tours := fun pass => tours_pocketLines outline (by cases outlined; rfl)
        (by cases outlined; rfl) tool profile pass dialect safe
      cases outlined
      exact ⟨pocketExcursion task.path true tool profile, ⟨fun _ => rfl, fun _ => rfl, tours⟩, rfl⟩
  | openPocket task =>
      have tours := fun pass => tours_pocketLines outline (by cases outlined; rfl)
        (by cases outlined; rfl) tool profile pass dialect safe
      cases outlined
      exact ⟨pocketExcursion task.path false tool profile, ⟨fun _ => rfl, fun _ => rfl, tours⟩, rfl⟩
  | drill task => cases outlined
  | ofNoKind toolId depth comment => cases outlined

end Operation

theorem Outline.Excurses.visits_orders {outline : Outline} {profile : Profile}
    {excursion : Pass Number → Excursion}
    (excurses : outline.Excurses profile.dialect (PositiveNumber.toDouble profile.safeHeight)
      excursion) (passes : List (Pass Number)) (start : Position) :
    visits start ((orders profile (passes.map excursion)).map
        (Command.instruction profile.dialect.spelling)) =
      outline.routes (PositiveNumber.toDouble profile.safeHeight) start.z passes := by
  induction passes generalizing start with
  | nil => rfl
  | cons pass passes ih =>
      have tours := excurses.tours pass
      rw [← excurses.x pass, ← excurses.y pass] at tours
      obtain ⟨here, height⟩ := (excursion pass).visits_orders tours start
      rw [orders, List.map_cons, List.flatMap_cons, List.map_append, visits_append, here,
        ← orders, ih, height, excurses.x, excurses.y, Outline.routes]

/-! ## Written lines -/

/-- The lines of a controller that take the tool along an outline, pass by pass. The passes count
themselves, so that the first and the last of them know that they are. -/
structure Outline.Routed (outline : Outline) (profile : Profile) (lines : List Line)
    (passes : List (Pass Number)) : Prop where
  planned : outline.stepping.passes? outline.depth = .ok passes
  indexes : passes.map Pass.index = List.range passes.length
  counts : ∀ pass ∈ passes, pass.count = passes.length
  visits : ∀ start, visits start (profile.dialect.spelling.comments.read
      (lines.map (Line.render profile.dialect.spelling))) =
    outline.routes (PositiveNumber.toDouble profile.safeHeight) start.z passes

theorem Outline.Routed.of_commands {outline : Outline} {profile : Profile}
    {lines others : List Line} {passes : List (Pass Number)}
    (routed : outline.Routed profile lines passes) (same : commands others = commands lines) :
    outline.Routed profile others passes := by
  refine ⟨routed.planned, routed.indexes, routed.counts, fun start => ?_⟩
  rw [← routed.visits start, Dialect.read_render, Dialect.read_render, same]

theorem Stepping.numbered_passes {stepping : Stepping} {depth : NonnegNumber}
    {passes : List (Pass Number)} (planned : stepping.passes? depth = .ok passes) :
    passes.map Pass.index = List.range passes.length ∧
      ∀ pass ∈ passes, pass.count = passes.length := by
  obtain ⟨made, -, rfl⟩ := passes?_ok planned
  rw [List.length_map, List.length_zipIdx, List.map_map]
  constructor
  · calc
      _ = made.zipIdx.map Prod.snd := rfl
      _ = List.range' 0 made.length := List.zipIdx_map_snd 0 made
      _ = List.range made.length := List.range_eq_range'.symm
  · intro pass mem
    obtain ⟨entry, -, rfl⟩ := List.mem_map.mp mem
    rfl

namespace Operation

variable {operation : Operation} {outline : Outline} {profile : Profile} {tool : Tool}

theorem routed_of_lines (outlined : operation.outline? = some outline) {lines : List Line}
    (cut : (operation.lines tool profile).outcome = .ok lines) :
    ∃ passes, outline.Routed profile lines passes := by
  obtain ⟨excursion, excurses, planned⟩ := excursions?_of_outline outlined tool profile
    profile.dialect (PositiveNumber.toDouble profile.safeHeight)
  have told := operation.commands_lines tool profile
  rw [cut, planned] at told
  obtain ⟨excursions, made, same⟩ := Attempt.map_eq_ok.mp told.symm
  obtain ⟨passes, scheduled, rfl⟩ := Stepping.excursions?_ok made
  obtain ⟨indexes, counts⟩ := Stepping.numbered_passes scheduled
  refine ⟨passes, scheduled, indexes, counts, fun start => ?_⟩
  rw [Dialect.read_render, ← same]
  exact excurses.visits_orders passes start

theorem routed (outlined : operation.outline? = some outline) (tool : Tool) (profile : Profile) :
    (∀ lines, (operation.lines tool profile).outcome = .ok lines →
      ∃ passes, outline.Routed profile lines passes) ∧
    (∀ catalog number result, catalog.find? operation.toolId = some tool →
      (block profile catalog number operation).outcome = .ok result →
      ∃ passes, outline.Routed profile result.1 passes) := by
  refine ⟨fun lines cut => routed_of_lines outlined cut, ?_⟩
  intro catalog number result found made
  rcases block_ok made with ⟨missing, -⟩ | ⟨own, lines, -, cut, same⟩
  · rw [missing] at found
    cases found
  · obtain ⟨passes, follows⟩ := routed_of_lines outlined cut
    exact ⟨passes, follows.of_commands same⟩

theorem routed_of_sample :
    ∃ outline tool lines result passes,
      (Operation.contour (Sample.outline none)).outline? = some outline ∧
      Catalog.standard.find? "mill_6mm" = some tool ∧
      ((Operation.contour (Sample.outline none)).lines tool .standard).outcome = .ok lines ∧
      (block .standard .standard (.whole 1) (.contour (Sample.outline none))).outcome =
        .ok result ∧
      passes.length = 2 ∧
      outline.Routed .standard lines passes ∧ outline.Routed .standard result.1 passes := by
  have outlined : (Operation.contour (Sample.outline none)).outline? = some _ := rfl
  have found : Catalog.standard.find? "mill_6mm" =
      some (Catalog.standard.tools.get ⟨2, by decide⟩) := by decide +kernel
  obtain ⟨lines, cut⟩ := Attempt.exists_ok (x := ((Operation.contour (Sample.outline none)).lines
    (Catalog.standard.tools.get ⟨2, by decide⟩) .standard).outcome) (by decide +kernel)
  obtain ⟨result, made⟩ := Attempt.exists_ok (x := (block .standard .standard (.whole 1)
    (.contour (Sample.outline none))).outcome) (by decide +kernel)
  obtain ⟨own, whole⟩ := routed outlined (Catalog.standard.tools.get ⟨2, by decide⟩) .standard
  obtain ⟨passes, along⟩ := own lines cut
  obtain ⟨passes', along'⟩ := whole .standard (.whole 1) result found made
  have same : passes' = passes := Except.ok.inj (along'.planned.symm.trans along.planned)
  have two : ((Sample.outline none).passes? (Sample.outline none).depth).toOption.map
      List.length = some 2 := by decide +kernel
  rw [show (Sample.outline none).passes? (Sample.outline none).depth = .ok passes from
    along.planned] at two
  rw [same] at along'
  exact ⟨_, _, lines, result, passes, outlined, found, cut, made, Option.some.inj two, along,
    along'⟩

end Operation

end Millwork
