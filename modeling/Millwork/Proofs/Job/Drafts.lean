import Millwork.Job.Basic
import Millwork.Proofs.Program.Schedule

namespace Millwork

inductive Fault.IsRefusal : Fault → Prop
  | refused (refusal : Refusal) : IsRefusal (.refused refusal)

open Attempt

/-! ## Quantities -/

namespace Json

def IsDouble (value : Json) : Prop := ∃ x, value = ofDouble x

def MayBeDouble (value : Json) : Prop := ∃ x, value = ofDouble? x

variable {value : Json}

theorem finite?_meets (double : value.IsDouble) :
    (liftM value.finite? : Attempt _).Meets (fun found => ∀ a ∈ found, ∃ x, a.val = .double x)
      Fault.IsRefusal := by
  obtain ⟨x, rfl⟩ := double
  by_cases finite : (Number.double x).isFinite = true
  · have read : (ofDouble x).finite? = .ok (some ⟨.double x, finite⟩) := dif_pos finite
    rw [read]
    refine meets_pure fun a found => ?_
    cases found
    exact ⟨x, rfl⟩
  · have read : (ofDouble x).finite? = .ok none := dif_neg finite
    rw [read]
    refine meets_pure fun a found => ?_
    cases found

theorem positive?_meets (quantity : Quantity) (double : value.IsDouble) :
    (value.positive? quantity).Meets (fun a => ∃ x, a.val = .double x) Fault.IsRefusal := by
  refine (finite?_meets double).bind fun found here => ?_
  cases found with
  | none => exact meets_throw ⟨_⟩
  | some a =>
      dsimp only
      split
      · exact meets_pure (here a rfl)
      · exact meets_throw ⟨_⟩

theorem nonnegative?_meets (quantity : Quantity) (double : value.IsDouble) :
    (value.nonnegative? quantity).Meets (fun a => ∃ x, a.val = .double x) Fault.IsRefusal := by
  refine (finite?_meets double).bind fun found here => ?_
  cases found with
  | none => exact meets_throw ⟨_⟩
  | some a =>
      dsimp only
      split
      · exact meets_pure (here a rfl)
      · exact meets_throw ⟨_⟩

theorem positiveOrNone?_meets (quantity : Quantity) (double : value.MayBeDouble) :
    (value.positiveOrNone? quantity).Meets (fun found => ∀ a ∈ found, ∃ x, a.val = .double x)
      Fault.IsRefusal := by
  obtain ⟨given, rfl⟩ := double
  cases given with
  | none =>
      refine meets_pure fun a found => ?_
      cases found
  | some x =>
      refine (positive?_meets quantity ⟨x, rfl⟩).map fun a here b found => ?_
      cases found
      exact here

end Json

theorem Choice.ofJson?_meets {α : Type} [Choice α] (value : Json) :
    (liftM (Choice.ofJson? value : Except Refusal α) : Attempt α).Meets (fun _ => True)
      Fault.IsRefusal := by
  cases (Choice.ofJson? value : Except Refusal α) with
  | ok a => exact meets_pure trivial
  | error refusal => exact meets_throw ⟨refusal⟩

/-! ## Operations -/

theorem Task.ofDraft_meets (kind : OperationKind) {draft : TaskDraft}
    (depth : draft.depth.IsDouble) :
    (Task.ofDraft kind draft).Meets (fun task => ∃ x, task.depth.val = .double x)
      Fault.IsRefusal := by
  rw [Task.ofDraft]
  split
  · exact (Json.nonnegative?_meets _ depth).bind fun a here => meets_pure here
  · exact meets_throw ⟨_⟩

theorem Stepping.ofDraft_meets (kind : OperationKind) {draft : SteppingDraft}
    (passDepth : draft.passDepth.MayBeDouble) :
    (Stepping.ofDraft kind draft).Meets
      (fun stepping => ∀ step ∈ stepping.passDepth, ∃ y, step.val = .double y) Fault.IsRefusal :=
  (Json.positiveOrNone?_meets _ passDepth).bind fun _ here => meets_pure here

theorem Path.point?_meets (index : Nat) {x y : Json} (first : x.IsDouble) (second : y.IsDouble) :
    (Path.point? index x y).Meets (fun _ => True) Fault.IsRefusal := by
  refine (Json.finite?_meets first).bind fun found _ => ?_
  cases found with
  | none => exact meets_throw ⟨_⟩
  | some a =>
      refine (Json.finite?_meets second).bind fun found _ => ?_
      cases found with
      | none => exact meets_throw ⟨_⟩
      | some b => exact meets_pure trivial

def AreDoubles (coordinates : List (Json × Json)) : Prop :=
  ∀ pair ∈ coordinates, pair.1.IsDouble ∧ pair.2.IsDouble

theorem Path.points?_meets (index : Nat) {coordinates : List (Json × Json)}
    (doubles : AreDoubles coordinates) :
    (Path.points? index coordinates).Meets (fun _ => True) Fault.IsRefusal := by
  induction coordinates generalizing index with
  | nil => exact meets_pure trivial
  | cons pair rest ih =>
      rw [AreDoubles, List.forall_mem_cons] at doubles
      refine (Path.point?_meets index doubles.1.1 doubles.1.2).bind fun point _ => ?_
      exact (ih (index + 1) doubles.2).bind fun rest _ => meets_pure trivial

theorem Path.ofCoordinates_meets {coordinates : List (Json × Json)}
    (doubles : AreDoubles coordinates) :
    (Path.ofCoordinates coordinates).Meets (fun _ => True) Fault.IsRefusal := by
  refine (Path.points?_meets 0 doubles).bind fun points _ => ?_
  cases points with
  | nil => exact meets_throw ⟨_⟩
  | cons start rest => exact meets_pure trivial

theorem Drill.ofDraft_meets {draft : DrillDraft} (depth : draft.depth.IsDouble)
    (x : draft.x.IsDouble) (y : draft.y.IsDouble) (diameter : draft.diameter.IsDouble) :
    (Drill.ofDraft draft).Meets (fun drill => (Operation.drill drill).OfDoubles)
      Fault.IsRefusal := by
  refine (Task.ofDraft_meets _ depth).bind fun task own => ?_
  refine (Json.finite?_meets x).bind fun found _ => ?_
  cases found with
  | none => exact meets_throw ⟨_⟩
  | some x =>
      refine (Json.finite?_meets y).bind fun found _ => ?_
      cases found with
      | none => exact meets_throw ⟨_⟩
      | some y => exact (Json.positive?_meets _ diameter).bind fun diameter _ => meets_pure own

theorem Compensation.ofGiven_meets (value : Json) :
    (liftM (Compensation.ofGiven value) : Attempt Compensation).Meets (fun _ => True)
      Fault.IsRefusal := by
  rw [Compensation.ofGiven]
  split
  · exact meets_pure trivial
  · exact Choice.ofJson?_meets value

theorem Contour.ofDraft_meets {draft : ContourDraft} (depth : draft.depth.IsDouble)
    (path : AreDoubles draft.path) (passDepth : draft.passDepth.MayBeDouble) :
    (Contour.ofDraft draft).Meets (fun contour => (Operation.contour contour).OfDoubles)
      Fault.IsRefusal := by
  refine (Task.ofDraft_meets _ depth).bind fun task own => ?_
  refine (Path.ofCoordinates_meets path).bind fun path _ => ?_
  refine (Stepping.ofDraft_meets _ passDepth).bind fun stepping steps => ?_
  exact (Compensation.ofGiven_meets _).bind fun compensation _ => meets_pure ⟨own, steps⟩

theorem ClosedPocket.ofDraft_meets {draft : ClosedPocketDraft} (depth : draft.depth.IsDouble)
    (path : AreDoubles draft.path) (passDepth : draft.passDepth.MayBeDouble) :
    (ClosedPocket.ofDraft draft).Meets (fun pocket => (Operation.closedPocket pocket).OfDoubles)
      Fault.IsRefusal := by
  refine (Task.ofDraft_meets _ depth).bind fun task own => ?_
  refine (Path.ofCoordinates_meets path).bind fun path _ => ?_
  refine (Stepping.ofDraft_meets _ passDepth).bind fun stepping steps => ?_
  exact (Choice.ofJson?_meets _).bind fun strategy _ => meets_pure ⟨own, steps⟩

theorem OpenPocket.ofDraft_meets {draft : OpenPocketDraft} (depth : draft.depth.IsDouble)
    (path : AreDoubles draft.path) (passDepth : draft.passDepth.MayBeDouble)
    (width : draft.width.IsDouble) :
    (OpenPocket.ofDraft draft).Meets (fun pocket => (Operation.openPocket pocket).OfDoubles)
      Fault.IsRefusal := by
  refine (Task.ofDraft_meets _ depth).bind fun task own => ?_
  refine (Path.ofCoordinates_meets path).bind fun path _ => ?_
  refine (Stepping.ofDraft_meets _ passDepth).bind fun stepping steps => ?_
  refine (Choice.ofJson?_meets _).bind fun strategy _ => ?_
  exact (Json.nonnegative?_meets _ width).bind fun width _ => meets_pure ⟨own, steps⟩

theorem Entry.ofDraft_meets {draft : Entry.Draft} (angle : draft.angle.MayBeDouble)
    (radius : draft.radius.MayBeDouble) :
    (Entry.ofDraft draft).Meets (fun _ => True) Fault.IsRefusal := by
  refine (Choice.ofJson?_meets _).bind fun style _ => ?_
  have rest (angle : Option FiniteNumber) : (do
      let radius ← draft.radius.positiveOrNone? .entryRadius
      return { style, angle, radius } : Attempt Entry).Meets (fun _ => True) Fault.IsRefusal :=
    (Json.positiveOrNone?_meets _ radius).bind fun _ _ => meets_pure trivial
  obtain ⟨x, given⟩ := angle
  rw [given]
  cases x with
  | none => exact rest none
  | some x =>
      refine (Json.finite?_meets ⟨x, rfl⟩).bind fun found _ => ?_
      cases found with
      | none => exact meets_throw ⟨_⟩
      | some angle => exact rest (some angle)

theorem Exit.ofGiven_meets (style : Json) :
    (Exit.ofGiven style).Meets (fun _ => True) Fault.IsRefusal :=
  (Choice.ofJson?_meets style).bind fun _ _ => meets_pure trivial

/-! ## Tools, panels and machines -/

theorem Tool.ofDraft_meets {draft : Tool.Draft} (diameter : draft.diameter.IsDouble)
    (spindleSpeed : draft.spindleSpeed.IsDouble) (feedRate : draft.feedRate.IsDouble)
    (plungeRate : draft.plungeRate.MayBeDouble) (maxDepth : draft.maxDepth.MayBeDouble) :
    (Tool.ofDraft draft).Meets (fun _ => True) Fault.IsRefusal := by
  rw [Tool.ofDraft]
  split
  · refine (Choice.ofJson?_meets _).bind fun kind _ => ?_
    refine (Json.positive?_meets _ diameter).bind fun diameter _ => ?_
    refine (Json.positive?_meets _ spindleSpeed).bind fun spindleSpeed _ => ?_
    refine (Json.positive?_meets _ feedRate).bind fun feedRate _ => ?_
    refine (Json.positiveOrNone?_meets _ plungeRate).bind fun plungeRate _ => ?_
    exact (Json.positiveOrNone?_meets _ maxDepth).bind fun maxDepth _ => meets_pure trivial
  · exact meets_throw ⟨_⟩

theorem Panel.fromWords?_meets {α : Type} (name : String) (all : List α) (word : α → String)
    (value : Json) :
    (liftM (Panel.fromWords? name all word value) : Attempt α).Meets (fun _ => True)
      Fault.IsRefusal := by
  cases Panel.fromWords? name all word value with
  | ok a => exact meets_pure trivial
  | error refusal => exact meets_throw ⟨refusal⟩

theorem Panel.ofDraft_meets {draft : Panel.Draft} (length : draft.length.IsDouble)
    (width : draft.width.IsDouble) (thickness : draft.thickness.IsDouble)
    (zOffset : draft.zOffset.IsDouble) :
    (Panel.ofDraft draft).Meets (fun _ => True) Fault.IsRefusal := by
  refine (Json.positive?_meets _ length).bind fun length _ => ?_
  refine (Json.positive?_meets _ width).bind fun width _ => ?_
  refine (Json.positive?_meets _ thickness).bind fun thickness _ => ?_
  refine (Panel.fromWords?_meets _ _ _ _).bind fun origin _ => ?_
  refine (Panel.fromWords?_meets _ _ _ _).bind fun face _ => ?_
  refine (Json.finite?_meets zOffset).bind fun found _ => ?_
  cases found with
  | none => exact meets_throw ⟨_⟩
  | some zOffset => exact meets_pure trivial

theorem Profile.ofDraft_meets {draft : Profile.Draft} (safeHeight : draft.safeHeight.IsDouble)
    (spindleSpeed : draft.spindleSpeed.IsDouble) (feedRate : draft.feedRate.IsDouble)
    (plungeRate : draft.plungeRate.IsDouble) :
    (Profile.ofDraft draft).outcome.Meets (fun _ => True) Fault.IsRefusal := by
  have dialect : (Dialect.named draft.dialect).outcome.Meets (fun _ => True) Fault.IsRefusal := by
    rw [Dialect.named]
    split <;> exact meets_pure trivial
  simp only [Profile.ofDraft, Traced.outcome_bind, Traced.outcome_lift, Traced.outcome_pure]
  refine dialect.bind fun dialect _ => ?_
  refine (Json.positive?_meets _ safeHeight).bind fun safeHeight _ => ?_
  refine (Json.positive?_meets _ spindleSpeed).bind fun spindleSpeed _ => ?_
  refine (Json.positive?_meets _ feedRate).bind fun feedRate _ => ?_
  exact (Json.positive?_meets _ plungeRate).bind fun plungeRate _ => meets_pure trivial

end Millwork
