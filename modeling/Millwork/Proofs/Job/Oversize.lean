import Millwork.Proofs.Job.Reading

/-!
# Whole numbers that end the reading of a job

A number of a job may be written as a whole number that no double stands for. Reading it is no
fault of the job: it ends the reading at once, wherever the number stands. But a job is read in an
order, and what is read first can put an end to it before. `Reaches` says that a list of steps comes
to such a number, each step before it having succeeded.

* `Json.double?_eq_tooLarge`: which values end the reading.
* `Slot.steps`, `Tool.steps`, `Panel.steps`, `Profile.steps`, `Job.steps`: in which order they are
  met.
* `Job.ofJson_outcome`: reading a job gives a job or its faults exactly if it reaches no such
  number.
-/

namespace Millwork

open Attempt

/-! ## Steps -/

/-- A step of reading: whether it succeeds, and whether it comes to a whole number that is too
large. -/
structure Step where
  succeeds : Prop
  oversize : Prop

def Step.of {α : Type} (x : Attempt α) (oversize : Prop) : Step := ⟨∃ a, x = .ok a, oversize⟩

/-- Some step comes to a whole number that is too large, and those before it succeed. -/
def Reaches : List Step → Prop
  | [] => False
  | step :: rest => step.oversize ∨ step.succeeds ∧ Reaches rest

namespace Attempt

variable {α β : Type} {x : Attempt α} {result : α → Prop}

theorem Meets.apart (meets : x.Meets result Fault.IsRefusal) :
    x.Meets result (· ≠ Fault.tooLarge) :=
  meets.mono (fun _ own => own) fun _ own same => by
    cases own
    cases same

theorem Meets.rejection_apart (meets : x.Meets result Fault.IsRejection) :
    x.Meets result (· ≠ Fault.tooLarge) :=
  meets.mono (fun _ own => own) fun _ own same => by
    cases own
    cases same

theorem Meets.not_tooLarge (meets : x.Meets result (· ≠ Fault.tooLarge)) :
    x = .error Fault.tooLarge ↔ False :=
  iff_false_intro fun fails => meets.fault _ fails rfl

theorem ok_ne_tooLarge (a : α) : (.ok a : Attempt α) ≠ .error Fault.tooLarge := by
  intro same
  cases same

theorem rejected_ne_tooLarge (faults : List JobFault) :
    (.error (.rejected faults) : Attempt α) ≠ .error Fault.tooLarge := by
  intro same
  cases same

theorem bind_eq_tooLarge {f : α → Attempt β} {oversize : Prop} {rest : List Step}
    (here : x = .error Fault.tooLarge ↔ oversize)
    (next : ∀ a, x = .ok a → (f a = .error Fault.tooLarge ↔ Reaches rest)) :
    x >>= f = .error Fault.tooLarge ↔ Reaches (.of x oversize :: rest) := by
  rw [bind_eq_error, here]
  refine or_congr_right ⟨?_, ?_⟩
  · rintro ⟨a, made, fails⟩
    exact ⟨⟨a, made⟩, (next a made).mp fails⟩
  · rintro ⟨⟨a, made⟩, reaches⟩
    exact ⟨a, made, (next a made).mpr reaches⟩

theorem map_bind_eq_tooLarge {γ : Type} {g : α → β} {f : β → Attempt γ} {oversize : Prop}
    {rest : List Step} (here : x = .error Fault.tooLarge ↔ oversize)
    (next : ∀ b, f b = .error Fault.tooLarge ↔ Reaches rest) :
    g <$> x >>= f = .error Fault.tooLarge ↔ Reaches (.of x oversize :: rest) := by
  rw [bind_map_left]
  exact bind_eq_tooLarge here fun a _ => next (g a)

theorem bind_eq_tooLarge_of_last {f : α → Attempt β} {oversize : Prop}
    (here : x = .error Fault.tooLarge ↔ oversize)
    (next : ∀ a, x = .ok a → f a ≠ .error Fault.tooLarge) :
    x >>= f = .error Fault.tooLarge ↔ Reaches [.of x oversize] :=
  bind_eq_tooLarge here fun a made => iff_false_intro (next a made)

theorem mapM_eq_tooLarge {f : α → Attempt β} {oversize : α → Prop} {xs : List α}
    (each : ∀ a, f a = .error Fault.tooLarge ↔ oversize a) :
    xs.mapM f = .error Fault.tooLarge ↔ Reaches (xs.map fun a => .of (f a) (oversize a)) := by
  induction xs with
  | nil => exact iff_false_intro (ok_ne_tooLarge _)
  | cons a xs ih =>
      rw [List.mapM_cons]
      refine bind_eq_tooLarge (each a) fun b _ => ?_
      rw [← ih, bind_eq_error]
      simp

theorem mapError_eq_tooLarge {g : Fault → Fault} (same : g Fault.tooLarge = Fault.tooLarge)
    (apart : ∀ fault, g fault = Fault.tooLarge → fault = Fault.tooLarge) :
    x.mapError g = .error Fault.tooLarge ↔ x = .error Fault.tooLarge := by
  cases x with
  | ok a => exact iff_of_false (ok_ne_tooLarge _) (ok_ne_tooLarge _)
  | error fault =>
      constructor
      · intro fails
        rw [apart fault (Except.error.inj fails)]
      · intro fails
        cases fails
        exact congrArg _ same

theorem orFault_eq_tooLarge {fault : JobFault} :
    x.orFault fault = .error Fault.tooLarge ↔ x = .error Fault.tooLarge :=
  mapError_eq_tooLarge rfl fun other same => by
    cases other with
    | arithmetic cause => exact same
    | _ => cases same

theorem inJob_eq_tooLarge {locate : Refusal → JobFault} :
    x.inJob locate = .error Fault.tooLarge ↔ x = .error Fault.tooLarge :=
  mapError_eq_tooLarge rfl fun other same => by
    cases other with
    | arithmetic cause => exact same
    | _ => cases same

end Attempt

/-! ## Values and members -/

namespace Json

def IsOversize (value : Json) : Prop :=
  ∃ n : Int, value = .number (.whole n) ∧ Double.threshold ≤ n.natAbs

def Members.HasOversize (members : Members) (name : String) : Prop :=
  ∃ value, members.get? name = some value ∧ value.IsOversize

theorem toDouble?_eq_tooLarge (a : Number) :
    (liftM a.toDouble? : Attempt Double) = .error Fault.tooLarge ↔ (number a).IsOversize := by
  cases a with
  | double x =>
      refine iff_of_false (ok_ne_tooLarge _) ?_
      rintro ⟨n, same, -⟩
      cases same
  | whole n =>
      have oversize : (number (.whole n)).IsOversize ↔ Double.threshold ≤ n.natAbs := by
        constructor
        · rintro ⟨m, same, large⟩
          cases same
          exact large
        · exact fun large => ⟨n, rfl, large⟩
      rw [oversize, ← Nat.not_lt, ← Double.isFinite_ofInt_iff, Number.toDouble?]
      split
      · rename_i finite
        exact iff_of_false (ok_ne_tooLarge _) (not_not_intro finite)
      · rename_i other
        exact ⟨fun _ => other, fun _ => rfl⟩

theorem double?_eq_tooLarge (value : Json) :
    value.double? = .error Fault.tooLarge ↔ value.IsOversize := by
  cases value with
  | number a => exact toDouble?_eq_tooLarge a
  | text numeral =>
      rw [double?]
      constructor
      · split <;> intro fails <;> cases fails
      · rintro ⟨n, same, -⟩
        cases same
  | _ =>
      refine ⟨fun fails => (by cases fails), ?_⟩
      rintro ⟨n, same, -⟩
      cases same

def doubleStep (value : Json) : Step := .of value.double? value.IsOversize

end Json

namespace Part

variable (part : Part) (name : String)

def numberStep? : Step := .of (part.number? name) (part.members.HasOversize name)

def numberStep : Step := .of (part.number name) (part.members.HasOversize name)

theorem number?_eq_tooLarge :
    part.number? name = .error Fault.tooLarge ↔ part.members.HasOversize name := by
  cases found : part.members.get? name with
  | none =>
      have given : part.members.given? name = none := by rw [Json.Members.given?, found]
      rw [number?, given]
      refine iff_of_false (ok_ne_tooLarge _) ?_
      rintro ⟨value, here, -⟩
      rw [found] at here
      cases here
  | some value =>
      have oversize : part.members.HasOversize name ↔ value.IsOversize := by
        simp [Json.Members.HasOversize, found]
      rw [oversize, number?, Json.Members.given?, found]
      have read : (some <$> value.double?).orFault (.notANumber part.place name value) =
          .error Fault.tooLarge ↔ value.IsOversize := by
        rw [Attempt.orFault_eq_tooLarge, Attempt.map_eq_error, Json.double?_eq_tooLarge]
      -- A null is none and a truth value no number; all others are read as doubles.
      cases value with
      | null =>
          refine iff_of_false (ok_ne_tooLarge _) ?_
          rintro ⟨n, same, -⟩
          cases same
      | bool yes =>
          refine iff_of_false (rejected_ne_tooLarge _) ?_
          rintro ⟨n, same, -⟩
          cases same
      | _ => exact read

theorem number_eq_tooLarge :
    part.number name = .error Fault.tooLarge ↔ part.members.HasOversize name := by
  rw [number, Attempt.bind_eq_error, part.number?_eq_tooLarge name]
  refine or_iff_left ?_
  rintro ⟨found, -, fails⟩
  exact (part.required_meets name found).rejection_apart.fault _ fails rfl

end Part

/-! ## Operations -/

namespace Slot

variable (slot : Slot) (part : Part)

def pointSteps (index : Nat) : Json → List Step
  | .object members =>
    let part := Part.mk (.point slot.index index) members
    [part.numberStep "x", part.numberStep "y"]
  | .list (x :: y :: _) => [x.doubleStep, y.doubleStep]
  | _ => []

def pathStep : Step :=
  .of (slot.path part) (match part.members.get? "path" with
    | some (.list points) => Reaches (points.zipIdx.map fun (given, index) =>
        .of (slot.point index given) (Reaches (slot.pointSteps index given)))
    | _ => False)

def entryStep : Step :=
  .of (slot.entry part) (match part.members.get? "entry" with
    | some (.object members) =>
      let part := Part.mk (.entry slot.index) members
      Reaches [part.numberStep? "angle", part.numberStep? "radius"]
    | _ => False)

def taskStep : Step :=
  .of (task part) (Reaches [.of (part.text "tool") False, part.numberStep "depth"])

def steppingStep : Step :=
  .of (stepping part) (Reaches [.of (part.flag "multi_pass") False, part.numberStep? "pass_depth"])

def steps : OperationKind → List Step
  | .drill =>
    [taskStep part, part.numberStep "x", part.numberStep "y", part.numberStep "diameter"]
  | .contour =>
    [taskStep part, steppingStep part, slot.pathStep part, .of (part.flag "closed") False,
      slot.entryStep part]
  | .closedPocket => [taskStep part, steppingStep part, slot.pathStep part, slot.entryStep part]
  | .openPocket =>
    [taskStep part, steppingStep part, slot.pathStep part, part.numberStep? "width"]

theorem point_eq_tooLarge (index : Nat) (given : Json) :
    slot.point index given = .error Fault.tooLarge ↔ Reaches (slot.pointSteps index given) := by
  have pair {x y : Attempt Double} {first second : Prop}
      (left : x = .error Fault.tooLarge ↔ first) (right : y = .error Fault.tooLarge ↔ second) :
      (do return (Json.ofDouble (← x), Json.ofDouble (← y)) : Attempt (Json × Json)) =
        .error Fault.tooLarge ↔ Reaches [.of x first, .of y second] :=
    bind_eq_tooLarge left fun a _ => bind_eq_tooLarge_of_last right fun b _ => ok_ne_tooLarge _
  cases given with
  | object members => exact pair (Part.number_eq_tooLarge _ _) (Part.number_eq_tooLarge _ _)
  | list items =>
      cases items with
      | nil => exact iff_of_false (rejected_ne_tooLarge _) not_false
      | cons x items =>
          cases items with
          | nil => exact iff_of_false (rejected_ne_tooLarge _) not_false
          | cons y items =>
              exact Attempt.orFault_eq_tooLarge.trans
                (pair (Json.double?_eq_tooLarge x) (Json.double?_eq_tooLarge y))
  | _ => exact iff_of_false (rejected_ne_tooLarge _) not_false

theorem path_eq_tooLarge :
    slot.path part = .error Fault.tooLarge ↔ (slot.pathStep part).oversize := by
  rw [path, pathStep, Step.of]
  cases part.members.get? "path" with
  | none => exact iff_of_false (rejected_ne_tooLarge _) id
  | some value =>
      cases value with
      | list points => exact mapM_eq_tooLarge fun entry => slot.point_eq_tooLarge entry.2 entry.1
      | _ => exact iff_of_false (rejected_ne_tooLarge _) id

theorem object?_cases (name : String) :
    (∃ members, part.members.get? name = some (.object members) ∧
        object? part name = .ok (some members)) ∨
      (∀ members, part.members.get? name = some (.object members) → members = []) ∧
        (object? part name).Meets (· = none) Fault.IsRejection := by
  rw [object?]
  cases part.members.get? name with
  | none => exact .inr ⟨fun _ found => (by cases found), meets_pure rfl⟩
  | some value =>
      dsimp only
      split
      · rename_i void
        refine .inr ⟨?_, meets_pure rfl⟩
        rintro members same
        cases same
        exact List.isEmpty_iff.mp void
      · cases value with
        | object members => exact .inl ⟨members, rfl, rfl⟩
        | _ => exact .inr ⟨fun _ found => (by cases found), meets_throw (.one _)⟩

theorem entry_eq_tooLarge :
    slot.entry part = .error Fault.tooLarge ↔ (slot.entryStep part).oversize := by
  rw [entry, entryStep, Step.of]
  rcases object?_cases part "entry" with ⟨members, found, read⟩ | ⟨empty, absent⟩
  · rw [found, read]
    refine bind_eq_tooLarge (Part.number?_eq_tooLarge _ _) fun angle _ => ?_
    refine bind_eq_tooLarge_of_last (Part.number?_eq_tooLarge _ _) fun radius _ fails => ?_
    exact (Entry.ofDraft_meets ⟨angle, rfl⟩ ⟨radius, rfl⟩).apart.fault _
      (Attempt.map_eq_error.mp fails) rfl
  · have silent : (slot.entry part).Meets (fun _ => True) (· ≠ Fault.tooLarge) := by
      rw [entry]
      refine absent.rejection_apart.bind fun found same => ?_
      cases same
      exact meets_pure trivial
    refine iff_of_false (fun fails => silent.fault _ fails rfl) ?_
    split
    · rename_i members found
      rw [empty members found]
      simp [Reaches, Part.numberStep?, Step.of, Json.Members.HasOversize, Json.Members.get?]
    · exact id

theorem task_eq_tooLarge : task part = .error Fault.tooLarge ↔ (taskStep part).oversize :=
  bind_eq_tooLarge (part.text_meets "tool").rejection_apart.not_tooLarge fun _ _ =>
    bind_eq_tooLarge_of_last (part.number_eq_tooLarge "depth") fun _ _ => ok_ne_tooLarge _

theorem stepping_eq_tooLarge :
    stepping part = .error Fault.tooLarge ↔ (steppingStep part).oversize :=
  bind_eq_tooLarge (part.flag_meets "multi_pass").rejection_apart.not_tooLarge fun _ _ =>
    bind_eq_tooLarge_of_last (part.number?_eq_tooLarge "pass_depth") fun _ _ => ok_ne_tooLarge _

theorem drill_eq_tooLarge :
    drill part = .error Fault.tooLarge ↔ Reaches (slot.steps part .drill) := by
  refine bind_eq_tooLarge (task_eq_tooLarge part) fun task made => ?_
  have depth := (task_meets part).result task made
  refine bind_eq_tooLarge (part.number_eq_tooLarge "x") fun x _ => ?_
  refine bind_eq_tooLarge (part.number_eq_tooLarge "y") fun y _ => ?_
  refine bind_eq_tooLarge_of_last (part.number_eq_tooLarge "diameter") fun diameter _ fails => ?_
  exact ((part.flag_meets "through").rejection_apart.bind fun through _ =>
    (Drill.ofDraft_meets depth ⟨x, rfl⟩ ⟨y, rfl⟩ ⟨diameter, rfl⟩).apart).fault _ fails rfl

theorem exit_apart : (slot.exit part).Meets (fun _ => True) (· ≠ Fault.tooLarge) := by
  refine (object?_meets part "exit").rejection_apart.bind fun found _ => ?_
  cases found with
  | none => exact meets_pure trivial
  | some members => exact (Exit.ofGiven_meets _).apart.map fun _ _ => trivial

theorem contour_eq_tooLarge :
    slot.contour part = .error Fault.tooLarge ↔ Reaches (slot.steps part .contour) := by
  refine bind_eq_tooLarge (task_eq_tooLarge part) fun task made => ?_
  have depth := (task_meets part).result task made
  refine bind_eq_tooLarge (stepping_eq_tooLarge part) fun stepping made => ?_
  have passDepth := (stepping_meets part).result stepping made
  refine bind_eq_tooLarge (slot.path_eq_tooLarge part) fun path made => ?_
  have doubles := (slot.path_meets part).result path made
  refine bind_eq_tooLarge (part.flag_meets "closed").rejection_apart.not_tooLarge fun closed _ => ?_
  refine bind_eq_tooLarge_of_last (slot.entry_eq_tooLarge part) fun entry _ fails => ?_
  exact ((slot.exit_apart part).bind fun exit _ =>
    (Contour.ofDraft_meets depth doubles passDepth).apart).fault _ fails rfl

theorem closedPocket_eq_tooLarge :
    slot.closedPocket part = .error Fault.tooLarge ↔ Reaches (slot.steps part .closedPocket) := by
  refine bind_eq_tooLarge (task_eq_tooLarge part) fun task made => ?_
  have depth := (task_meets part).result task made
  refine bind_eq_tooLarge (stepping_eq_tooLarge part) fun stepping made => ?_
  have passDepth := (stepping_meets part).result stepping made
  refine bind_eq_tooLarge (slot.path_eq_tooLarge part) fun path made => ?_
  have doubles := (slot.path_meets part).result path made
  refine bind_eq_tooLarge_of_last (slot.entry_eq_tooLarge part) fun entry _ fails => ?_
  exact (ClosedPocket.ofDraft_meets depth doubles passDepth).apart.fault _ fails rfl

theorem openPocket_eq_tooLarge :
    slot.openPocket part = .error Fault.tooLarge ↔ Reaches (slot.steps part .openPocket) := by
  refine bind_eq_tooLarge (task_eq_tooLarge part) fun task made => ?_
  have depth := (task_meets part).result task made
  refine bind_eq_tooLarge (stepping_eq_tooLarge part) fun stepping made => ?_
  have passDepth := (stepping_meets part).result stepping made
  refine bind_eq_tooLarge (slot.path_eq_tooLarge part) fun path made => ?_
  have doubles := (slot.path_meets part).result path made
  refine bind_eq_tooLarge_of_last (part.number?_eq_tooLarge "width") fun width _ fails => ?_
  exact (OpenPocket.ofDraft_meets depth doubles passDepth ⟨_, rfl⟩).apart.fault _ fails rfl

theorem ofKind_eq_tooLarge (kind : OperationKind) :
    slot.ofKind part kind = .error Fault.tooLarge ↔ Reaches (slot.steps part kind) := by
  cases kind with
  | drill => exact Attempt.map_eq_error.trans (slot.drill_eq_tooLarge part)
  | contour => exact Attempt.map_eq_error.trans (slot.contour_eq_tooLarge part)
  | closedPocket => exact Attempt.map_eq_error.trans (slot.closedPocket_eq_tooLarge part)
  | openPocket => exact Attempt.map_eq_error.trans (slot.openPocket_eq_tooLarge part)

end Slot

namespace Operation

def ReachesOversize (index : Int) : Json → Prop
  | .object members =>
    ∃ kind ∈ OperationKind.ofMembers? members,
      Reaches ((Slot.mk index).steps ⟨.operation index, members⟩ kind)
  | _ => False

theorem ofJson_eq_tooLarge (index : Int) (given : Json) :
    ofJson index given = .error Fault.tooLarge ↔ ReachesOversize index given := by
  cases given with
  | object members =>
      rw [ofJson, ReachesOversize]
      cases OperationKind.ofMembers? members with
      | none => exact iff_of_false (rejected_ne_tooLarge _) (by simp)
      | some kind =>
          dsimp only
          rw [Attempt.inJob_eq_tooLarge, Slot.ofKind_eq_tooLarge]
          simp
  | _ => exact iff_of_false (rejected_ne_tooLarge _) id

theorem listOfJson_cons_eq_tooLarge (index : Int) (value : Json) (rest : List Json) :
    listOfJson index (value :: rest) = .error Fault.tooLarge ↔
      ofJson index value = .error Fault.tooLarge ∨
        listOfJson (index + 1) rest = .error Fault.tooLarge := by
  -- All operations are read, so a later one ends the reading even behind one that has failed.
  have here := (ofJson_meets index value).fault
  have others := (listOfJson_meets (index + 1) rest).fault
  cases later : listOfJson (index + 1) rest with
  | ok operations =>
      cases first : ofJson index value with
      | ok operation =>
          rw [listOfJson, first, later]
          simp
      | error fault =>
          cases here fault first <;> rw [listOfJson, first, later] <;> simp
  | error other =>
      cases first : ofJson index value with
      | ok operation =>
          rw [listOfJson, first, later]
          simp
      | error fault =>
          cases here fault first <;> cases others other later <;>
            rw [listOfJson, first, later] <;> simp

theorem listOfJson_eq_tooLarge (index : Nat) (given : List Json) :
    listOfJson index given = .error Fault.tooLarge ↔
      ∃ entry ∈ given.zipIdx index, ReachesOversize entry.2 entry.1 := by
  induction given generalizing index with
  | nil => exact iff_of_false (ok_ne_tooLarge _) (by simp)
  | cons value rest ih =>
      have next := ih (index + 1)
      rw [Int.natCast_succ] at next
      rw [listOfJson_cons_eq_tooLarge, ofJson_eq_tooLarge, next, List.zipIdx_cons]
      simp

end Operation

/-! ## Tools, panels and machines -/

def Tool.steps (index : Int) : Json → List Step
  | .object members =>
    let part := Part.mk (.tool index) members
    [.of (part.text "id") False, .of (part.text "kind") False, part.numberStep "diameter",
      part.numberStep "spindle_speed", part.numberStep "feed_rate", part.numberStep? "plunge_rate",
      part.numberStep? "max_depth"]
  | _ => []

theorem Tool.ofJson_eq_tooLarge (index : Int) (given : Json) :
    Tool.ofJson index given = .error Fault.tooLarge ↔ Reaches (Tool.steps index given) := by
  cases given with
  | object members =>
      rw [Tool.ofJson, Attempt.inJob_eq_tooLarge]
      refine bind_eq_tooLarge (Part.text_meets _ _).rejection_apart.not_tooLarge fun id _ => ?_
      refine bind_eq_tooLarge (Part.text_meets _ _).rejection_apart.not_tooLarge fun kind _ => ?_
      refine bind_eq_tooLarge (Part.number_eq_tooLarge _ _) fun diameter _ => ?_
      refine bind_eq_tooLarge (Part.number_eq_tooLarge _ _) fun spindleSpeed _ => ?_
      refine bind_eq_tooLarge (Part.number_eq_tooLarge _ _) fun feedRate _ => ?_
      refine bind_eq_tooLarge (Part.number?_eq_tooLarge _ _) fun plungeRate _ => ?_
      refine bind_eq_tooLarge_of_last (Part.number?_eq_tooLarge _ _) fun maxDepth _ fails => ?_
      exact (Tool.ofDraft_meets ⟨_, rfl⟩ ⟨_, rfl⟩ ⟨_, rfl⟩ ⟨_, rfl⟩ ⟨_, rfl⟩).apart.fault _
        fails rfl
  | _ => exact iff_of_false (rejected_ne_tooLarge _) not_false

namespace Panel

def steps : Json → List Step
  | .object members =>
    match dimensions members with
    | .ok sizes =>
      let sizes := Part.mk .dimensions sizes
      [sizes.numberStep "length", sizes.numberStep "width", sizes.numberStep "thickness",
        (Part.mk .panel members).numberStep? "z_offset"]
    | .error _ => []
  | _ => []

theorem ofJson_eq_tooLarge (given : Json) :
    ofJson given = .error Fault.tooLarge ↔ Reaches (steps given) := by
  cases given with
  | object members =>
      rw [ofJson, steps]
      cases read : dimensions members with
      | error fault =>
          refine iff_of_false (fun fails => ?_) id
          exact (dimensions_meets members).rejection_apart.fault fault read (Except.error.inj fails)
      | ok sizes =>
          refine bind_eq_tooLarge (Part.number_eq_tooLarge _ _) fun length _ => ?_
          refine bind_eq_tooLarge (Part.number_eq_tooLarge _ _) fun width _ => ?_
          refine bind_eq_tooLarge (Part.number_eq_tooLarge _ _) fun thickness _ => ?_
          refine bind_eq_tooLarge_of_last (Part.number?_eq_tooLarge _ _) fun zOffset _ fails => ?_
          exact (Panel.ofDraft_meets ⟨_, rfl⟩ ⟨_, rfl⟩ ⟨_, rfl⟩ ⟨_, rfl⟩).apart.fault _
            (Attempt.inJob_eq_tooLarge.mp fails) rfl
  | _ => exact iff_of_false (rejected_ne_tooLarge _) id

end Panel

namespace Profile

def numberStep (members : Json.Members) (name : String) (base : PositiveNumber) : Step :=
  .of ((members.get? name).getD (.number base.val)).double? (members.HasOversize name)

def steps (members : Json.Members) (base : Profile) : List Step :=
  [numberStep members "safe_height" base.safeHeight,
    numberStep members "spindle_speed" base.spindleSpeed,
    numberStep members "feed_rate" base.feedRate,
    numberStep members "plunge_rate" base.plungeRate]

theorem number_eq_tooLarge (members : Json.Members) (name : String) (base : PositiveNumber) :
    ((members.get? name).getD (.number base.val)).double? = .error Fault.tooLarge ↔
      (numberStep members name base).oversize := by
  rw [Json.double?_eq_tooLarge, numberStep, Step.of]
  cases found : members.get? name with
  | some value => simp [Json.Members.HasOversize, found]
  | none =>
      refine iff_of_false ?_ (by simp [Json.Members.HasOversize, found])
      rintro ⟨n, same, large⟩
      have finite := base.property.1
      rw [show base.val = .whole n from Json.number.inj same] at finite
      exact absurd ((Double.isFinite_ofInt_iff n).mp finite) (Nat.not_lt.mpr large)

theorem readDraft_eq_tooLarge (members : Json.Members) (base : Profile) :
    readDraft members base.toDraft = .error Fault.tooLarge ↔ Reaches (steps members base) := by
  have flag (value : Json) : (do return .bool (← value.flag?) : Attempt Json).Meets
      (fun _ => True) (· ≠ Fault.tooLarge) := by
    cases read : value.flag? with
    | ok yes => exact meets_pure trivial
    | error cause => exact meets_throw fun same => by cases same
  refine map_bind_eq_tooLarge (number_eq_tooLarge members _ base.safeHeight) fun safeHeight => ?_
  refine map_bind_eq_tooLarge (number_eq_tooLarge members _ base.spindleSpeed) fun speed => ?_
  refine map_bind_eq_tooLarge (number_eq_tooLarge members _ base.feedRate) fun feedRate => ?_
  refine map_bind_eq_tooLarge (number_eq_tooLarge members _ base.plungeRate) fun plungeRate => ?_
  refine iff_false_intro fun fails => ?_
  exact ((flag _).bind fun _ _ => (flag _).bind fun _ _ => meets_pure trivial :
    Meets _ (fun _ => True) _).fault _ fails rfl

theorem ofMembers_eq_tooLarge (members : Json.Members) (base : Profile) :
    (ofMembers members base).outcome = .error Fault.tooLarge ↔ Reaches (steps members base) := by
  have settles : settled (readDraft members base.toDraft) = .error Fault.tooLarge ↔
      Reaches (steps members base) := by
    rw [← readDraft_eq_tooLarge]
    exact mapError_eq_tooLarge rfl fun other same => by
      cases other with
      | arithmetic cause => exact same
      | _ => cases same
  rw [ofMembers, Traced.outcome_bind, Traced.outcome_lift, Attempt.bind_eq_error, settles]
  -- The draft holds doubles by now, which are refused at worst.
  refine or_iff_left ?_
  rintro ⟨draft, made, fails⟩
  have doubles : draft.OfDoubles := by
    refine ((readDraft_meets members base.toDraft).mapError fun e _ => trivial :
      (settled (readDraft members base.toDraft)).Meets Draft.OfDoubles fun _ => True).result
        draft made
  exact (ofDraft_meets doubles.safeHeight doubles.spindleSpeed doubles.feedRate
    doubles.plungeRate).apart.fault _ fails rfl

end Profile

/-! ## Jobs -/

namespace Job

def steps (members : Json.Members) (default : Profile) : List Step :=
  let panel := Json.ofOption (members.get? "panel")
  [.of (Panel.ofJson panel) (Reaches (Panel.steps panel)),
    .of (operations? members) (∃ given, members.get? "operations" = some (.list given) ∧
      ∃ entry ∈ given.zipIdx, Operation.ReachesOversize entry.2 entry.1),
    .of (catalog? members) (∃ given, members.given? "tools" = some (.list given) ∧
      Reaches (given.zipIdx.map fun entry =>
        .of (Tool.ofJson entry.2 entry.1) (Reaches (Tool.steps entry.2 entry.1)))),
    .of (profile? members default).outcome
      (∃ machine, members.given? "machine" = some (.object machine) ∧
        Reaches (Profile.steps machine default))]

def ReachesOversize (given : Json) (default : Profile) : Prop :=
  match given with
  | .object members => Reaches (steps members default)
  | _ => False

variable (members : Json.Members)

theorem operations?_eq_tooLarge :
    operations? members = .error Fault.tooLarge ↔
      ∃ given, members.get? "operations" = some (.list given) ∧
        ∃ entry ∈ given.zipIdx, Operation.ReachesOversize entry.2 entry.1 := by
  rw [operations?]
  cases members.get? "operations" with
  | none => exact iff_of_false (ok_ne_tooLarge _) (by simp)
  | some value =>
      cases value with
      | list given =>
          have list := Operation.listOfJson_eq_tooLarge 0 given
          simpa using list
      | _ => exact iff_of_false (rejected_ne_tooLarge _) (by simp)

theorem catalog?_eq_tooLarge :
    catalog? members = .error Fault.tooLarge ↔
      ∃ given, members.given? "tools" = some (.list given) ∧
        Reaches (given.zipIdx.map fun entry =>
          .of (Tool.ofJson entry.2 entry.1) (Reaches (Tool.steps entry.2 entry.1))) := by
  rw [catalog?]
  cases members.given? "tools" with
  | none => exact iff_of_false (ok_ne_tooLarge _) (by simp)
  | some value =>
      cases value with
      | list given =>
          have tools : Tool.listOfJson given = .error Fault.tooLarge ↔ _ :=
            mapM_eq_tooLarge fun entry : Json × Nat => Tool.ofJson_eq_tooLarge entry.2 entry.1
          have checks (tools : List Tool) :
              Attempt.inJob (Catalog.ofTools? tools : Attempt Catalog) .catalogRefused ≠
                .error Fault.tooLarge := by
            cases Catalog.ofTools? tools <;> intro fails <;> cases fails
          simp only [Attempt.bind_eq_error, tools, checks, and_false, exists_false, or_false,
            Option.some.injEq, Json.list.injEq, exists_eq_left']
      | _ => exact iff_of_false (rejected_ne_tooLarge _) (by simp)

theorem profile?_eq_tooLarge (default : Profile) :
    (profile? members default).outcome = .error Fault.tooLarge ↔
      ∃ machine, members.given? "machine" = some (.object machine) ∧
        Reaches (Profile.steps machine default) := by
  rw [profile?]
  cases members.given? "machine" with
  | none => exact iff_of_false (ok_ne_tooLarge _) (by simp)
  | some value =>
      cases value with
      | object machine =>
          have own := Profile.ofMembers_eq_tooLarge machine default
          simp only [Option.some.injEq, Json.object.injEq, exists_eq_left', ← own]
          exact Attempt.inJob_eq_tooLarge
      | _ => exact iff_of_false (rejected_ne_tooLarge _) (by simp)

theorem ofJson_eq_tooLarge (given : Json) (default : Profile) :
    (ofJson given default).outcome = .error Fault.tooLarge ↔ ReachesOversize given default := by
  cases given with
  | object members =>
      simp only [ofJson, Traced.outcome_bind, Traced.outcome_lift, Traced.outcome_pure]
      refine bind_eq_tooLarge (Panel.ofJson_eq_tooLarge _) fun panel _ => ?_
      refine bind_eq_tooLarge (operations?_eq_tooLarge members) fun operations _ => ?_
      refine bind_eq_tooLarge (catalog?_eq_tooLarge members) fun catalog _ => ?_
      exact bind_eq_tooLarge_of_last (profile?_eq_tooLarge members default) fun _ _ =>
        ok_ne_tooLarge _
  | _ => exact iff_of_false (rejected_ne_tooLarge _) id

/-- Reading a job gives the job or its faults, unless it comes to a whole number that is too large;
then it ends there. The value given may be any, also one that no text is read to because a whole
number in it has more than `Numeral.digitLimit` digits. A message about such a number shows all its
digits: the limit is one of reading only. -/
theorem ofJson_outcome (given : Json) (default : Profile) :
    (((∃ job, (ofJson given default).outcome = .ok job) ∨
        ∃ faults, (ofJson given default).outcome = .error (.rejected faults)) ↔
      ¬ReachesOversize given default) ∧
    (ReachesOversize given default →
      (ofJson given default).outcome = .error (.arithmetic .wholeTooLarge)) := by
  rw [← ofJson_eq_tooLarge]
  refine ⟨?_, id⟩
  cases outcome : (ofJson given default).outcome with
  | ok job => exact iff_of_true (.inl ⟨job, rfl⟩) (ok_ne_tooLarge _)
  | error fault =>
      have own := (ofJson_meets given default).fault fault outcome
      cases own with
      | rejected faults => exact iff_of_true (.inr ⟨faults, rfl⟩) (rejected_ne_tooLarge _)
      | tooLarge =>
          refine iff_of_false ?_ (not_not_intro rfl)
          rintro (⟨job, other⟩ | ⟨faults, other⟩) <;> cases other

end Job

def Sample.longPanel : Json :=
  .object [("panel", .object [("dimensions", .object
    [("length", .number (.whole Double.threshold))])])]

theorem Job.ofJson_outcome_of_sample :
    (Job.ofJson Sample.longPanel .standard).outcome = .error (.arithmetic .wholeTooLarge) ∧
      ¬((∃ job, (Job.ofJson Sample.longPanel .standard).outcome = .ok job) ∨
        ∃ faults, (Job.ofJson Sample.longPanel .standard).outcome = .error (.rejected faults)) := by
  have reaches : Job.ReachesOversize Sample.longPanel .standard :=
    .inl (.inl ⟨_, rfl, Double.threshold, rfl, Nat.le_refl _⟩)
  have spec := Job.ofJson_outcome Sample.longPanel .standard
  exact ⟨spec.2 reaches, fun fine => spec.1.mp fine reaches⟩

end Millwork
