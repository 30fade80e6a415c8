import Millwork.Proofs.Job.Drafts

namespace Millwork

namespace Fault

abbrev tooLarge : Fault := .arithmetic .wholeTooLarge

inductive IsRejection : Fault → Prop
  | rejected (faults : List JobFault) (nonempty : faults ≠ [] := by exact List.cons_ne_nil _ _) :
    IsRejection (.rejected faults)

inductive OfValue : Fault → Prop
  | unreadable (cause : Unreadable) : OfValue (.unreadable cause)
  | tooLarge : OfValue tooLarge

/-- What reading a part of a job can end in, while a record still speaks for itself. -/
inductive OfRecord : Fault → Prop
  | refused (refusal : Refusal) : OfRecord (.refused refusal)
  | rejected (faults : List JobFault) (nonempty : faults ≠ [] := by exact List.cons_ne_nil _ _) :
    OfRecord (.rejected faults)
  | tooLarge : OfRecord tooLarge

inductive OfJob : Fault → Prop
  | rejected (faults : List JobFault) (nonempty : faults ≠ [] := by exact List.cons_ne_nil _ _) :
    OfJob (.rejected faults)
  | tooLarge : OfJob tooLarge

theorem IsRejection.one (fault : JobFault) : IsRejection (.rejected [fault]) :=
  .rejected _ (List.cons_ne_nil _ _)

theorem OfJob.one (fault : JobFault) : OfJob (.rejected [fault]) :=
  .rejected _ (List.cons_ne_nil _ _)

theorem IsRejection.ofJob {fault : Fault} (own : fault.IsRejection) : fault.OfJob := by
  cases own with
  | rejected faults nonempty => exact .rejected faults nonempty

theorem OfJob.ofRecord {fault : Fault} (own : fault.OfJob) : fault.OfRecord := by
  cases own with
  | rejected faults nonempty => exact .rejected faults nonempty
  | tooLarge => exact .tooLarge

theorem IsRefusal.ofRecord {fault : Fault} (own : fault.IsRefusal) : fault.OfRecord := by
  cases own with
  | refused refusal => exact .refused refusal

end Fault

namespace Attempt

variable {α : Type} {x : Attempt α} {result : α → Prop}

theorem Meets.orFault (meets : x.Meets result Fault.OfValue) (fault : JobFault) :
    (x.orFault fault).Meets result Fault.OfJob :=
  meets.mapError fun e own => by
    cases own with
    | unreadable cause => exact .one _
    | tooLarge => exact .tooLarge

theorem Meets.inJob (meets : x.Meets result Fault.OfRecord) (locate : Refusal → JobFault) :
    (x.inJob locate).Meets result Fault.OfJob :=
  meets.mapError fun e own => by
    cases own with
    | refused refusal => exact .one _
    | rejected faults nonempty => exact .rejected faults nonempty
    | tooLarge => exact .tooLarge

theorem Meets.ofJob (meets : x.Meets result Fault.IsRejection) : x.Meets result Fault.OfJob :=
  meets.mono (fun _ own => own) fun _ own => own.ofJob

theorem Meets.ofRecord (meets : x.Meets result Fault.OfJob) : x.Meets result Fault.OfRecord :=
  meets.mono (fun _ own => own) fun _ own => own.ofRecord

theorem Meets.ofDraft (meets : x.Meets result Fault.IsRefusal) : x.Meets result Fault.OfRecord :=
  meets.mono (fun _ own => own) fun _ own => own.ofRecord

end Attempt

open Attempt

/-! ## Values and members -/

theorem Number.toDouble?_meets (a : Number) :
    (liftM a.toDouble? : Attempt Double).Meets (fun _ => True) Fault.OfValue := by
  cases a with
  | whole n =>
      rw [toDouble?]
      split
      · exact meets_pure trivial
      · exact meets_throw .tooLarge
  | double x => exact meets_pure trivial

theorem Json.double?_meets (value : Json) :
    value.double?.Meets (fun _ => True) Fault.OfValue := by
  cases value with
  | number a => exact a.toDouble?_meets
  | bool yes => exact meets_pure trivial
  | text numeral =>
      rw [double?]
      split
      · exact meets_pure trivial
      · exact meets_throw (.unreadable _)
  | _ => exact meets_throw (.unreadable _)

theorem Json.flag?_meets (value : Json) :
    (liftM value.flag? : Attempt Bool).Meets (fun _ => True) Fault.OfValue := by
  cases value.flag? with
  | ok yes => exact meets_pure trivial
  | error cause => exact meets_throw (.unreadable cause)

namespace Part

variable (part : Part) (name : String)

theorem required_meets {α : Type} (found : Option α) :
    (part.required name found).Meets (fun _ => True) Fault.IsRejection := by
  cases found with
  | none => exact meets_throw (.one _)
  | some a => exact meets_pure trivial

theorem number?_meets : (part.number? name).Meets (fun _ => True) Fault.OfJob := by
  rw [number?]
  cases part.members.given? name with
  | none => exact meets_pure trivial
  | some value =>
      have read : ((some <$> value.double?).orFault
          (.notANumber part.place name value)).Meets (fun _ => True) Fault.OfJob :=
        (value.double?_meets.map fun _ _ => trivial).orFault _
      cases value with
      | bool yes => exact meets_throw (.one _)
      | _ => exact read

theorem number_meets : (part.number name).Meets (fun _ => True) Fault.OfJob :=
  (part.number?_meets name).bind fun found _ => (part.required_meets name found).ofJob

theorem text_meets : (part.text name).Meets (fun _ => True) Fault.IsRejection :=
  part.required_meets name _

theorem flag_meets : (part.flag name).Meets (fun _ => True) Fault.IsRejection := by
  rw [flag]
  cases part.members.given? name with
  | none => exact meets_pure trivial
  | some value =>
      dsimp only
      cases value.flag? with
      | ok yes => exact meets_pure trivial
      | error cause => exact meets_throw (.one _)

end Part

/-! ## Operations -/

namespace Slot

variable (slot : Slot) (part : Part)

theorem point_meets (index : Nat) (given : Json) :
    (slot.point index given).Meets (fun pair => pair.1.IsDouble ∧ pair.2.IsDouble)
      Fault.OfJob := by
  have pair {x y : Attempt Double} {fault : Fault → Prop} (first : x.Meets (fun _ => True) fault)
      (second : y.Meets (fun _ => True) fault) :
      (do return (Json.ofDouble (← x), Json.ofDouble (← y)) : Attempt (Json × Json)).Meets
        (fun pair => pair.1.IsDouble ∧ pair.2.IsDouble) fault :=
    first.bind fun a _ => second.bind fun b _ => meets_pure ⟨⟨a, rfl⟩, b, rfl⟩
  unfold point
  split
  · exact pair (Part.number_meets _ _) (Part.number_meets _ _)
  · exact (pair (Json.double?_meets _) (Json.double?_meets _)).orFault _
  · exact meets_throw (.one _)

theorem path_meets : (slot.path part).Meets AreDoubles Fault.OfJob := by
  rw [path]
  split
  · exact meets_mapM fun entry _ => slot.point_meets _ _
  · exact meets_throw (.one _)

theorem object?_meets (name : String) :
    (object? part name).Meets (fun _ => True) Fault.IsRejection := by
  rw [object?]
  cases part.members.get? name with
  | none => exact meets_pure trivial
  | some value =>
      dsimp only
      split
      · exact meets_pure trivial
      · cases value with
        | object members => exact meets_pure trivial
        | _ => exact meets_throw (.one _)

theorem entry_meets : (slot.entry part).Meets (fun _ => True) Fault.OfRecord := by
  refine (object?_meets part "entry").ofJob.ofRecord.bind fun found _ => ?_
  cases found with
  | none => exact meets_pure trivial
  | some members =>
      refine (Part.number?_meets _ _).ofRecord.bind fun angle _ => ?_
      refine (Part.number?_meets _ _).ofRecord.bind fun radius _ => ?_
      exact (Entry.ofDraft_meets ⟨angle, rfl⟩ ⟨radius, rfl⟩).ofDraft.map fun _ _ => trivial

theorem exit_meets : (slot.exit part).Meets (fun _ => True) Fault.OfRecord := by
  refine (object?_meets part "exit").ofJob.ofRecord.bind fun found _ => ?_
  cases found with
  | none => exact meets_pure trivial
  | some members => exact (Exit.ofGiven_meets _).ofDraft.map fun _ _ => trivial

theorem task_meets : (task part).Meets (fun draft => draft.depth.IsDouble) Fault.OfJob :=
  (part.text_meets "tool").ofJob.bind fun _ _ =>
    (part.number_meets "depth").bind fun depth _ => meets_pure ⟨depth, rfl⟩

theorem stepping_meets :
    (stepping part).Meets (fun draft => draft.passDepth.MayBeDouble) Fault.OfJob :=
  (part.flag_meets "multi_pass").ofJob.bind fun _ _ =>
    (part.number?_meets "pass_depth").bind fun passDepth _ => meets_pure ⟨passDepth, rfl⟩

theorem drill_meets :
    (drill part).Meets (fun task => (Operation.drill task).OfDoubles) Fault.OfRecord := by
  refine (task_meets part).ofRecord.bind fun task depth => ?_
  refine (part.number_meets "x").ofRecord.bind fun x _ => ?_
  refine (part.number_meets "y").ofRecord.bind fun y _ => ?_
  refine (part.number_meets "diameter").ofRecord.bind fun diameter _ => ?_
  refine (part.flag_meets "through").ofJob.ofRecord.bind fun through _ => ?_
  exact (Drill.ofDraft_meets depth ⟨x, rfl⟩ ⟨y, rfl⟩ ⟨diameter, rfl⟩).ofDraft

theorem contour_meets :
    (slot.contour part).Meets (fun task => (Operation.contour task).OfDoubles) Fault.OfRecord := by
  refine (task_meets part).ofRecord.bind fun task depth => ?_
  refine (stepping_meets part).ofRecord.bind fun stepping passDepth => ?_
  refine (slot.path_meets part).ofRecord.bind fun path doubles => ?_
  refine (part.flag_meets "closed").ofJob.ofRecord.bind fun closed _ => ?_
  refine (slot.entry_meets part).bind fun entry _ => ?_
  refine (slot.exit_meets part).bind fun exit _ => ?_
  exact (Contour.ofDraft_meets depth doubles passDepth).ofDraft

theorem closedPocket_meets :
    (slot.closedPocket part).Meets (fun task => (Operation.closedPocket task).OfDoubles)
      Fault.OfRecord := by
  refine (task_meets part).ofRecord.bind fun task depth => ?_
  refine (stepping_meets part).ofRecord.bind fun stepping passDepth => ?_
  refine (slot.path_meets part).ofRecord.bind fun path doubles => ?_
  refine (slot.entry_meets part).bind fun entry _ => ?_
  exact (ClosedPocket.ofDraft_meets depth doubles passDepth).ofDraft

theorem openPocket_meets :
    (slot.openPocket part).Meets (fun task => (Operation.openPocket task).OfDoubles)
      Fault.OfRecord := by
  refine (task_meets part).ofRecord.bind fun task depth => ?_
  refine (stepping_meets part).ofRecord.bind fun stepping passDepth => ?_
  refine (slot.path_meets part).ofRecord.bind fun path doubles => ?_
  refine (part.number?_meets "width").ofRecord.bind fun width _ => ?_
  exact (OpenPocket.ofDraft_meets depth doubles passDepth ⟨_, rfl⟩).ofDraft

theorem ofKind_meets (kind : OperationKind) :
    (slot.ofKind part kind).Meets Operation.OfDoubles Fault.OfRecord := by
  cases kind with
  | drill => exact (drill_meets part).map fun _ doubles => doubles
  | contour => exact (slot.contour_meets part).map fun _ doubles => doubles
  | closedPocket => exact (slot.closedPocket_meets part).map fun _ doubles => doubles
  | openPocket => exact (slot.openPocket_meets part).map fun _ doubles => doubles

end Slot

namespace Operation

theorem ofJson_meets (index : Int) (given : Json) :
    (ofJson index given).Meets OfDoubles Fault.OfJob := by
  cases given with
  | object members =>
      rw [ofJson]
      cases OperationKind.ofMembers? members with
      | none => exact meets_throw (.one _)
      | some kind => exact (Slot.ofKind_meets ⟨index⟩ _ kind).inJob _
  | _ => exact meets_throw (.one _)

theorem listOfJson_meets (index : Int) (given : List Json) :
    (listOfJson index given).Meets (fun operations => ∀ operation ∈ operations, operation.OfDoubles)
      Fault.OfJob := by
  -- Every operation is read, also behind one that has failed, and the faults are gathered.
  induction given generalizing index with
  | nil =>
      refine meets_pure fun operation mem => ?_
      cases mem
  | cons value rest ih =>
      have here := ofJson_meets index value
      have others := ih (index + 1)
      cases later : listOfJson (index + 1) rest with
      | ok operations =>
          have own := others.result _ later
          cases first : ofJson index value with
          | ok operation =>
              rw [listOfJson, first, later]
              exact meets_pure (List.forall_mem_cons.mpr ⟨here.result _ first, own⟩)
          | error fault =>
              have fault' := here.fault _ first
              cases fault' with
              | rejected faults nonempty =>
                  rw [listOfJson, first, later]
                  exact meets_throw (.rejected faults nonempty)
              | tooLarge =>
                  rw [listOfJson, first, later]
                  exact meets_throw .tooLarge
      | error other =>
          have own := others.fault _ later
          cases first : ofJson index value with
          | ok operation =>
              rw [listOfJson, first, later]
              exact meets_throw own
          | error fault =>
              have fault' := here.fault _ first
              cases fault' with
              | rejected faults nonempty =>
                  cases own with
                  | rejected others =>
                      rw [listOfJson, first, later]
                      exact meets_throw
                        (.rejected _ (List.append_ne_nil_of_left_ne_nil nonempty others))
                  | tooLarge =>
                      rw [listOfJson, first, later]
                      exact meets_throw .tooLarge
              | tooLarge =>
                  rw [listOfJson, first, later]
                  exact meets_throw .tooLarge

end Operation

/-! ## Tools, panels and machines -/

theorem Tool.ofJson_meets (index : Int) (given : Json) :
    (Tool.ofJson index given).Meets (fun _ => True) Fault.OfJob := by
  cases given with
  | object members =>
      refine Meets.inJob ?_ _
      refine (Part.text_meets _ _).ofJob.ofRecord.bind fun id _ => ?_
      refine (Part.text_meets _ _).ofJob.ofRecord.bind fun kind _ => ?_
      refine (Part.number_meets _ _).ofRecord.bind fun diameter _ => ?_
      refine (Part.number_meets _ _).ofRecord.bind fun spindleSpeed _ => ?_
      refine (Part.number_meets _ _).ofRecord.bind fun feedRate _ => ?_
      refine (Part.number?_meets _ _).ofRecord.bind fun plungeRate _ => ?_
      refine (Part.number?_meets _ _).ofRecord.bind fun maxDepth _ => ?_
      exact (Tool.ofDraft_meets ⟨_, rfl⟩ ⟨_, rfl⟩ ⟨_, rfl⟩ ⟨_, rfl⟩ ⟨_, rfl⟩).ofDraft
  | _ => exact meets_throw (.one _)

namespace Panel

theorem dimensions_meets (members : Json.Members) :
    (dimensions members).Meets (fun _ => True) Fault.IsRejection := by
  rw [dimensions]
  cases members.get? "dimensions" with
  | none => exact meets_pure trivial
  | some value =>
      dsimp only
      split
      · exact meets_pure trivial
      · cases value with
        | object sizes => exact meets_pure trivial
        | _ => exact meets_throw (.one _)

theorem ofJson_meets (given : Json) : (ofJson given).Meets (fun _ => True) Fault.OfJob := by
  cases given with
  | object members =>
      refine (dimensions_meets members).ofJob.bind fun sizes _ => ?_
      refine (Part.number_meets _ _).bind fun length _ => ?_
      refine (Part.number_meets _ _).bind fun width _ => ?_
      refine (Part.number_meets _ _).bind fun thickness _ => ?_
      refine (Part.number?_meets _ _).bind fun zOffset _ => ?_
      exact (Panel.ofDraft_meets ⟨_, rfl⟩ ⟨_, rfl⟩ ⟨_, rfl⟩ ⟨_, rfl⟩).ofDraft.inJob _
  | _ => exact meets_throw (.one _)

end Panel

namespace Profile

structure Draft.OfDoubles (draft : Draft) : Prop where
  safeHeight : draft.safeHeight.IsDouble
  spindleSpeed : draft.spindleSpeed.IsDouble
  feedRate : draft.feedRate.IsDouble
  plungeRate : draft.plungeRate.IsDouble

theorem readDraft_meets (members : Json.Members) (base : Draft) :
    (readDraft members base).Meets Draft.OfDoubles Fault.OfValue := by
  have double (value : Json) : ((Json.number ∘ .double) <$> value.double? : Attempt Json).Meets
      Json.IsDouble Fault.OfValue :=
    value.double?_meets.map fun x _ => ⟨x, rfl⟩
  have flag (value : Json) : (do return .bool (← value.flag?) : Attempt Json).Meets
      (fun _ => True) Fault.OfValue :=
    value.flag?_meets.bind fun _ _ => meets_pure trivial
  refine (double _).bind fun safeHeight first => ?_
  refine (double _).bind fun spindleSpeed second => ?_
  refine (double _).bind fun feedRate third => ?_
  refine (double _).bind fun plungeRate fourth => ?_
  refine (flag _).bind fun toolCompensation _ => ?_
  exact (flag _).bind fun toolRates _ => meets_pure ⟨first, second, third, fourth⟩

theorem ofMembers_meets (members : Json.Members) (base : Profile) :
    (ofMembers members base).outcome.Meets (fun _ => True) Fault.OfRecord := by
  have draft : (settled (readDraft members base.toDraft)).Meets Draft.OfDoubles Fault.OfRecord :=
    (readDraft_meets members base.toDraft).mapError fun e own => by
      cases own with
      | unreadable cause => exact .refused _
      | tooLarge => exact .tooLarge
  rw [ofMembers, Traced.outcome_bind, Traced.outcome_lift]
  refine draft.bind fun draft doubles => ?_
  exact (ofDraft_meets doubles.safeHeight doubles.spindleSpeed doubles.feedRate
    doubles.plungeRate).ofDraft

end Profile

/-! ## Jobs -/

namespace Job

variable (members : Json.Members)

theorem operations?_meets :
    (operations? members).Meets (fun operations => ∀ operation ∈ operations, operation.OfDoubles)
      Fault.OfJob := by
  rw [operations?]
  split
  · refine meets_pure fun operation mem => ?_
    cases mem
  · exact Operation.listOfJson_meets 0 _
  · exact meets_throw (.one _)

theorem catalog?_meets : (catalog? members).Meets (fun _ => True) Fault.OfJob := by
  have checked (tools : List Tool) : (Attempt.inJob (Catalog.ofTools? tools : Attempt Catalog)
      .catalogRefused).Meets (fun _ => True) Fault.OfJob := by
    cases Catalog.ofTools? tools with
    | ok catalog => exact meets_pure trivial
    | error refusal => exact meets_throw (.one _)
  rw [catalog?]
  split
  · exact meets_pure trivial
  · exact (meets_mapM fun entry _ => Tool.ofJson_meets _ _).bind fun tools _ => checked tools
  · exact meets_throw (.one _)

theorem profile?_meets (default : Profile) :
    (profile? members default).outcome.Meets (fun _ => True) Fault.OfJob := by
  rw [profile?]
  split
  · exact meets_pure trivial
  · exact (Profile.ofMembers_meets _ default).inJob _
  · exact meets_throw (.one _)

theorem ofJson_meets (given : Json) (default : Profile) :
    (ofJson given default).outcome.Meets
      (fun job => ∀ operation ∈ job.operations, operation.OfDoubles) Fault.OfJob := by
  cases given with
  | object members =>
      simp only [ofJson, Traced.outcome_bind, Traced.outcome_lift, Traced.outcome_pure]
      refine (Panel.ofJson_meets _).bind fun panel _ => ?_
      refine (operations?_meets members).bind fun operations doubles => ?_
      refine (catalog?_meets members).bind fun catalog _ => ?_
      exact (profile?_meets members default).bind fun profile _ => meets_pure doubles
  | _ => exact meets_throw (.one _)

end Job

end Millwork
