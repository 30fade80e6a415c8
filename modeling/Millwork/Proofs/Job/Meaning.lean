import Millwork.Proofs.Job.Compilation

namespace Millwork

open Attempt

/-! ## Meaningful records -/

def Number.IsPositive (a : Number) : Prop := a.isFinite = true ∧ 0 < a

def Number.IsNonneg (a : Number) : Prop := a.isFinite = true ∧ 0 ≤ a

def Switch.IsFlag (switch : Switch) : Prop := ∃ yes, switch.given = .bool yes

structure Task.Meaningful (task : Task) : Prop where
  tool : task.toolId ≠ ""
  depth : task.depth.val.IsNonneg

structure Stepping.Meaningful (stepping : Stepping) : Prop where
  multiPass : stepping.multiPass.IsFlag
  passDepth : ∀ step ∈ stepping.passDepth, step.val.IsPositive

structure Path.Meaningful (path : Path) : Prop where
  nonempty : path.points ≠ []
  finite : ∀ point ∈ path.points, point.x.val.isFinite = true ∧ point.y.val.isFinite = true

structure Entry.Meaningful (entry : Entry) : Prop where
  style : entry.style ∈ (Choice.members : List EntryStyle)
  angle : ∀ angle ∈ entry.angle, angle.val.isFinite = true
  radius : ∀ radius ∈ entry.radius, radius.val.IsPositive

structure Drill.Meaningful (drill : Drill) : Prop where
  task : drill.toTask.Meaningful
  x : drill.x.val.isFinite = true
  y : drill.y.val.isFinite = true
  diameter : drill.diameter.val.IsPositive
  through : drill.through.IsFlag

structure Contour.Meaningful (contour : Contour) : Prop where
  task : contour.toTask.Meaningful
  stepping : contour.toStepping.Meaningful
  path : contour.path.Meaningful
  closed : contour.closed.IsFlag
  entry : ∀ entry ∈ contour.entry, entry.Meaningful
  exit : ∀ exit ∈ contour.exit, exit.style ∈ (Choice.members : List ExitStyle)
  compensation : contour.compensation ∈ (Choice.members : List Compensation)

structure ClosedPocket.Meaningful (pocket : ClosedPocket) : Prop where
  task : pocket.toTask.Meaningful
  stepping : pocket.toStepping.Meaningful
  path : pocket.path.Meaningful
  strategy : pocket.strategy ∈ (Choice.members : List ClosedStrategy)
  entry : ∀ entry ∈ pocket.entry, entry.Meaningful

structure OpenPocket.Meaningful (pocket : OpenPocket) : Prop where
  task : pocket.toTask.Meaningful
  stepping : pocket.toStepping.Meaningful
  path : pocket.path.Meaningful
  width : pocket.width.val.IsNonneg
  strategy : pocket.strategy ∈ (Choice.members : List OpenStrategy)

/-- An operation of no kind has no meaning. -/
def Operation.Meaningful : Operation → Prop
  | drill task => task.Meaningful
  | contour task => task.Meaningful
  | closedPocket task => task.Meaningful
  | openPocket task => task.Meaningful
  | ofNoKind .. => False

structure Tool.Meaningful (tool : Tool) : Prop where
  id : tool.id ≠ ""
  name : tool.name ≠ ""
  kind : tool.kind ∈ (Choice.members : List ToolKind)
  diameter : tool.diameter.val.IsPositive
  spindleSpeed : tool.spindleSpeed.val.IsPositive
  feedRate : tool.feedRate.val.IsPositive
  plungeRate : ∀ rate ∈ tool.plungeRate, rate.val.IsPositive
  maxDepth : ∀ depth ∈ tool.maxDepth, depth.val.IsPositive

structure Panel.Meaningful (panel : Panel) : Prop where
  length : panel.length.val.IsPositive
  width : panel.width.val.IsPositive
  thickness : panel.thickness.val.IsPositive
  origin : panel.origin ∈ Origin.all
  face : panel.face ∈ Face.all
  zOffset : panel.zOffset.val.isFinite = true

structure Profile.Meaningful (profile : Profile) : Prop where
  dialect : profile.dialect ∈ Dialect.all
  safeHeight : profile.safeHeight.val.IsPositive
  spindleSpeed : profile.spindleSpeed.val.IsPositive
  feedRate : profile.feedRate.val.IsPositive
  plungeRate : profile.plungeRate.val.IsPositive
  toolCompensation : profile.toolCompensation.IsFlag
  toolRates : profile.toolRates.IsFlag

structure Job.Meaningful (job : Job) : Prop where
  panel : job.panel.Meaningful
  operations : ∀ operation ∈ job.operations, operation.Meaningful
  tools : ∀ tool ∈ job.catalog.tools, tool.Meaningful
  ids : (job.catalog.tools.map Tool.id).Nodup
  profile : job.profile.Meaningful

/-! ## What records carry

Numbers and identifiers carry what was checked of them. Of its switches a record does not know
more than that they were given. -/

theorem Task.meaningful (task : Task) : task.Meaningful := ⟨task.toolId_ne, task.depth.property⟩

theorem Stepping.meaningful {stepping : Stepping} (flag : stepping.multiPass.IsFlag) :
    stepping.Meaningful :=
  ⟨flag, fun step _ => step.property⟩

theorem Path.meaningful (path : Path) : path.Meaningful :=
  ⟨List.cons_ne_nil _ _, fun point _ => ⟨point.x.property, point.y.property⟩⟩

theorem Entry.meaningful (entry : Entry) : entry.Meaningful where
  style := by cases entry.style <;> decide
  angle angle _ := angle.property
  radius radius _ := radius.property

theorem Tool.meaningful (tool : Tool) : tool.Meaningful where
  id := tool.id_ne
  name := tool.name_ne
  kind := by cases tool.kind <;> decide
  diameter := tool.diameter.property
  spindleSpeed := tool.spindleSpeed.property
  feedRate := tool.feedRate.property
  plungeRate rate _ := rate.property
  maxDepth depth _ := depth.property

theorem Panel.meaningful (panel : Panel) : panel.Meaningful where
  length := panel.length.property
  width := panel.width.property
  thickness := panel.thickness.property
  origin := by cases panel.origin <;> decide
  face := by cases panel.face <;> decide
  zOffset := panel.zOffset.property

theorem Profile.meaningful {profile : Profile} (toolCompensation : profile.toolCompensation.IsFlag)
    (toolRates : profile.toolRates.IsFlag) : profile.Meaningful where
  dialect := by cases profile.dialect <;> decide
  safeHeight := profile.safeHeight.property
  spindleSpeed := profile.spindleSpeed.property
  feedRate := profile.feedRate.property
  plungeRate := profile.plungeRate.property
  toolCompensation := toolCompensation
  toolRates := toolRates

def Operation.HasFlags : Operation → Prop
  | drill task => task.through.IsFlag
  | contour task => task.multiPass.IsFlag ∧ task.closed.IsFlag
  | closedPocket task => task.multiPass.IsFlag
  | openPocket task => task.multiPass.IsFlag
  | ofNoKind .. => False

theorem Operation.HasFlags.meaningful {operation : Operation} (flags : operation.HasFlags) :
    operation.Meaningful := by
  cases operation with
  | drill task =>
      exact ⟨task.toTask.meaningful, task.x.property, task.y.property, task.diameter.property, flags⟩
  | contour task =>
      refine ⟨task.toTask.meaningful, Stepping.meaningful flags.1, task.path.meaningful, flags.2,
        fun entry _ => entry.meaningful, fun exit _ => ?_, ?_⟩
      · cases exit.style <;> decide
      · cases task.compensation <;> decide
  | closedPocket task =>
      refine ⟨task.toTask.meaningful, Stepping.meaningful flags, task.path.meaningful, ?_,
        fun entry _ => entry.meaningful⟩
      cases task.strategy <;> decide
  | openPocket task =>
      refine ⟨task.toTask.meaningful, Stepping.meaningful flags, task.path.meaningful,
        task.width.property, ?_⟩
      cases task.strategy <;> decide
  | ofNoKind toolId depth comment => exact flags.elim

/-! ## Switches of drafts -/

abbrev Fault.Any : Fault → Prop := fun _ => True

theorem Attempt.meets_any {α : Type} (x : Attempt α) : x.Meets (fun _ => True) Fault.Any :=
  ⟨fun _ _ => trivial, fun _ _ => trivial⟩

theorem Attempt.Meets.inJob_any {α : Type} {x : Attempt α} {result : α → Prop}
    (meets : x.Meets result Fault.Any) (locate : Refusal → JobFault) :
    (x.inJob locate).Meets result Fault.Any :=
  meets.mapError fun _ _ => trivial

theorem Stepping.ofDraft_keeps (kind : OperationKind) (draft : SteppingDraft) :
    (ofDraft kind draft).Meets (fun stepping => stepping.multiPass.given = draft.multiPass)
      Fault.Any :=
  (meets_any _).bind fun _ _ => meets_pure rfl

theorem Drill.ofDraft_keeps (draft : DrillDraft) :
    (ofDraft draft).Meets (fun drill => drill.through.given = draft.through) Fault.Any := by
  refine (meets_any _).bind fun task _ => ?_
  refine (meets_any _).bind fun found _ => ?_
  cases found with
  | none => exact meets_throw trivial
  | some x =>
      refine (meets_any _).bind fun found _ => ?_
      cases found with
      | none => exact meets_throw trivial
      | some y => exact (meets_any _).bind fun diameter _ => meets_pure rfl

theorem Contour.ofDraft_keeps (draft : ContourDraft) :
    (ofDraft draft).Meets (fun contour => contour.multiPass.given = draft.multiPass ∧
      contour.closed.given = draft.closed) Fault.Any := by
  refine (meets_any _).bind fun task _ => ?_
  refine (meets_any _).bind fun path _ => ?_
  refine (Stepping.ofDraft_keeps _ _).bind fun stepping same => ?_
  exact (meets_any _).bind fun compensation _ => meets_pure ⟨same, rfl⟩

theorem ClosedPocket.ofDraft_keeps (draft : ClosedPocketDraft) :
    (ofDraft draft).Meets (fun pocket => pocket.multiPass.given = draft.multiPass) Fault.Any := by
  refine (meets_any _).bind fun task _ => ?_
  refine (meets_any _).bind fun path _ => ?_
  refine (Stepping.ofDraft_keeps _ _).bind fun stepping same => ?_
  exact (meets_any _).bind fun strategy _ => meets_pure same

theorem OpenPocket.ofDraft_keeps (draft : OpenPocketDraft) :
    (ofDraft draft).Meets (fun pocket => pocket.multiPass.given = draft.multiPass) Fault.Any := by
  refine (meets_any _).bind fun task _ => ?_
  refine (meets_any _).bind fun path _ => ?_
  refine (Stepping.ofDraft_keeps _ _).bind fun stepping same => ?_
  refine (meets_any _).bind fun strategy _ => ?_
  exact (meets_any _).bind fun width _ => meets_pure same

/-! ## Operations -/

namespace Slot

variable (slot : Slot) (part : Part)

theorem stepping_flag :
    (stepping part).Meets (fun draft => ∃ yes, draft.multiPass = .bool yes) Fault.Any :=
  (meets_any _).bind fun yes _ => (meets_any _).bind fun _ _ => meets_pure ⟨yes, rfl⟩

theorem drill_flag : (drill part).Meets (fun task => task.through.IsFlag) Fault.Any := by
  refine (meets_any _).bind fun task _ => ?_
  refine (meets_any _).bind fun x _ => ?_
  refine (meets_any _).bind fun y _ => ?_
  refine (meets_any _).bind fun diameter _ => ?_
  refine (meets_any _).bind fun through _ => ?_
  exact (Drill.ofDraft_keeps _).mono (fun _ same => ⟨through, same⟩) fun _ _ => trivial

theorem contour_flags : (slot.contour part).Meets
    (fun task => task.multiPass.IsFlag ∧ task.closed.IsFlag) Fault.Any := by
  refine (meets_any _).bind fun task _ => ?_
  refine (stepping_flag part).bind fun stepping ⟨yes, given⟩ => ?_
  refine (meets_any _).bind fun path _ => ?_
  refine (meets_any _).bind fun closed _ => ?_
  refine (meets_any _).bind fun entry _ => ?_
  refine (meets_any _).bind fun exit _ => ?_
  exact (Contour.ofDraft_keeps _).mono
    (fun _ same => ⟨⟨yes, same.1.trans given⟩, closed, same.2⟩) fun _ _ => trivial

theorem closedPocket_flag :
    (slot.closedPocket part).Meets (fun task => task.multiPass.IsFlag) Fault.Any := by
  refine (meets_any _).bind fun task _ => ?_
  refine (stepping_flag part).bind fun stepping ⟨yes, given⟩ => ?_
  refine (meets_any _).bind fun path _ => ?_
  refine (meets_any _).bind fun entry _ => ?_
  exact (ClosedPocket.ofDraft_keeps _).mono (fun _ same => ⟨yes, same.trans given⟩)
    fun _ _ => trivial

theorem openPocket_flag :
    (slot.openPocket part).Meets (fun task => task.multiPass.IsFlag) Fault.Any := by
  refine (meets_any _).bind fun task _ => ?_
  refine (stepping_flag part).bind fun stepping ⟨yes, given⟩ => ?_
  refine (meets_any _).bind fun path _ => ?_
  refine (meets_any _).bind fun width _ => ?_
  exact (OpenPocket.ofDraft_keeps _).mono (fun _ same => ⟨yes, same.trans given⟩)
    fun _ _ => trivial

theorem ofKind_flags (kind : OperationKind) :
    (slot.ofKind part kind).Meets
      (fun operation => operation.kind? = some kind ∧ operation.HasFlags) Fault.Any := by
  cases kind with
  | drill => exact (drill_flag part).map fun _ flag => ⟨rfl, flag⟩
  | contour => exact (slot.contour_flags part).map fun _ flags => ⟨rfl, flags⟩
  | closedPocket => exact (slot.closedPocket_flag part).map fun _ flag => ⟨rfl, flag⟩
  | openPocket => exact (slot.openPocket_flag part).map fun _ flag => ⟨rfl, flag⟩

end Slot

theorem OperationKind.get?_of_ofMembers? {members : Json.Members} {kind : OperationKind}
    (named : ofMembers? members = some kind) :
    members.get? "type" = some (.text kind.word) := by
  rw [ofMembers?] at named
  split at named
  · rename_i word given
    have same := List.find?_some named
    rw [given, ← beq_iff_eq.mp same]
  · cases named

namespace Operation

/-- What was given is an object whose type names the kind of the operation. -/
def IsNamedBy (operation : Operation) (given : Json) : Prop :=
  ∃ (members : Json.Members) (kind : OperationKind), given = .object members ∧
    members.get? "type" = some (.text kind.word) ∧ operation.kind? = some kind

theorem ofJson_ok {index : Int} {given : Json} {operation : Operation}
    (read : ofJson index given = .ok operation) :
    operation.IsNamedBy given ∧ operation.Meaningful := by
  cases given with
  | object members =>
      rw [ofJson] at read
      cases named : OperationKind.ofMembers? members with
      | none =>
          rw [named] at read
          cases read
      | some kind =>
          rw [named] at read
          have both := ((Slot.ofKind_flags ⟨index⟩ _ kind).inJob_any _).result operation read
          exact ⟨⟨members, kind, rfl, OperationKind.get?_of_ofMembers? named, both.1⟩,
            both.2.meaningful⟩
  | _ => cases read

theorem listOfJson_ok {index : Int} {given : List Json} {operations : List Operation}
    (read : listOfJson index given = .ok operations) :
    List.Forall₂ (fun value operation => operation.IsNamedBy value) given operations ∧
      ∀ operation ∈ operations, operation.Meaningful := by
  -- An operation is read under the index of its place, so the index varies.
  induction given generalizing index operations with
  | nil =>
      cases read
      exact ⟨.nil, List.forall_mem_nil _⟩
  | cons value rest ih =>
      rw [listOfJson] at read
      split at read
      · rename_i operation operations first later
        cases read
        obtain ⟨named, meaningful⟩ := ofJson_ok first
        obtain ⟨all, each⟩ := ih later
        exact ⟨.cons named all, List.forall_mem_cons.mpr ⟨meaningful, each⟩⟩
      all_goals cases read

end Operation

/-! ## Machines -/

namespace Profile

structure Draft.HasFlags (draft : Draft) : Prop where
  toolCompensation : ∃ yes, draft.toolCompensation = .bool yes
  toolRates : ∃ yes, draft.toolRates = .bool yes

theorem readDraft_flags (members : Json.Members) (base : Draft) :
    (readDraft members base).Meets Draft.HasFlags Fault.Any := by
  have flag (value : Json) : (do return .bool (← value.flag?) : Attempt Json).Meets
      (fun given => ∃ yes, given = .bool yes) Fault.Any :=
    (meets_any _).bind fun yes _ => meets_pure ⟨yes, rfl⟩
  refine (meets_any _).bind fun safeHeight _ => ?_
  refine (meets_any _).bind fun spindleSpeed _ => ?_
  refine (meets_any _).bind fun feedRate _ => ?_
  refine (meets_any _).bind fun plungeRate _ => ?_
  refine (flag _).bind fun toolCompensation first => ?_
  exact (flag _).bind fun toolRates second => meets_pure ⟨first, second⟩

theorem ofDraft_keeps (draft : Draft) : (ofDraft draft).outcome.Meets (fun profile =>
    profile.toolCompensation.given = draft.toolCompensation ∧
      profile.toolRates.given = draft.toolRates) Fault.Any := by
  simp only [ofDraft, Traced.outcome_bind, Traced.outcome_lift, Traced.outcome_pure]
  refine (meets_any _).bind fun dialect _ => ?_
  refine (meets_any _).bind fun safeHeight _ => ?_
  refine (meets_any _).bind fun spindleSpeed _ => ?_
  refine (meets_any _).bind fun feedRate _ => ?_
  exact (meets_any _).bind fun plungeRate _ => meets_pure ⟨rfl, rfl⟩

theorem ofMembers_meaningful {members : Json.Members} {base profile : Profile}
    (read : (ofMembers members base).outcome = .ok profile) : profile.Meaningful := by
  rw [ofMembers, Traced.outcome_bind, Traced.outcome_lift] at read
  have flags : (settled (readDraft members base.toDraft)).Meets Draft.HasFlags Fault.Any :=
    (readDraft_flags members base.toDraft).mapError fun _ _ => trivial
  obtain ⟨draft, drafted, made⟩ := bind_eq_ok.mp read
  obtain ⟨⟨yes, given⟩, ⟨yes', given'⟩⟩ := flags.result draft drafted
  obtain ⟨same, same'⟩ := (ofDraft_keeps draft).result profile made
  exact meaningful ⟨yes, same.trans given⟩ ⟨yes', same'.trans given'⟩

end Profile

/-! ## Jobs -/

namespace Job

variable {members : Json.Members}

def Lists (members : Json.Members) (given : List Json) : Prop :=
  members.get? "operations" = some (.list given) ∨
    members.get? "operations" = none ∧ given = []

theorem operations?_ok {operations : List Operation}
    (read : operations? members = .ok operations) :
    ∃ given, Lists members given ∧
      List.Forall₂ (fun value operation => operation.IsNamedBy value) given operations ∧
      ∀ operation ∈ operations, operation.Meaningful := by
  rw [operations?] at read
  split at read
  · rename_i absent
    cases read
    exact ⟨[], .inr ⟨absent, rfl⟩, .nil, List.forall_mem_nil _⟩
  · rename_i given listed
    exact ⟨given, .inl listed, Operation.listOfJson_ok read⟩
  · cases read

theorem profile?_ok {default profile : Profile} (valid : default.Meaningful)
    (read : (profile? members default).outcome = .ok profile) : profile.Meaningful := by
  rw [profile?] at read
  split at read
  · cases read
    exact valid
  · rename_i machine given
    have meets : (Profile.ofMembers machine default).outcome.Meets Profile.Meaningful Fault.Any :=
      ⟨fun _ => Profile.ofMembers_meaningful, fun _ _ => trivial⟩
    exact (meets.inJob_any _).result profile read
  · cases read

/-- There is one operation for each value that is listed, in order. -/
theorem ofJson_meaningful {given : Json} {default : Profile} {job : Job}
    (valid : default.Meaningful) (read : (ofJson given default).outcome = .ok job) :
    job.Meaningful ∧ ∃ members values, given = .object members ∧ Lists members values ∧
      List.Forall₂ (fun value operation => operation.IsNamedBy value) values job.operations := by
  cases given with
  | object members =>
      simp only [ofJson, Traced.outcome_bind, Traced.outcome_lift, Traced.outcome_pure] at read
      obtain ⟨panel, -, read⟩ := bind_eq_ok.mp read
      obtain ⟨operations, listed, read⟩ := bind_eq_ok.mp read
      obtain ⟨catalog, -, read⟩ := bind_eq_ok.mp read
      obtain ⟨profile, machine, read⟩ := bind_eq_ok.mp read
      cases read
      obtain ⟨values, own, named, meaningful⟩ := operations?_ok listed
      exact ⟨⟨panel.meaningful, meaningful, fun tool _ => tool.meaningful, catalog.distinct,
        profile?_ok valid machine⟩, members, values, rfl, own, named⟩
  | _ => cases read

theorem ofJson_meaningful_of_sample :
    let given := Sample.payload (.ofInt 5) (.ofInt 3)
    ∃ job, (ofJson given .standard).outcome = .ok job ∧ job.Meaningful ∧
      ∃ members values, given = .object members ∧ Lists members values ∧
        List.Forall₂ (fun value operation => operation.IsNamedBy value) values job.operations := by
  intro given
  obtain ⟨job, read⟩ :=
    Attempt.exists_ok (x := (ofJson given .standard).outcome) (by decide +kernel)
  have valid : Profile.standard.Meaningful := Profile.meaningful ⟨false, rfl⟩ ⟨true, rfl⟩
  exact ⟨job, read, ofJson_meaningful valid read⟩

end Job

end Millwork
