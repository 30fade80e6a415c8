import Millwork.Proofs.Machine.Overlay

namespace Millwork

open Attempt

namespace Json.Members

def Distinct (members : Members) : Prop := (members.map Prod.fst).Nodup

theorem get?_of_not_mem {members : Members} {name : String}
    (absent : name ∉ members.map Prod.fst) : members.get? name = none := by
  induction members with
  | nil => rfl
  | cons member members ih =>
      rw [List.map_cons, List.mem_cons, not_or] at absent
      rw [get?_cons, if_neg (Ne.symm absent.1), ih absent.2]

theorem get?_update {later : Members} (distinct : later.Distinct) (members : Members)
    (name : String) : (members.update later).get? name =
      (later.get? name).or (members.get? name) := by
  induction later generalizing members with
  | nil => rfl
  | cons member later ih =>
      rw [Distinct, List.map_cons, List.nodup_cons] at distinct
      rw [update, List.foldl_cons]
      change (update (members.set member.1 member.2) later).get? name = _
      rw [ih distinct.2, get?_set, get?_cons]
      by_cases here : member.1 = name
      · -- The name does not come again, so the value is not replaced.
        subst here
        rw [get?_of_not_mem distinct.1, if_pos rfl, if_pos rfl]
        rfl
      · rw [if_neg here, if_neg here]

end Json.Members

namespace Profile

/-! ## Drafts member by member -/

section Members

variable {α : Type} (read : Json → Attempt α) (write : α → Json)

def MemberRead (members : Json.Members) (name : String) (base value : Json) : Prop :=
  ∃ a, read ((members.get? name).getD base) = .ok a ∧ value = write a

variable {read write} {members : Json.Members} {name : String} {base value : Json}

/-- What was read once is read to itself, so a later object may be merged with an earlier one. -/
theorem MemberRead.merge (here : MemberRead read write members name base value)
    (again : ∀ a, read (write a) = .ok a) {later : Json.Members} (distinct : later.Distinct) :
    read ((later.get? name).getD value) =
      read (((members.update later).get? name).getD base) := by
  obtain ⟨a, own, rfl⟩ := here
  rw [Json.Members.get?_update distinct]
  cases later.get? name with
  | some given => rfl
  | none => exact (again a).trans own.symm

theorem MemberRead.eq_base (here : MemberRead read write members name base value)
    (again : ∀ a, read (write a) = .ok a) (written : ∃ a, base = write a)
    (absent : members.get? name = none) : value = base := by
  obtain ⟨a, own, rfl⟩ := here
  obtain ⟨b, rfl⟩ := written
  rw [absent, Option.getD_none, again] at own
  rw [Except.ok.inj own]

end Members

abbrev NumberRead := MemberRead Json.double? (Json.number ∘ Number.double)

abbrev FlagRead := MemberRead (fun value => liftM value.flag?) Json.bool

theorem double?_double (x : Double) : (Json.number (.double x)).double? = .ok x := rfl

theorem flag?_bool (yes : Bool) : (liftM (Json.bool yes).flag? : Attempt Bool) = .ok yes := rfl

structure Draft.ReadOver (draft : Draft) (members : Json.Members) (base : Draft) : Prop where
  dialect : draft.dialect = (members.get? "dialect").getD base.dialect
  safeHeight : NumberRead members "safe_height" base.safeHeight draft.safeHeight
  spindleSpeed : NumberRead members "spindle_speed" base.spindleSpeed draft.spindleSpeed
  feedRate : NumberRead members "feed_rate" base.feedRate draft.feedRate
  plungeRate : NumberRead members "plunge_rate" base.plungeRate draft.plungeRate
  toolCompensation :
    FlagRead members "use_tool_compensation" base.toolCompensation draft.toolCompensation
  toolRates : FlagRead members "use_tool_rates" base.toolRates draft.toolRates

theorem readOver_of_readDraft {members : Json.Members} {base draft : Draft}
    (read : readDraft members base = .ok draft) : draft.ReadOver members base := by
  simp only [readDraft, bind_eq_ok, map_eq_ok, pure_eq_ok] at read
  obtain ⟨_, ⟨a, safeHeight, rfl⟩, _, ⟨b, spindleSpeed, rfl⟩, _, ⟨c, feedRate, rfl⟩, _,
    ⟨d, plungeRate, rfl⟩, _, ⟨yes, toolCompensation, rfl⟩, _, ⟨yes', toolRates, rfl⟩, rfl⟩ := read
  exact ⟨rfl, ⟨a, safeHeight, rfl⟩, ⟨b, spindleSpeed, rfl⟩, ⟨c, feedRate, rfl⟩,
    ⟨d, plungeRate, rfl⟩, ⟨yes, toolCompensation, rfl⟩, yes', toolRates, rfl⟩

theorem readDraft_update {members later : Json.Members} {base draft : Draft}
    (reads : draft.ReadOver members base) (distinct : later.Distinct) (dialect : Json) :
    readDraft later { draft with dialect } =
      (fun merged => { merged with dialect := (later.get? "dialect").getD dialect }) <$>
        readDraft (members.update later) base := by
  simp only [readDraft, reads.safeHeight.merge double?_double distinct,
    reads.spindleSpeed.merge double?_double distinct, reads.feedRate.merge double?_double distinct,
    reads.plungeRate.merge double?_double distinct,
    reads.toolCompensation.merge flag?_bool distinct,
    reads.toolRates.merge flag?_bool distinct, map_bind, map_pure]

/-! ## Profiles -/

theorem ofDraft_named (draft : Draft) {name name' : Json}
    (same : (Dialect.named name).outcome = (Dialect.named name').outcome) :
    (ofDraft { draft with dialect := name }).outcome =
      (ofDraft { draft with dialect := name' }).outcome := by
  simp only [ofDraft, Traced.outcome_bind, same]

theorem named_of_ofDraft {draft : Draft} {profile : Profile}
    (made : (ofDraft draft).outcome = .ok profile) :
    (Dialect.named draft.dialect).outcome = .ok profile.dialect := by
  simp only [ofDraft, Traced.outcome_bind, Traced.outcome_lift, Traced.outcome_pure] at made
  obtain ⟨dialect, named, made⟩ := bind_eq_ok.mp made
  obtain ⟨safeHeight, -, made⟩ := bind_eq_ok.mp made
  obtain ⟨spindleSpeed, -, made⟩ := bind_eq_ok.mp made
  obtain ⟨feedRate, -, made⟩ := bind_eq_ok.mp made
  obtain ⟨plungeRate, -, made⟩ := bind_eq_ok.mp made
  cases made
  exact named

section Profiles

variable {members : Json.Members} {base profile : Profile}

theorem ofMembers_ok (read : (ofMembers members base).outcome = .ok profile) :
    ∃ draft, readDraft members base.toDraft = .ok draft ∧ draft.ReadOver members base.toDraft ∧
      (ofDraft draft).outcome = .ok profile := by
  rw [ofMembers, Traced.outcome_bind, Traced.outcome_lift] at read
  obtain ⟨draft, drafted, made⟩ := bind_eq_ok.mp read
  have drafted := mapError_eq_ok.mp drafted
  exact ⟨draft, drafted, readOver_of_readDraft drafted, made⟩

theorem ofMembers_toMembers (settled : profile.Settled) (base : Profile) :
    (ofMembers profile.toMembers base).outcome = .ok profile := by
  have drafted : readDraft profile.toMembers base.toDraft = readDraft [] profile.toDraft := rfl
  rw [ofMembers, Traced.outcome_bind, Traced.outcome_lift, drafted, readDraft_nil settled,
    settled_ok, ok_bind, ofDraft_toDraft, Traced.outcome_pure]

theorem ofMembers_update (read : (ofMembers members base).outcome = .ok profile)
    {later : Json.Members} (distinct : later.Distinct) :
    (ofMembers later profile).outcome = (ofMembers (members.update later) base).outcome := by
  obtain ⟨draft, -, reads, made⟩ := ofMembers_ok read
  have named := named_of_ofDraft made
  have next := readDraft_update reads distinct (.text profile.dialect.word)
  rw [← ofDraft_ok made] at next
  rw [ofMembers, ofMembers, Traced.outcome_bind, Traced.outcome_bind, Traced.outcome_lift,
    Traced.outcome_lift, next]
  cases merged : readDraft (members.update later) base.toDraft with
  | error fault => rfl
  | ok whole =>
      rw [map_ok, settled_ok, settled_ok, ok_bind, ok_bind]
      refine ofDraft_named whole ?_
      -- The dialect is that of the later object, or the one that the profile has by now.
      rw [(readOver_of_readDraft merged).dialect, Json.Members.get?_update distinct]
      cases later.get? "dialect" with
      | some name => rfl
      | none =>
          rw [Option.getD_none, Dialect.named_word, Option.none_or, ← reads.dialect, named]
          rfl

structure Keeps (profile base : Profile) (members : Json.Members) : Prop where
  dialect : members.get? "dialect" = none → profile.dialect = base.dialect
  safeHeight : members.get? "safe_height" = none → profile.safeHeight = base.safeHeight
  spindleSpeed : members.get? "spindle_speed" = none → profile.spindleSpeed = base.spindleSpeed
  feedRate : members.get? "feed_rate" = none → profile.feedRate = base.feedRate
  plungeRate : members.get? "plunge_rate" = none → profile.plungeRate = base.plungeRate
  toolCompensation : members.get? "use_tool_compensation" = none →
    profile.toolCompensation = base.toolCompensation
  toolRates : members.get? "use_tool_rates" = none → profile.toolRates = base.toolRates

theorem keeps_of_ofMembers (settled : base.Settled)
    (read : (ofMembers members base).outcome = .ok profile) : profile.Keeps base members := by
  obtain ⟨draft, -, reads, made⟩ := ofMembers_ok read
  obtain ⟨doubles, flags⟩ := settled
  have kept := ofDraft_ok made
  have number {a b : PositiveNumber} (same : Json.number a.val = .number b.val) : a = b :=
    Subtype.ext (Json.number.inj same)
  refine ⟨fun absent => ?_, fun absent => number ?_, fun absent => number ?_,
    fun absent => number ?_, fun absent => number ?_, fun absent => ?_, fun absent => ?_⟩
  · have named := named_of_ofDraft made
    rw [reads.dialect, absent, Option.getD_none, toDraft, Dialect.named_word] at named
    exact (Except.ok.inj named).symm
  · exact (congrArg Draft.safeHeight kept).trans
      (reads.safeHeight.eq_base double?_double doubles.safeHeight absent)
  · exact (congrArg Draft.spindleSpeed kept).trans
      (reads.spindleSpeed.eq_base double?_double doubles.spindleSpeed absent)
  · exact (congrArg Draft.feedRate kept).trans
      (reads.feedRate.eq_base double?_double doubles.feedRate absent)
  · exact (congrArg Draft.plungeRate kept).trans
      (reads.plungeRate.eq_base double?_double doubles.plungeRate absent)
  · exact congrArg Switch.mk ((congrArg Draft.toolCompensation kept).trans
      (reads.toolCompensation.eq_base flag?_bool flags.toolCompensation absent))
  · exact congrArg Switch.mk ((congrArg Draft.toolRates kept).trans
      (reads.toolRates.eq_base flag?_bool flags.toolRates absent))

end Profiles

/-- All members of a profile give it back; objects one after another are one merged object; and
what is left out is kept. -/
theorem overlaid :
    (∀ profile base : Profile, profile.Settled →
      (ofMembers profile.toMembers base).outcome = .ok profile) ∧
    (∀ (members later : Json.Members) (base profile : Profile), later.Distinct →
      (ofMembers members base).outcome = .ok profile →
      (ofMembers later profile).outcome = (ofMembers (members.update later) base).outcome) ∧
    (∀ (members : Json.Members) (base profile : Profile), base.Settled →
      (ofMembers members base).outcome = .ok profile → profile.Keeps base members) :=
  ⟨fun _ base settled => ofMembers_toMembers settled base,
    fun _ _ _ _ distinct read => ofMembers_update read distinct,
    fun _ _ _ settled read => keeps_of_ofMembers settled read⟩

end Profile

namespace Sample

/-- An object as it may be given, with a name in another case, a numeral and words for a switch. -/
def machine : Json.Members :=
  [("dialect", .text " Homag"), ("safe_height", .text "25"), ("use_tool_rates", .text "off")]

def laterMachine : Json.Members :=
  [("safe_height", .number (.whole 30)), ("use_tool_compensation", .text "yes")]

end Sample

theorem Profile.overlaid_of_sample :
    ∃ profile changed,
      (ofMembers Sample.machine .standard).outcome = .ok profile ∧ profile.Settled ∧
      (ofMembers profile.toMembers .standard).outcome = .ok profile ∧
      Sample.laterMachine.Distinct ∧
      (ofMembers Sample.laterMachine profile).outcome = .ok changed ∧
      (ofMembers (Json.Members.update Sample.machine Sample.laterMachine) .standard).outcome =
        .ok changed ∧
      changed.Keeps profile Sample.laterMachine := by
  obtain ⟨profile, read⟩ := Attempt.exists_ok (x := (ofMembers Sample.machine .standard).outcome)
    (by decide +kernel)
  obtain ⟨changed, merged⟩ := Attempt.exists_ok (x := (ofMembers
    (Json.Members.update Sample.machine Sample.laterMachine) .standard).outcome) (by decide +kernel)
  have settled := settled_of_ofMembers read
  have distinct : Sample.laterMachine.Distinct := by
    unfold Json.Members.Distinct
    decide
  have whole := overlaid.1 profile .standard settled
  have later := (overlaid.2.1 Sample.machine Sample.laterMachine .standard profile distinct
    read).trans merged
  have keeps := overlaid.2.2 Sample.laterMachine profile changed settled later
  exact ⟨profile, changed, read, settled, whole, distinct, later, merged, keeps⟩

end Millwork
