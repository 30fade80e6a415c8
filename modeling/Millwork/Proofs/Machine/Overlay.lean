import Millwork.Proofs.Job.Meaning

namespace Millwork

open Attempt

namespace Json

variable {quantity : Quantity}

theorem finite?_number (a : FiniteNumber) : (number a.val).finite? = .ok (some a) := by
  obtain ⟨a, finite⟩ := a
  cases a <;> rw [finite?, dif_pos finite]

theorem finite?_ok {value : Json} {a : FiniteNumber} (read : value.finite? = .ok (some a)) :
    value = .number a.val := by
  unfold finite? at read
  split at read
  · split at read
    · cases read
      rfl
    · cases read
  · split at read
    · cases read
      rfl
    · cases read
  · cases read

theorem positive?_number (a : PositiveNumber) : (number a.val).positive? quantity = .ok a := by
  rw [positive?, finite?_number ⟨a.val, a.property.1⟩]
  exact dif_pos a.property.2

theorem positive?_ok {value : Json} {a : PositiveNumber}
    (read : value.positive? quantity = .ok a) : value = .number a.val := by
  obtain ⟨found, here, rest⟩ := bind_eq_ok.mp read
  rw [liftM_eq_ok] at here
  cases found with
  | none => cases rest
  | some own =>
      dsimp only at rest
      split at rest
      · cases rest
        exact finite?_ok here
      · cases rest

end Json

namespace Profile

/-! ## Drafts -/

/-- Numbers are doubles, and switches are on or off. -/
structure Draft.Settled (draft : Draft) : Prop where
  doubles : draft.OfDoubles
  flags : draft.HasFlags

theorem readDraft_settled {members : Json.Members} {base draft : Draft}
    (read : readDraft members base = .ok draft) : draft.Settled :=
  ⟨(readDraft_meets members base).result draft read,
    (readDraft_flags members base).result draft read⟩

theorem readDraft_nil {draft : Draft} (settled : draft.Settled) :
    readDraft [] draft = .ok draft := by
  obtain ⟨dialect, safeHeight, spindleSpeed, feedRate, plungeRate, toolCompensation, toolRates⟩ :=
    draft
  obtain ⟨⟨⟨a, rfl⟩, ⟨b, rfl⟩, ⟨c, rfl⟩, ⟨d, rfl⟩⟩, ⟨⟨yes, rfl⟩, ⟨yes', rfl⟩⟩⟩ := settled
  rfl

theorem readDraft_setDialect (members : Json.Members) (name : Json) (base : Draft) :
    readDraft (members.set "dialect" name) base =
      (fun draft => { draft with dialect := name }) <$> readDraft members base := by
  simp [readDraft, Json.Members.get?_set]

theorem ofDraft_ok {draft : Draft} {profile : Profile}
    (made : (ofDraft draft).outcome = .ok profile) :
    profile.toDraft = { draft with dialect := .text profile.dialect.word } := by
  simp only [ofDraft, Traced.outcome_bind, Traced.outcome_lift, Traced.outcome_pure] at made
  obtain ⟨dialect, -, made⟩ := bind_eq_ok.mp made
  obtain ⟨safeHeight, first, made⟩ := bind_eq_ok.mp made
  obtain ⟨spindleSpeed, second, made⟩ := bind_eq_ok.mp made
  obtain ⟨feedRate, third, made⟩ := bind_eq_ok.mp made
  obtain ⟨plungeRate, fourth, made⟩ := bind_eq_ok.mp made
  cases made
  rw [toDraft, Json.positive?_ok first, Json.positive?_ok second, Json.positive?_ok third,
    Json.positive?_ok fourth]

theorem ofDraft_toDraft (profile : Profile) : ofDraft profile.toDraft = pure profile := by
  simp only [ofDraft, toDraft, Dialect.named_word, Json.positive?_number]
  rfl

theorem ofDraft_setDialect (draft : Draft) (dialect : Dialect) :
    (ofDraft { draft with dialect := .text dialect.word }).outcome =
      (fun profile => { profile with dialect := dialect }) <$> (ofDraft draft).outcome := by
  obtain ⟨own, named⟩ : ∃ own, (Dialect.named draft.dialect).outcome = .ok own := by
    rw [Dialect.named]
    split <;> exact ⟨_, rfl⟩
  simp only [ofDraft, Traced.outcome_bind, Traced.outcome_lift, Traced.outcome_pure, named,
    Dialect.named_word, ok_bind, map_bind]
  rfl

/-! ## Profiles -/

theorem settled_ok {α : Type} (a : α) : settled (.ok a) = .ok a := rfl

def Settled (profile : Profile) : Prop := profile.toDraft.Settled

variable {members : Json.Members} {base profile : Profile}

theorem settled_of_ofMembers (read : (ofMembers members base).outcome = .ok profile) :
    profile.Settled := by
  rw [ofMembers, Traced.outcome_bind, Traced.outcome_lift] at read
  obtain ⟨draft, drafted, made⟩ := bind_eq_ok.mp read
  obtain ⟨doubles, flags⟩ := readDraft_settled (mapError_eq_ok.mp drafted)
  rw [Settled, ofDraft_ok made]
  exact ⟨⟨doubles.safeHeight, doubles.spindleSpeed, doubles.feedRate, doubles.plungeRate⟩,
    ⟨flags.toolCompensation, flags.toolRates⟩⟩

theorem ofMembers_nil (settled : profile.Settled) :
    (ofMembers [] profile).outcome = .ok profile := by
  rw [ofMembers, Traced.outcome_bind, Traced.outcome_lift, readDraft_nil settled, settled_ok,
    ok_bind, ofDraft_toDraft, Traced.outcome_pure]

theorem ofMembers_setDialect (members : Json.Members) (base : Profile) (dialect : Dialect) :
    (ofMembers (members.set "dialect" (.text dialect.word)) base).outcome =
      (fun profile => { profile with dialect := dialect }) <$>
        (ofMembers members base).outcome := by
  simp only [ofMembers, Traced.outcome_bind, Traced.outcome_lift, readDraft_setDialect]
  cases readDraft members base.toDraft with
  | error fault => rfl
  | ok draft => rw [map_ok, settled_ok, ok_bind, settled_ok, ok_bind, ofDraft_setDialect]

theorem ofMembers_dialect (settled : profile.Settled) (dialect : Dialect) :
    (ofMembers [("dialect", .text dialect.word)] profile).outcome =
      .ok { profile with dialect := dialect } := by
  have set := ofMembers_setDialect [] profile dialect
  rwa [ofMembers_nil settled] at set

end Profile

end Millwork
