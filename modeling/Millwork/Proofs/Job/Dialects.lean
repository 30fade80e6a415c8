import Millwork.Proofs.Machine.Overlay

namespace Millwork

open Attempt

/-- The members of the machine of a job; none if it is missing or null. -/
def Json.Members.machine (members : Json.Members) : Json.Members :=
  match members.given? "machine" with
  | some (.object machine) => machine
  | _ => []

def Json.withDialect (payload : Json) (dialect : Dialect) : Json :=
  match payload with
  | .object members =>
    let machine := Members.set (Members.machine members) "dialect" (.text dialect.word)
    .object (Members.set members "machine" (.object machine))
  | payload => payload

namespace Job

variable {default : Profile}

theorem profile?_settled (settled : default.Settled) {members : Json.Members} {profile : Profile}
    (read : (profile? members default).outcome = .ok profile) : profile.Settled := by
  rw [profile?] at read
  split at read
  · cases read
    exact settled
  · exact Profile.settled_of_ofMembers (mapError_eq_ok.mp read)
  · cases read

theorem profile?_setDialect (settled : default.Settled) {members : Json.Members}
    {profile : Profile} (read : (profile? members default).outcome = .ok profile)
    (dialect : Dialect) :
    (profile? (members.set "machine" (.object (members.machine.set "dialect"
      (.text dialect.word)))) default).outcome = .ok { profile with dialect := dialect } := by
  have set : (members.set "machine" (.object (members.machine.set "dialect"
      (.text dialect.word)))).given? "machine" =
        some (.object (members.machine.set "dialect" (.text dialect.word))) := by
    rw [Json.Members.given?, Json.Members.get?_set, if_pos rfl]
  rw [profile?, set]
  refine mapError_eq_ok.mpr ?_
  rw [Profile.ofMembers_setDialect, Json.Members.machine]
  rw [profile?] at read
  cases given : members.given? "machine" with
  | none =>
      rw [given] at read
      cases read
      exact congrArg (Functor.map _) (Profile.ofMembers_nil settled)
  | some value =>
      rw [given] at read
      cases value with
      | object machine => exact congrArg (Functor.map _) (mapError_eq_ok.mp read)
      | _ => cases read

theorem ofJson_settled (settled : default.Settled) {payload : Json} {job : Job}
    (read : (ofJson payload default).outcome = .ok job) : job.profile.Settled := by
  cases payload with
  | object members =>
      simp only [ofJson, Traced.outcome_bind, Traced.outcome_lift, Traced.outcome_pure] at read
      obtain ⟨panel, -, read⟩ := bind_eq_ok.mp read
      obtain ⟨operations, -, read⟩ := bind_eq_ok.mp read
      obtain ⟨catalog, -, read⟩ := bind_eq_ok.mp read
      obtain ⟨profile, machine, read⟩ := bind_eq_ok.mp read
      cases read
      exact profile?_settled settled machine
  | _ => cases read

theorem ofJson_withDialect (settled : default.Settled) {payload : Json} {job : Job}
    (read : (ofJson payload default).outcome = .ok job) (dialect : Dialect) :
    (ofJson (payload.withDialect dialect) default).outcome =
      .ok { job with profile := { job.profile with dialect := dialect } } := by
  cases payload with
  | object members =>
      simp only [ofJson, Traced.outcome_bind, Traced.outcome_lift, Traced.outcome_pure] at read
      obtain ⟨panel, first, read⟩ := bind_eq_ok.mp read
      obtain ⟨operations, second, read⟩ := bind_eq_ok.mp read
      obtain ⟨catalog, third, read⟩ := bind_eq_ok.mp read
      obtain ⟨profile, machine, read⟩ := bind_eq_ok.mp read
      cases read
      -- The other sections of the job are where they were.
      have other (name : String) (apart : "machine" ≠ name) (value : Json) :
          Json.Members.get? (Json.Members.set members "machine" value) name =
            Json.Members.get? members name := by
        rw [Json.Members.get?_set, if_neg apart]
      simp only [Json.withDialect, ofJson, Traced.outcome_bind, Traced.outcome_lift,
        Traced.outcome_pure]
      rw [other "panel" (by decide), first, ok_bind]
      rw [operations?, other "operations" (by decide), ← operations?, second, ok_bind]
      rw [catalog?, Json.Members.given?, other "tools" (by decide), ← Json.Members.given?,
        ← catalog?, third, ok_bind, profile?_setDialect settled machine]
      rfl
  | _ => cases read

end Job

end Millwork
