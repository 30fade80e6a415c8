import Millwork.CommandLine.Run
import Millwork.Proofs.Job.Dialects

namespace Millwork

open Attempt

/-! ## Files -/

theorem Json.read_ofList (chars : List Char) : (Json.read (.ofList chars)).toOption =
    if chars.head? = some '\uFEFF' then none else (Json.document chars).toOption := by
  rw [Json.read, String.toList_ofList]
  split
  · rfl
  · rename_i apart
    have plain : chars.head? ≠ some '\uFEFF' := fun marked =>
      let ⟨rest, same⟩ := List.head?_eq_some_iff.mp marked
      apart rest same
    rw [if_neg plain]
    cases Json.document chars <;> rfl

theorem Order.value_octets (order : Order) (octets : List Nat) :
    (order.value (.ok octets)).toOption = (Utf8.decodeFrom 0 octets).toOption.bind fun chars =>
      (Json.read (.ofList (Text.unifyLineEnds chars))).toOption := by
  cases decoded : Utf8.decodeFrom 0 octets with
  | error fault =>
      have decode : Utf8.decode octets = .error fault := by rw [Utf8.decode, decoded]; rfl
      simp only [Order.value, Except.mapError, ok_bind, decode]
      rfl
  | ok chars =>
      have decode : Utf8.decode octets = .ok (.ofList chars) := by rw [Utf8.decode, decoded]; rfl
      simp only [Order.value, Except.mapError, ok_bind, decode, String.toList_ofList]
      cases read : Json.read (.ofList (Text.unifyLineEnds chars)) <;>
        simp [read, Except.toOption]

/-! ## Outcomes -/

namespace Order

variable {settings : Settings} {default : Profile} {file : JobFile} {payload : Json} {rank : Nat}

section Runs

variable (order : Order) (shown : Level.threshold settings.logLevel = .ok rank)
  (machine : settings.profile.outcome = .ok default)

include shown machine

theorem run_of_result {result : Except Obstacle Job} {notices : List Notice}
    (given : order.job file default = (result, notices)) (directory : String) (stamp : Timestamp) :
    ∃ log, order.run settings directory file stamp =
      match result with
      | .error (.problem fault) => ⟨"", log, problem fault, none, .exit 1⟩
      | .error (.failure failure) => .failed log failure
      | .ok job =>
        match (order.program job stamp).outcome with
        | .error fault => .failed log (.fault fault)
        | .ok (profile, program) => order.done settings directory job profile program log := by
  rw [run, shown]
  dsimp only
  unfold runAt
  dsimp only
  rw [machine]
  dsimp only
  rw [given]
  dsimp only
  cases result with
  | error obstacle => cases obstacle <;> exact ⟨_, rfl⟩
  | ok job =>
      -- The program is kept closed: reducing it would unfold how it is made.
      generalize order.program job stamp = traced
      cases traced.outcome <;> exact ⟨_, rfl⟩

variable (reads : order.value file = .ok payload)

include reads

theorem run_of_job {job : Job} (read : (Job.ofJson payload default).outcome = .ok job)
    (directory : String) (stamp : Timestamp) :
    ∃ log, order.run settings directory file stamp =
      match (order.program job stamp).outcome with
      | .error fault => .failed log (.fault fault)
      | .ok (profile, program) => order.done settings directory job profile program log := by
  have given : order.job file default = (.ok job, (Job.ofJson payload default).notices) := by
    rw [Order.job, reads]
    simp only [read]
    rfl
  exact run_of_result order shown machine given directory stamp

theorem ending_of_fault {fault : Fault}
    (fails : (Job.ofJson payload default).outcome = .error fault) (directory : String)
    (stamp : Timestamp) :
    (order.run settings directory file stamp).ending ≠ .exit 0 := by
  have given : order.job file default =
      (.error (.ofFault fault), (Job.ofJson payload default).notices) := by
    rw [Order.job, reads]
    simp only [fails]
    rfl
  obtain ⟨log, run⟩ := run_of_result order shown machine given directory stamp
  rw [run]
  cases fault <;> exact nofun

end Runs

end Order

/-! ## Programs -/

/-- The program is printed if there is one, with its warnings. -/
structure Outcome.Prints (outcome : Outcome) (made : Attempt Program) : Prop where
  exits : outcome.ending = .exit 0 ↔ ∃ program, made = .ok program
  shows : ∀ program, made = .ok program → outcome.output = program.text ∧
    outcome.errors =
      Text.ended (program.warnings.map fun warning => "WARNING: " ++ warning.message)

def Outcome.withoutLog (outcome : Outcome) : Outcome := { outcome with log := "" }

namespace Order

variable {settings : Settings} {default : Profile} {order : Order} {file other : JobFile}
  {payload : Json} {rank : Nat} {job : Job}

theorem program_of_plain (plain : order.dialect = none) (job : Job) (stamp : Timestamp) :
    (order.program job stamp).outcome =
      (job.profile, ·) <$> (job.program stamp).outcome := by
  rw [program, profile, plain]
  simp only [Traced.outcome_bind, Traced.outcome_pure, ok_bind, map_eq_pure_bind]
  rfl

theorem program_of_dialect (settled : job.profile.Settled) (dialect : Dialect)
    (stamp : Timestamp) :
    (({ order with dialect := some dialect } : Order).program job stamp).outcome =
      (({ order with dialect := none } : Order).program
        { job with profile := { job.profile with dialect := dialect } } stamp).outcome := by
  rw [program, program, profile, profile]
  simp only [Traced.outcome_bind, Traced.outcome_pure, Profile.ofMembers_dialect settled, ok_bind]

theorem run_prints (order : Order) (shown : Level.threshold settings.logLevel = .ok rank)
    (machine : settings.profile.outcome = .ok default) (reads : order.value file = .ok payload)
    (prints : order.print = true) (read : (Job.ofJson payload default).outcome = .ok job)
    (directory : String) (stamp : Timestamp) :
    (order.run settings directory file stamp).Prints
      (Prod.snd <$> (order.program job stamp).outcome) := by
  obtain ⟨log, run⟩ := run_of_job order shown machine reads read directory stamp
  rw [run]
  cases (order.program job stamp).outcome with
  | error fault =>
      exact ⟨iff_of_false nofun (fun ⟨_, other⟩ => nomatch other), fun _ other => nomatch other⟩
  | ok made =>
      have done : order.done settings directory job made.1 made.2 log =
          ⟨made.2.text, log, Text.ended (made.2.warnings.map fun warning =>
            "WARNING: " ++ warning.message), none, .exit 0⟩ := if_pos prints
      refine ⟨iff_of_true (congrArg Outcome.ending done) ⟨made.2, rfl⟩, fun program same => ?_⟩
      cases same
      exact ⟨congrArg Outcome.output done, congrArg Outcome.errors done⟩

theorem run_of_dialect (shown : Level.threshold settings.logLevel = .ok rank)
    (machine : settings.profile.outcome = .ok default) (settled : default.Settled)
    (read : (Job.ofJson payload default).outcome = .ok job) (dialect : Dialect)
    (reads : order.value file = .ok payload)
    (reads' : order.value other = .ok (payload.withDialect dialect)) (directory : String)
    (stamp : Timestamp) :
    (({ order with dialect := some dialect } : Order).run settings directory file
        stamp).withoutLog =
      (({ order with dialect := none } : Order).run settings directory other
        stamp).withoutLog := by
  obtain ⟨log, first⟩ := run_of_job { order with dialect := some dialect } shown machine reads
    read directory stamp
  obtain ⟨log', second⟩ := run_of_job { order with dialect := none } shown machine reads'
    (Job.ofJson_withDialect settled read dialect) directory stamp
  rw [first, second, program_of_dialect (Job.ofJson_settled settled read)]
  cases (({ order with dialect := none } : Order).program
      { job with profile := { job.profile with dialect := dialect } } stamp).outcome with
  | error fault => rfl
  | ok made =>
      dsimp only [done]
      split <;> rfl

end Order

end Millwork
