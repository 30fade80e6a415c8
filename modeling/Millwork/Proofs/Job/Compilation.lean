import Millwork.Proofs.Job.Reading

namespace Millwork

namespace Job

/-- Every operation whose tool the catalog has can be scheduled. -/
def Schedulable (job : Job) : Prop :=
  ∀ operation ∈ job.operations, job.catalog.CanCut operation

instance (job : Job) : Decidable job.Schedulable :=
  inferInstanceAs (Decidable (∀ operation ∈ job.operations, _))

theorem program_isOk_iff {given : Json} {default : Profile} {job : Job}
    (read : (ofJson given default).outcome = .ok job) (stamp : Timestamp) :
    ((∃ program, (job.program stamp).outcome = .ok program) ↔ job.Schedulable) ∧
      (¬job.Schedulable → (job.program stamp).outcome = .error (.arithmetic .infiniteCount)) := by
  have doubles := (ofJson_meets given default).result job read
  rcases assemble_of_doubles doubles job.profile job.panel job.catalog stamp with
    ⟨can, made⟩ | ⟨cannot, fails⟩
  · exact ⟨iff_of_true made can, fun cannot => absurd can cannot⟩
  · refine ⟨iff_of_false ?_ cannot, fun _ => fails⟩
    rintro ⟨program, made⟩
    rw [Job.program, fails] at made
    cases made

end Job

namespace Sample

def payload (depth step : Double) : Json :=
  let point (x y : Number) : Json := .list [.number x, .number y]
  .object
    [("panel", .object [("dimensions", .object
      [("length", .number 600), ("width", .number 300), ("thickness", .number 18)])]),
      ("operations", .list [.object
        [("type", .text "contour"), ("tool", .text "mill_6mm"), ("depth", .ofDouble depth),
          ("multi_pass", .bool true), ("pass_depth", .ofDouble step),
          ("path", .list [point 0 0, point 40 0])]])]

end Sample

/-- A contour of two passes has a program; one `1e300` deep, at `1e-300` a pass, has none. -/
theorem Job.program_isOk_iff_of_sample :
    (∃ job program,
      (Job.ofJson (Sample.payload (.ofInt 5) (.ofInt 3)) .standard).outcome = .ok job ∧
      (job.program Sample.stamp).outcome = .ok program) ∧
    ∃ job, (Job.ofJson (Sample.payload (.ofDecimal false 1 300) (.ofDecimal false 1 (-300)))
        .standard).outcome = .ok job ∧
      (job.program Sample.stamp).outcome = .error (.arithmetic .infiniteCount) := by
  have found (given : Json) (schedulable : Bool)
      (computed : ((Job.ofJson given .standard).outcome.toOption.map (decide ·.Schedulable)) =
        some schedulable) :
      ∃ job, (Job.ofJson given .standard).outcome = .ok job ∧
        decide job.Schedulable = schedulable := by
    cases outcome : (Job.ofJson given .standard).outcome with
    | ok job =>
        rw [outcome] at computed
        exact ⟨job, rfl, Option.some.inj computed⟩
    | error fault =>
        rw [outcome] at computed
        cases computed
  constructor
  · obtain ⟨job, read, can⟩ := found (Sample.payload (.ofInt 5) (.ofInt 3)) true
      (by decide +kernel)
    obtain ⟨program, made⟩ := (Job.program_isOk_iff read Sample.stamp).1.mpr (of_decide_eq_true can)
    exact ⟨job, program, read, made⟩
  · obtain ⟨job, read, cannot⟩ := found
      (Sample.payload (.ofDecimal false 1 300) (.ofDecimal false 1 (-300))) false
      (by decide +kernel)
    exact ⟨job, read, (Job.program_isOk_iff read Sample.stamp).2 (of_decide_eq_false cannot)⟩

end Millwork
