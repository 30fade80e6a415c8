import Millwork.Proofs.Job.Complaints
import Millwork.Proofs.Service.Agreement

namespace Millwork

theorem Complaint.message_ne {index : Int} {message : String} (told : Complaint index message) :
    message ≠ "" := by
  rintro rfl
  obtain ⟨mark, rest, -, chars⟩ := told.headed
  simp at chars

theorem Reply.problems_of_complaints {faults : List JobFault} {complaints : List String}
    (same : faults.map JobFault.message = complaints)
    (told : ∀ message ∈ complaints, ∃ n : Nat, Complaint n message) :
    problems (Fault.rejected faults).message = complaints.map .text := by
  have one : ∀ message ∈ complaints, Text.OneLine message := fun message mem =>
    (told message mem).elim fun _ complaint => complaint.oneLine
  have nonempty : ∀ message ∈ complaints, message ≠ "" := fun message mem =>
    (told message mem).elim fun _ complaint => complaint.message_ne
  rw [problems, Fault.message, same, Text.lines_intercalate one nonempty, List.map_map]
  exact List.map_congr_left fun message _ => congrArg Json.text message.ofList_toList

namespace Job

variable {members : Json.Members} {panel : Panel}

theorem ofJson_of_operations
    (drawn : Panel.ofJson (.ofOption (Json.Members.get? members "panel")) = .ok panel)
    {operations : List Operation} (past : operations? members = .ok operations)
    (default : Profile) : ofJson (.object members) default = do
      let catalog ← catalog? members
      let profile ← profile? members default
      return ⟨panel, operations, catalog, profile⟩ := by
  rw [ofJson, drawn, past]
  rfl

theorem ofJson_of_rejected
    (drawn : Panel.ofJson (.ofOption (Json.Members.get? members "panel")) = .ok panel)
    {faults : List JobFault} (rejected : operations? members = .error (.rejected faults))
    (default : Profile) :
    (ofJson (.object members) default).outcome = .error (.rejected faults) := by
  rw [ofJson, drawn, rejected]
  rfl

end Job

namespace Api

/-- What becomes of the operations of a job: it is gone on with the job when all can be read, and
otherwise each that cannot be read is a problem. -/
structure Sifts (settings members : Json.Members) (given : List Json) (panel : Panel)
    (default : Profile) : Prop where
  past_iff : (∃ operations, Job.operations? members = .ok operations) ↔
    ∀ entry ∈ given.zipIdx, ∃ operation, Operation.ofJson entry.2 entry.1 = .ok operation
  past : ∀ operations, Job.operations? members = .ok operations →
    Job.ofJson (.object members) default = do
      let catalog ← Job.catalog? members
      let profile ← Job.profile? members default
      return ⟨panel, operations, catalog, profile⟩
  rejected : (¬∃ operations, Job.operations? members = .ok operations) →
    ∃ faults, (Job.ofJson (.object members) default).outcome = .error (.rejected faults)
  listed : (¬∃ operations, Job.operations? members = .ok operations) → ∀ stamp : Timestamp,
    ∀ reply ∈ [validate settings (.object members), generate settings (.object members) stamp,
        download settings (.object members) stamp],
      reply.member? "errors" = some (.list ((Operation.complaints 0 given).map .text))
  headed : ∀ entry ∈ given.zipIdx, ∀ message, Operation.complaint? entry.2 entry.1 = some message →
    ∃ mark rest, mark ∈ [':', ' '] ∧
      message.toList = s!"Operation {entry.2 + 1}".toList ++ mark :: rest

section

variable {settings members : Json.Members} {given : List Json} {panel : Panel} {default : Profile}

theorem sifts_operations (machine : (Profile.ofSettings settings).outcome = .ok default)
    (drawn : Panel.ofJson (.ofOption (Json.Members.get? members "panel")) = .ok panel)
    (listed : Json.Members.get? members "operations" = some (.list given))
    (judged : ∀ entry ∈ given.zipIdx, Operation.IsJudged entry.2 entry.1) :
    Sifts settings members given panel default := by
  have list : Job.operations? members = Operation.listOfJson (0 : Nat) given := by
    rw [Job.operations?, listed]
    rfl
  have cases := Operation.listOfJson_of_judged judged
  rw [← list] at cases
  have apart : (∃ operations, Job.operations? members = .ok operations) →
      Operation.complaints 0 given = [] := by
    rintro ⟨operations, past⟩
    rcases cases with ⟨-, -, silent⟩ | ⟨faults, -, rejected, -⟩
    · exact silent
    · rw [rejected] at past
      cases past
  have failing (unread : ¬∃ operations, Job.operations? members = .ok operations) :
      ∃ faults, faults ≠ [] ∧ Job.operations? members = .error (.rejected faults) ∧
        faults.map JobFault.message = Operation.complaints 0 given := by
    rcases cases with ⟨operations, past, -⟩ | failing
    · exact absurd ⟨operations, past⟩ unread
    · exact failing
  refine ⟨⟨fun past => ?_, fun read => ?_⟩, fun operations past => ?_, fun unread => ?_,
    fun unread stamp => ?_, fun entry mem message told => ?_⟩
  · exact Operation.complaints_eq_nil_iff.mp (apart past)
  · rcases cases with ⟨operations, past, -⟩ | ⟨faults, nonempty, -, told⟩
    · exact ⟨operations, past⟩
    · rw [Operation.complaints_eq_nil_iff.mpr read, List.map_eq_nil_iff] at told
      exact absurd told nonempty
  · exact Job.ofJson_of_operations drawn past default
  · obtain ⟨faults, -, rejected, -⟩ := failing unread
    exact ⟨faults, Job.ofJson_of_rejected drawn rejected default⟩
  · obtain ⟨faults, nonempty, rejected, told⟩ := failing unread
    have turned := (job_eq machine (.object members)).trans
      (Job.ofJson_of_rejected drawn rejected default)
    have problems := Reply.problems_of_complaints told fun _ => Operation.mem_complaints judged
    have jobError := Reply.errors_jobError
      (Reply.problems_ne (Fault.message_ne (.rejected _ nonempty)))
    rw [validate_rejected turned, generate_rejected turned, download_rejected turned, ← problems]
    simp only [List.forall_mem_cons]
    exact ⟨rfl, jobError, jobError, List.forall_mem_nil _⟩
  · exact (Operation.complaint_of_judged (judged entry mem) told).headed

end

end Api

namespace Sample

/-- Of these only the first can be read. What is wrong with the others holds line feeds, a carriage
return, a form feed, a next line and a line separator. -/
def unruly : List Json :=
  let hole (depth : Json) : Json := .object [("type", .text "drill"), ("tool", .text "drill_5mm"),
    ("x", .number 1), ("y", .number 2), ("diameter", .number 5), ("depth", depth)]
  [hole (.number 3),
    hole (.text "1\n2\u2028"),
    .object [("type", .object [("a\u0085b", .list [.null, .text "\x0c"])])],
    .object [("type", .text "contour"), ("tool", .text "mill_6mm"), ("depth", .number 3),
      ("path", .list [.list [.number 1, .text "x\r\n"]])]]

def unrulySheet : Json.Members :=
  [("panel", .object [("dimensions", .object
      [("length", .number 600), ("width", .number 300), ("thickness", .number 18)])]),
    ("operations", .list unruly)]

theorem exists_rejected {α : Type} {x : Attempt α}
    (turned : (match x with | .error (.rejected _) => true | _ => false) = true) :
    ∃ faults, x = .error (.rejected faults) := by
  split at turned
  · exact ⟨_, rfl⟩
  · cases turned

end Sample

theorem Api.sifts_operations_of_sample :
    (∃ default panel, Sifts [] Sample.unrulySheet Sample.unruly panel default) ∧
    Operation.complaints 0 Sample.unruly =
      ["Operation 2: 'depth' must be a number, got '1\\n2\\u2028'",
        "Operation 3: unknown type \x7b'a\\x85b': [None, '\\x0c']\x7d, " ++
          "expected one of drill, contour, closed_pocket, open_pocket",
        "Operation 4 path[0]: invalid point [1, 'x\\r\\n'], expected [x, y]"] := by
  refine ⟨?_, by decide +kernel⟩
  obtain ⟨default, machine⟩ :=
    Attempt.exists_ok (x := (Profile.ofSettings []).outcome) (by decide +kernel)
  obtain ⟨panel, drawn⟩ := Attempt.exists_ok
    (x := Panel.ofJson (.ofOption (Json.Members.get? Sample.unrulySheet "panel")))
    (by decide +kernel)
  refine ⟨default, panel, sifts_operations machine drawn rfl ?_⟩
  rw [Sample.unruly]
  simp only [List.zipIdx_cons, List.forall_mem_cons]
  refine ⟨.inl (Attempt.exists_ok (by decide +kernel)), ?_, ?_, ?_, nofun⟩
  · exact .inr (Sample.exists_rejected (by decide +kernel))
  · exact .inr (Sample.exists_rejected (by decide +kernel))
  · exact .inr (Sample.exists_rejected (by decide +kernel))

end Millwork
