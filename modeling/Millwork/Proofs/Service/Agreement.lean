import Millwork.Proofs.Job.Reading
import Millwork.Proofs.Program.Assembly
import Millwork.Service.Api

namespace Millwork

/-! ## Faults have something to say -/

section Messages

variable {front back : String}

theorem append_ne_of_left (nonempty : front ≠ "") : front ++ back ≠ "" :=
  fun empty => nonempty (String.append_eq_empty_iff.mp empty).1

theorem append_ne_of_right (nonempty : back ≠ "") : front ++ back ≠ "" :=
  fun empty => nonempty (String.append_eq_empty_iff.mp empty).2

theorem Refusal.message_ne (refusal : Refusal) : refusal.message ≠ "" := by
  cases refusal with
  | toolWithoutId | emptyPath => decide
  | entryAngle | panelOffset | setting => exact append_ne_of_left (by decide)
  | drillPosition | pathCoordinate | operationWithoutTool | duplicateTool =>
      exact append_ne_of_right (by decide)
  | notPositive | negative | panelWord | notAMember =>
      exact append_ne_of_left (append_ne_of_right (by decide))

theorem JobFault.message_ne (fault : JobFault) : fault.message ≠ "" := by
  cases fault with
  | jobNotAnObject | machineNotAnObject => decide
  | catalogRefused refusal | machineRefused refusal => exact refusal.message_ne
  | refused place refusal => exact append_ne_of_right refusal.message_ne
  | unknownKind => exact append_ne_of_left (append_ne_of_right (by decide))
  | notANumber | notAFlag =>
      exact append_ne_of_left (append_ne_of_right (by decide))
  | _ => exact append_ne_of_right (by decide)

theorem Fault.message_ne {fault : Fault} (told : fault.IsRejection) : fault.message ≠ "" := by
  cases told with
  | rejected faults nonempty =>
      cases faults with
      | nil => exact absurd rfl nonempty
      | cons first more =>
          cases more with
          | nil => exact first.message_ne
          | cons second more =>
              rw [message, List.map_cons, List.map_cons, String.intercalate_cons_cons]
              exact append_ne_of_left (append_ne_of_left first.message_ne)

theorem Reply.problems_ne {text : String} (nonempty : text ≠ "") : problems text ≠ [] := by
  rw [problems]
  cases chars : text.toList with
  | nil => exact absurd (String.toList_eq_nil_iff.mp chars) nonempty
  | cons c rest =>
      rw [Text.lines]
      exact List.cons_ne_nil _ _

end Messages

/-! ## Blocks without a tool -/

namespace Program

variable (program : Program)

def diagnostic (operation : Operation) (number : Nat) : String :=
  program.dialect.spelling.comment
    s!"ERROR: tool \"{operation.toolId}\" not found for operation {number}"

def diagnosed (operations : List Operation) : List (Operation × Nat) :=
  ((operations.zipIdx 1).zip program.blocks).filterMap fun (entry, block) =>
    if program.render block = [program.diagnostic entry.1 entry.2] then some entry else none

end Program

private theorem filterMap_zip_eq_filter {α β : Type} {keeps : α → β → Prop}
    [∀ a b, Decidable (keeps a b)] {keep : α → Bool} {items : List α} {others : List β}
    (each : List.Forall₂ (fun a b => keeps a b ↔ keep a = true) items others) :
    ((items.zip others).filterMap fun pair => if keeps pair.1 pair.2 then some pair.1 else none) =
      items.filter keep := by
  induction each with
  | nil => rfl
  | @cons a b items others here _ ih =>
      rw [List.zip_cons_cons, List.filterMap_cons, List.filter_cons, ih]
      by_cases kept : keeps a b
      · rw [if_pos kept, if_pos (here.mp kept)]
      · rw [if_neg kept, if_neg (mt here.mpr kept)]

section Blocks

variable {profile : Profile} {panel : Panel} {operations : List Operation} {catalog : Catalog}
  {stamp : Timestamp} {program : Program}

/-- A block that cuts has a heading, so it is never a single line. -/
theorem block_eq_diagnostic_iff {number : Nat} {operation : Operation}
    {result : Block × Option Warning}
    (made : (block profile catalog (.whole number) operation).outcome = .ok result) :
    program.render result.1 = [program.diagnostic operation number] ↔
      (catalog.find? operation.toolId).isNone = true := by
  rcases block_parts made with ⟨missing, rfl⟩ | ⟨tool, warning, lines, found, -, -, rfl⟩
  · rw [missing]
    exact iff_of_true rfl rfl
  · rw [found]
    refine iff_of_false (fun single => ?_) (by simp)
    have length := congrArg List.length single
    simp [Program.render, Operation.heading] at length

theorem Program.diagnosed_eq
    (made : (assemble profile panel operations catalog stamp).outcome = .ok program) :
    program.diagnosed operations =
      (operations.zipIdx 1).filter fun entry => (catalog.find? entry.1.toolId).isNone := by
  have each : List.Forall₂ (fun entry block =>
      program.render block = [program.diagnostic entry.1 entry.2] ↔
        (catalog.find? entry.1.toolId).isNone = true) (operations.zipIdx 1) program.blocks := by
    obtain ⟨blocks, rfl, all⟩ := assemble_ok made
    exact List.forall₂_map_right_iff.mpr
      (all.imp fun entry result here => block_eq_diagnostic_iff here)
  exact filterMap_zip_eq_filter each

theorem blocks_eq_nil_iff
    (made : (assemble profile panel operations catalog stamp).outcome = .ok program) :
    program.blocks = [] ↔ operations = [] := by
  obtain ⟨blocks, rfl, all⟩ := assemble_ok made
  have lengths := all.length_eq
  rw [List.length_zipIdx] at lengths
  rw [← List.length_eq_zero_iff, ← List.length_eq_zero_iff, lengths, Program.ofBlocks,
    List.length_map]

end Blocks

/-! ## Replies -/

def Reply.member? (reply : Reply) (name : String) : Option Json :=
  match reply.content with
  | .json (.object members) => Json.Members.get? members name
  | _ => none

theorem Reply.errors_jobError {text : String} (nonempty : problems text ≠ []) :
    (jobError text).member? "errors" = some (.list (problems text)) := by
  rw [jobError, error, List.isEmpty_eq_false_iff.mpr nonempty]
  rfl

namespace Api

/-- The replies to a job that is validated, generated and downloaded. -/
structure Agree (read : Attempt Job) (stamp : Timestamp)
    (validated generated downloaded : Reply) : Prop where
  valid : validated.member? "valid" = some (.bool true) ↔ ∃ job, read = .ok job
  /-- A job that is not read has problems, the same ones in all replies. -/
  problems : (¬∃ job, read = .ok job) → ∃ problems, problems ≠ [] ∧
    validated.member? "errors" = some (.list problems) ∧
    ∀ reply ∈ [generated, downloaded],
      reply.status = 400 ∧ reply.member? "errors" = some (.list problems)
  remarks : ∀ job program, read = .ok job → (job.program stamp).outcome = .ok program →
    (generated.status = 200 ∧ ∃ members, generated.member? "data" = some (.object members) ∧
      Json.Members.get? members "gcode" = some (.text program.text)) ∧
    ∃ remarks : List String, validated.member? "warnings" = some (.list (remarks.map .text)) ∧
      remarks = (program.diagnosed job.operations).map (fun entry =>
          s!"Operation {entry.2}: tool \"{entry.1.toolId}\" not found") ++
        (if program.blocks.isEmpty then ["Job has no operations"] else []) ∧
      ("Job has no operations" ∈ remarks ↔ program.blocks = [])

/-- The request is one of a client that may have it answered, for a route that takes data, and
hands this over. -/
structure Posts (settings : Json.Members) (route : Route) (request : Request) (payload : Json) :
    Prop where
  route : Route.ofPath? request.plainPath = some route
  verb : request.verb = "POST"
  authorized : isAuthorized? settings request = some true
  data : data settings request = .ok payload

variable {settings : Json.Members} {request : Request} {payload : Json}

theorem answer_of_route {route : Route} (here : Route.ofPath? request.plainPath = some route)
    (verb : request.verb = "POST") (takes : route.takesData = true) (stamp : Timestamp) :
    answer settings request stamp = serve settings route request stamp := by
  have allowed : "POST" ∈ route.verbs := by
    rw [Route.verbs, if_pos takes]
    decide
  rw [answer, here]
  simp [answerOn, verb, allowed]

theorem answer_of_posts {route : Route} (posts : Posts settings route request payload)
    (takes : route.takesData = true) (stamp : Timestamp) :
    answer settings request stamp = serve settings route request stamp :=
  answer_of_route posts.route posts.verb takes stamp

theorem answer_validate (posts : Posts settings .validate request payload) (stamp : Timestamp) :
    answer settings request stamp = validate settings payload := by
  rw [answer_of_posts posts rfl, serve, posts.authorized, posts.data]

theorem answer_generate (posts : Posts settings .generate request payload) (stamp : Timestamp) :
    answer settings request stamp = generate settings payload stamp := by
  rw [answer_of_posts posts rfl, serve, posts.authorized, posts.data]

theorem answer_download (posts : Posts settings .download request payload) (stamp : Timestamp) :
    answer settings request stamp = download settings payload stamp := by
  rw [answer_of_posts posts rfl, serve, posts.authorized, posts.data]

def toolRemark (operation : Operation) (number : Nat) : String :=
  s!"Operation {number}: tool \"{operation.toolId}\" not found"

theorem remarks_eq (job : Job) : remarks job =
    ((job.operations.zipIdx 1).filter fun entry =>
        (job.catalog.find? entry.1.toolId).isNone).map (fun entry => toolRemark entry.1 entry.2) ++
      if job.operations.isEmpty then ["Job has no operations"] else [] := by
  rw [remarks, ← List.filterMap_eq_map, List.filterMap_filter]
  congr 2
  funext ⟨operation, number⟩
  change _ = if (findTool? job.catalog.tools operation.toolId).isNone then
    some (toolRemark operation number) else none
  dsimp only
  cases findTool? job.catalog.tools operation.toolId <;> rfl

variable {default : Profile}

theorem job_eq (machine : (Profile.ofSettings settings).outcome = .ok default) (payload : Json) :
    job settings payload = (Job.ofJson payload default).outcome := by
  rw [job, Traced.outcome_bind, machine]
  rfl

section Rejected

variable {faults : List JobFault}

theorem validate_rejected (rejected : job settings payload = .error (.rejected faults)) :
    validate settings payload =
      .validation (Reply.problems (Fault.rejected faults).message) [] := by
  rw [validate, rejected]
  rfl

theorem compiled_rejected (rejected : job settings payload = .error (.rejected faults))
    (stamp : Timestamp) : compiled settings payload stamp = .error (.rejected faults) := by
  rw [compiled, rejected]
  rfl

theorem generate_rejected (rejected : job settings payload = .error (.rejected faults))
    (stamp : Timestamp) :
    generate settings payload stamp = .jobError (Fault.rejected faults).message := by
  rw [generate, compiled_rejected rejected]
  rfl

theorem download_rejected (rejected : job settings payload = .error (.rejected faults))
    (stamp : Timestamp) :
    download settings payload stamp = .jobError (Fault.rejected faults).message := by
  rw [download, compiled_rejected rejected]
  rfl

end Rejected

theorem validate_read {job : Job} (read : Api.job settings payload = .ok job) :
    validate settings payload = .validation [] ((remarks job).map .text) := by
  rw [validate, read]
  rfl

theorem mem_remarks_iff (job : Job) :
    "Job has no operations" ∈ remarks job ↔ job.operations = [] := by
  have apart (operation : Operation) (number : Nat) :
      toolRemark operation number ≠ "Job has no operations" := by
    intro same
    -- Their first letters tell them apart, whatever the number and the tool are.
    have head : (toolRemark operation number).toList.head? = some 'O' := by
      simp only [toolRemark, String.toList_append, List.append_assoc]
      rfl
    rw [same] at head
    exact absurd head (by decide)
  rw [remarks_eq, List.mem_append]
  constructor
  · rintro (tool | told)
    · obtain ⟨entry, -, same⟩ := List.mem_map.mp tool
      exact absurd same (apart _ _)
    · by_contra occupied
      simp [occupied] at told
  · intro empty
    simp [empty]

theorem remarks_eq_diagnosed {job : Job} {stamp : Timestamp} {program : Program}
    (made : (job.program stamp).outcome = .ok program) :
    remarks job =
      (program.diagnosed job.operations).map (fun entry => toolRemark entry.1 entry.2) ++
        if program.blocks.isEmpty then ["Job has no operations"] else [] := by
  have empty : program.blocks.isEmpty = job.operations.isEmpty := by
    rw [Bool.eq_iff_iff, List.isEmpty_iff, List.isEmpty_iff]
    exact blocks_eq_nil_iff made
  rw [remarks_eq, Program.diagnosed_eq made, empty]

theorem agree_of_rejected {faults : List JobFault} (nonempty : faults ≠ [])
    (rejected : job settings payload = .error (.rejected faults)) (stamp later : Timestamp) :
    Agree (job settings payload) stamp (validate settings payload)
      (generate settings payload stamp) (download settings payload later) := by
  rw [validate_rejected rejected, generate_rejected rejected, download_rejected rejected, rejected]
  have shown := Reply.problems_ne (Fault.message_ne (.rejected faults nonempty))
  -- The replies look at the message alone, not at the faults that it is of.
  generalize (Fault.rejected faults).message = text at shown
  refine ⟨?_, fun _ => ⟨Reply.problems text, shown, rfl, ?_⟩, fun _ _ other => nomatch other⟩
  · refine iff_of_false (fun valid => ?_) (fun ⟨_, other⟩ => nomatch other)
    simp [Reply.validation, Reply.member?, Json.Members.get?, shown] at valid
  · intro reply mem
    rw [List.mem_pair, or_self] at mem
    exact mem ▸ ⟨rfl, Reply.errors_jobError shown⟩

theorem agree_of_read {job : Job} (read : Api.job settings payload = .ok job)
    (stamp later : Timestamp) :
    Agree (Api.job settings payload) stamp (validate settings payload)
      (generate settings payload stamp) (download settings payload later) := by
  rw [validate_read read]
  refine ⟨iff_of_true rfl ⟨job, read⟩, fun unread => absurd ⟨job, read⟩ unread, ?_⟩
  intro _ program same made
  cases read.symm.trans same
  have compiled : compiled settings payload stamp = .ok (job, program) := by
    rw [compiled, read, Attempt.ok_bind, made]
    rfl
  refine ⟨?_, remarks job, rfl, remarks_eq_diagnosed made, ?_⟩
  · rw [generate, compiled]
    exact ⟨rfl, _, rfl, rfl⟩
  · rw [mem_remarks_iff, blocks_eq_nil_iff made]

theorem answer_agrees {checked wanted stored : Request}
    (machine : (Profile.ofSettings settings).outcome = .ok default)
    (checks : Posts settings .validate checked payload)
    (wants : Posts settings .generate wanted payload)
    (stores : Posts settings .download stored payload)
    (verdict : (∃ job, (Job.ofJson payload default).outcome = .ok job) ∨
      ∃ faults, (Job.ofJson payload default).outcome = .error (.rejected faults))
    (earlier stamp later : Timestamp) :
    Agree (Job.ofJson payload default).outcome stamp (answer settings checked earlier)
      (answer settings wanted stamp) (answer settings stored later) := by
  rw [answer_validate checks, answer_generate wants, answer_download stores]
  rw [← job_eq machine]
  rcases verdict with ⟨job, read⟩ | ⟨faults, rejected⟩
  · exact agree_of_read ((job_eq machine payload).trans read) stamp later
  · have nonempty : faults ≠ [] := by
      cases (Job.ofJson_meets payload default).fault _ rejected with
      | rejected _ nonempty => exact nonempty
    exact agree_of_rejected nonempty ((job_eq machine payload).trans rejected) stamp later

end Api

namespace Sample

/-- A hole whose tool is missing, drilled to a depth that may be any text. -/
def document (depth : String) : String :=
  "\x7b\"panel\":\x7b\"dimensions\":\x7b\"length\":6,\"width\":3,\"thickness\":1\x7d\x7d," ++
    "\"operations\":[\x7b\"type\":\"drill\",\"tool\":\"none\",\"x\":1,\"y\":2,\"diameter\":5," ++
    "\"depth\":" ++ depth ++ "\x7d]\x7d"

def post (route : Route) (body : String) : Request :=
  ⟨"POST", route.path, [], some "application/json", some body⟩

theorem route_post (route : Route) : Route.ofPath? (post route "").plainPath = some route := by
  cases route <;> decide +kernel

theorem verb_post : (post .validate "").verb = "POST" := by decide +kernel

theorem posts (route : Route) {body : String} {payload : Json}
    (data : Api.data [] (post .validate body) = .ok payload) :
    Api.Posts [] route (post route body) payload where
  route := route_post route
  verb := verb_post
  authorized := rfl
  data := data

def verdict? : Attempt Job → Option Bool
  | .ok _ => some true
  | .error (.rejected _) => some false
  | .error _ => none

end Sample

/-- A depth of 5, and one of -5. -/
theorem Api.answer_agrees_of_sample :
    let agree (default : Profile) (payload : Json) (body : String) : Prop :=
      Agree (Job.ofJson payload default).outcome Sample.stamp
        (answer [] (Sample.post .validate body) Sample.stamp)
        (answer [] (Sample.post .generate body) Sample.stamp)
        (answer [] (Sample.post .download body) Sample.stamp)
    ∃ default valid invalid,
      (∃ job, (Job.ofJson valid default).outcome = .ok job) ∧
      agree default valid (Sample.document "5") ∧
      (∃ faults, (Job.ofJson invalid default).outcome = .error (.rejected faults)) ∧
      agree default invalid (Sample.document "-5") := by
  obtain ⟨default, machine⟩ :=
    Attempt.exists_ok (x := (Profile.ofSettings []).outcome) (by decide +kernel)
  have found (body : String) (fine : Bool)
      (computed : ((Profile.ofSettings []).outcome.toOption.bind fun default =>
        (data [] (Sample.post .validate body)).toOption.bind fun payload =>
          Sample.verdict? (Job.ofJson payload default).outcome) = some fine) :
      ∃ payload, data [] (Sample.post .validate body) = .ok payload ∧
        Sample.verdict? (Job.ofJson payload default).outcome = some fine := by
    rw [machine] at computed
    cases read : data [] (Sample.post .validate body) with
    | error turnedDown =>
        rw [read] at computed
        cases computed
    | ok payload =>
        rw [read] at computed
        exact ⟨payload, rfl, computed⟩
  obtain ⟨valid, data, fine⟩ := found (Sample.document "5") true (by decide +kernel)
  obtain ⟨invalid, data', wrong⟩ := found (Sample.document "-5") false (by decide +kernel)
  have read : ∃ job, (Job.ofJson valid default).outcome = .ok job := by
    revert fine
    cases (Job.ofJson valid default).outcome with
    | ok job => exact fun _ => ⟨job, rfl⟩
    | error fault => cases fault <;> exact nofun
  have rejected : ∃ faults, (Job.ofJson invalid default).outcome = .error (.rejected faults) := by
    revert wrong
    cases (Job.ofJson invalid default).outcome with
    | ok job => exact nofun
    | error fault =>
        cases fault with
        | rejected faults => exact fun _ => ⟨faults, rfl⟩
        | _ => exact nofun
  refine ⟨default, valid, invalid, read, ?_, rejected, ?_⟩
  · exact answer_agrees machine (Sample.posts _ data) (Sample.posts _ data)
      (Sample.posts _ data) (.inl read) _ _ _
  · exact answer_agrees machine (Sample.posts _ data') (Sample.posts _ data')
      (Sample.posts _ data') (.inr rejected) _ _ _

end Millwork
