import Millwork.Proofs.CommandLine.Runs
import Millwork.Proofs.Json.Equality
import Millwork.Proofs.Service.Agreement

namespace Millwork

open Attempt

/-! ## Void jobs -/

theorem Job.ofJson_void {payload : Json} (void : payload.isVoid = true) (default : Profile) :
    ∃ faults, (Job.ofJson payload default).outcome = .error (.rejected faults) := by
  cases payload with
  | object members =>
      cases members with
      | nil => exact ⟨_, rfl⟩
      | cons member rest => cases void
  | _ => exact ⟨_, rfl⟩

theorem Job.isVoid_of_ofJson {payload : Json} {default : Profile} {job : Job}
    (read : (Job.ofJson payload default).outcome = .ok job) : payload.isVoid = false := by
  cases void : payload.isVoid with
  | false => rfl
  | true =>
      obtain ⟨faults, rejected⟩ := Job.ofJson_void void default
      rw [read] at rejected
      cases rejected

/-! ## Requests -/

theorem Request.document?_eq {a b : Request} (headers : a.headers = b.headers)
    (body : a.body = b.body) : a.document? = b.document? := by
  have content : a.content = b.content := by
    rw [Request.content, Request.content, header?, header?, headers, body]
  rw [document?, document?, content]

namespace Api

/-- The request is one of a client that may have it answered, for a route that takes data, and
hands this over, void or not. -/
structure Submits (settings : Json.Members) (route : Route) (request : Request) (payload : Json) :
    Prop where
  route : Route.ofPath? request.plainPath = some route
  verb : request.verb = "POST"
  authorized : isAuthorized? settings request = some true
  isJson : request.isJson = true
  within : Request.isOver? ((settings.get? "MAX_CONTENT_LENGTH").getD .null) request.size =
    some false
  document : request.document?.map Json.read = some (.ok payload)

variable {settings : Json.Members} {route : Route} {request : Request} {payload : Json}

namespace Submits

theorem size_ne (submits : Submits settings route request payload) : request.size ≠ 0 := by
  intro zero
  have empty : request.content = "" := String.utf8ByteSize_eq_zero_iff.mp zero
  have single : Json.Encoding.ofOctets ("".toUTF8.toList.map UInt8.toNat) = .single := by
    decide +kernel
  have text : request.document? = some "" := by
    rw [Request.document?, empty]
    simp only [single]
    rfl
  have unread : (Json.read "").isOk = false := by decide +kernel
  have document := submits.document
  rw [text, Option.map_some, Option.some_inj] at document
  rw [document] at unread
  cases unread

theorem data_eq (submits : Submits settings route request payload) :
    data settings request =
      if payload.isVoid then .error (.error (.text "No data provided") 400 [])
      else .ok payload := by
  rw [data, submits.isJson, submits.within, submits.document]
  simp [submits.size_ne]

theorem posts (submits : Submits settings route request payload) (filled : payload.isVoid = false) :
    Posts settings route request payload := by
  refine ⟨submits.route, submits.verb, submits.authorized, ?_⟩
  rw [submits.data_eq, filled]
  rfl

theorem answer_void (submits : Submits settings route request payload)
    (takes : route.takesData = true) (void : payload.isVoid = true) (stamp : Timestamp) :
    answer settings request stamp = .error (.text "No data provided") 400 [] := by
  rw [answer_of_route submits.route submits.verb takes]
  cases route with
  | machines | tools => cases takes
  | _ =>
      rw [serve, submits.authorized, submits.data_eq, void]
      rfl

end Submits

theorem status_generate_iff (settings : Json.Members) (payload : Json) (stamp : Timestamp) :
    (generate settings payload stamp).status = 200 ↔
      ∃ made, compiled settings payload stamp = .ok made := by
  cases compiles : compiled settings payload stamp with
  | ok made =>
      rw [generate, compiles]
      exact iff_of_true rfl ⟨made, rfl⟩
  | error fault =>
      rw [generate, compiles, reply]
      refine iff_of_false (fun fine => ?_) (by rintro ⟨_, ⟨⟩⟩)
      split at fine <;> cases fine

theorem status_answer_iff {default : Profile}
    (machine : (Profile.ofSettings settings).outcome = .ok default)
    (wants : Submits settings .generate request payload) (stamp : Timestamp) :
    (answer settings request stamp).status = 200 ↔
      ∃ made, compiled settings payload stamp = .ok made := by
  cases void : payload.isVoid with
  | false =>
      rw [answer_generate (wants.posts void)]
      exact status_generate_iff settings payload stamp
  | true =>
      obtain ⟨faults, rejected⟩ := Job.ofJson_void void default
      rw [wants.answer_void rfl void,
        compiled_rejected ((job_eq machine payload).trans rejected) stamp]
      exact iff_of_false nofun (by rintro ⟨_, ⟨⟩⟩)

end Api

/-! ## Surfaces -/

theorem Api.configure_ok {settings : Settings} {app : Json.Members}
    (configured : configure settings.toMembers = .ok app) :
    app = settings.toMembers ∧ ∃ rank, Level.threshold settings.logLevel = .ok rank := by
  have taken : settings.toMembers.filter (fun setting =>
      setting.1.toList.any Char.isUpper && !setting.1.toList.any Char.isLower) =
        settings.toMembers := by
    rw [List.filter_eq_self]
    simp only [Settings.toMembers, List.forall_mem_cons]
    decide +kernel
  have level : settings.toMembers.get? "LOG_LEVEL" = some (.text settings.logLevel) := rfl
  rw [configure, taken, level] at configured
  obtain ⟨_, shown, same⟩ := bind_eq_ok.mp configured
  cases threshold : Level.threshold settings.logLevel with
  | error fault =>
      rw [threshold] at shown
      cases shown
  | ok rank => exact ⟨(Except.ok.inj same).symm, rank, rfl⟩

/-- The command says of a job what the service replies to it. -/
structure Outcome.Agrees (outcome : Outcome) (generated downloaded : Reply) : Prop where
  exits : outcome.ending = .exit 0 ↔ generated.status = 200
  shows : generated.status = 200 → ∃ (members : Json.Members) (name text : String)
      (warnings : List String),
    outcome.output = text ∧
    outcome.errors = Text.ended (warnings.map ("WARNING: " ++ ·)) ∧
    generated.member? "data" = some (.object members) ∧
    members.get? "gcode" = some (.text text) ∧
    members.get? "warnings" = some (.list (warnings.map .text)) ∧
    downloaded = ⟨200, .file name text⟩

theorem Outcome.Agrees.of_neither {outcome : Outcome} {generated downloaded : Reply}
    (ending : outcome.ending ≠ .exit 0) (status : generated.status ≠ 200) :
    outcome.Agrees generated downloaded :=
  ⟨iff_of_false ending status, fun fine => absurd fine status⟩

theorem Outcome.Prints.agrees {outcome : Outcome} {program : Program} {members : Json.Members}
    {payload : Json} {job : Job} {wanted stored : Request} {stamp : Timestamp}
    (printed : outcome.Prints (.ok program))
    (compiled : Api.compiled members payload stamp = .ok (job, program))
    (wants : Api.Posts members .generate wanted payload)
    (stores : Api.Posts members .download stored payload) :
    outcome.Agrees (Api.answer members wanted stamp) (Api.answer members stored stamp) := by
  obtain ⟨output, errors⟩ := printed.shows program rfl
  rw [Api.answer_generate wants, Api.answer_download stores, Api.generate, Api.download, compiled]
  refine ⟨iff_of_true (printed.exits.mpr ⟨program, rfl⟩) rfl, fun _ => ?_⟩
  refine ⟨_, _, program.text, program.warnings.map Warning.message, output, ?_, rfl, rfl, ?_, rfl⟩
  · rw [List.map_map]
    exact errors
  · rw [List.map_map]
    rfl

section Surfaces

variable {settings : Settings} {default : Profile} {order : Order} {file : JobFile}
  {payload : Json} {wanted stored : Request} {rank : Nat}

theorem agrees_of_submits (shown : Level.threshold settings.logLevel = .ok rank)
    (machine : settings.profile.outcome = .ok default) (plain : order.dialect = none)
    (prints : order.print = true) (reads : order.value file = .ok payload)
    (wants : Api.Submits settings.toMembers .generate wanted payload)
    (stores : Api.Submits settings.toMembers .download stored payload) (directory : String)
    (stamp : Timestamp) :
    (order.run settings directory file stamp).Agrees
      (Api.answer settings.toMembers wanted stamp)
      (Api.answer settings.toMembers stored stamp) := by
  have compiled : Api.compiled settings.toMembers payload stamp = do
      let job ← (Job.ofJson payload default).outcome
      return (job, ← (job.program stamp).outcome) := by
    rw [Api.compiled, Api.job_eq machine]
  have unanswered {fault : Fault}
      (fails : Api.compiled settings.toMembers payload stamp = .error fault) :
      (Api.answer settings.toMembers wanted stamp).status ≠ 200 := by
    rw [Ne, Api.status_answer_iff machine wants, fails]
    rintro ⟨_, ⟨⟩⟩
  cases read : (Job.ofJson payload default).outcome with
  | error fault =>
      rw [read] at compiled
      exact .of_neither (Order.ending_of_fault order shown machine reads read directory stamp)
        (unanswered compiled)
  | ok job =>
      have printed := Order.run_prints order shown machine reads prints read directory stamp
      rw [Order.program_of_plain plain, Functor.map_map, id_map'] at printed
      rw [read, ok_bind] at compiled
      cases made : (job.program stamp).outcome with
      | error fault =>
          rw [made] at printed compiled
          exact .of_neither (mt printed.exits.mp (by rintro ⟨_, ⟨⟩⟩)) (unanswered compiled)
      | ok program =>
          rw [made] at printed compiled
          have filled := Job.isVoid_of_ofJson read
          exact printed.agrees compiled (wants.posts filled) (stores.posts filled)

/-- One job, given to the command in a file and to the service in two requests; and the command with
the option for a dialect, beside the same job with the dialect of its machine set. -/
theorem surfaces_agree {app : Json.Members}
    (configured : Api.configure settings.toMembers = .ok app)
    (machine : settings.profile.outcome = .ok default) (plain : order.dialect = none)
    (prints : order.print = true) (reads : order.value file = .ok payload) (directory : String)
    (stamp : Timestamp) :
    (∀ wanted stored, Api.Submits app .generate wanted payload →
        Api.Submits app .download stored payload →
        (order.run settings directory file stamp).Agrees (Api.answer app wanted stamp)
          (Api.answer app stored stamp)) ∧
      ∀ job dialect, (Job.ofJson payload default).outcome = .ok job →
        (∃ respelled, (Job.ofJson (payload.withDialect dialect) default).outcome = .ok respelled ∧
          (({ order with dialect := some dialect } : Order).run settings directory file
            stamp).Prints (respelled.program stamp).outcome) ∧
        ∀ other, order.value other = .ok (payload.withDialect dialect) →
          (({ order with dialect := some dialect } : Order).run settings directory file
              stamp).withoutLog = (order.run settings directory other stamp).withoutLog := by
  obtain ⟨rfl, rank, shown⟩ := Api.configure_ok configured
  have settled : default.Settled := Profile.settled_of_ofMembers machine
  refine ⟨fun wanted stored wants stores =>
    agrees_of_submits shown machine plain prints reads wants stores directory stamp, ?_⟩
  intro job dialect read
  have respelled := Job.ofJson_withDialect settled read dialect
  refine ⟨⟨_, respelled, ?_⟩, fun other reads' => ?_⟩
  · have printed := Order.run_prints { order with dialect := some dialect } shown machine reads
      prints read directory stamp
    rwa [Order.program_of_dialect (Job.ofJson_settled settled read), Order.program_of_plain rfl,
      Functor.map_map, id_map'] at printed
  · have without : ({ order with dialect := none } : Order) = order := by rw [← plain]
    have same := Order.run_of_dialect shown machine settled read dialect reads reads' directory
      stamp
    rwa [without] at same

end Surfaces

namespace Sample

def sheet : Json :=
  .object [("panel", .object [("dimensions", .object
      [("length", .number 6), ("width", .number 3), ("thickness", .number 1)])]),
    ("operations", .list [.object [("type", .text "drill"), ("tool", .text "none"),
      ("x", .number 1), ("y", .number 2), ("diameter", .number 5), ("depth", .number 5)]])]

def respelledDocument : String :=
  "\x7b\"panel\":\x7b\"dimensions\":\x7b\"length\":6,\"width\":3,\"thickness\":1\x7d\x7d," ++
    "\"operations\":[\x7b\"type\":\"drill\",\"tool\":\"none\",\"x\":1,\"y\":2,\"diameter\":5," ++
    "\"depth\":5\x7d],\"machine\":\x7b\"dialect\":\"scm\"\x7d\x7d"

def settings : Settings where
  secretKey := ""
  apiKey := some "key"
  logLevel := "info"
  outputDirectory := "output"
  dialect := "Biesse"
  safeHeight := .ofInt 10
  spindleSpeed := .ofInt 18000
  feedRate := .ofInt 800
  plungeRate := .ofInt 300
  toolCompensation := "off"
  toolRates := "yes"
  maxContentLength := 4096

def order : Order := ⟨"job.json", none, none, true⟩

def jobFile (text : String) : JobFile := .ok (text.toUTF8.toList.map UInt8.toNat)

def keyed (route : Route) : Request :=
  { post route (document "5") with headers := [("X-Api-Key", "key")] }

theorem eq_ok {ε α : Type} {x : Except ε α} {a : α} (found : x.toOption = some a) : x = .ok a := by
  cases x with
  | error fault => cases found
  | ok b => exact congrArg Except.ok (Option.some.inj found)

theorem value_document : order.value (jobFile (document "5")) = .ok sheet := by
  refine eq_ok ((order.value_octets _).trans ?_)
  simp only [Json.read_ofList]
  decide +kernel

theorem value_respelled :
    order.value (jobFile respelledDocument) = .ok (sheet.withDialect .scm) := by
  refine eq_ok ((order.value_octets _).trans ?_)
  simp only [Json.read_ofList]
  decide +kernel

theorem read_keyed : ((keyed .generate).document?.bind fun text => (Json.read text).toOption) =
    some sheet := by
  decide +kernel

theorem submits {route : Route} (makes : route = .generate ∨ route = .download) :
    Api.Submits settings.toMembers route (keyed route) sheet := by
  obtain ⟨text, given, read⟩ := Option.bind_eq_some_iff.mp read_keyed
  have own : (keyed route).document? = (keyed .generate).document? :=
    Request.document?_eq rfl rfl
  have document : (keyed route).document?.map Json.read = some (.ok sheet) := by
    rw [own, given, Option.map_some, eq_ok read]
  rcases makes with rfl | rfl <;>
    exact ⟨by decide +kernel, by decide +kernel, by decide +kernel, by decide +kernel,
      by decide +kernel, document⟩

end Sample

/-- The tool is missing, so there is a warning; the default dialect is another one. -/
theorem surfaces_agree_of_sample :
    ∃ app default job,
      Api.configure Sample.settings.toMembers = .ok app ∧
      Sample.settings.profile.outcome = .ok default ∧
      Sample.order.value (Sample.jobFile (Sample.document "5")) = .ok Sample.sheet ∧
      Api.Submits app .generate (Sample.keyed .generate) Sample.sheet ∧
      Api.Submits app .download (Sample.keyed .download) Sample.sheet ∧
      (Job.ofJson Sample.sheet default).outcome = .ok job ∧
      (Sample.order.run Sample.settings "/" (Sample.jobFile (Sample.document "5"))
          Sample.stamp).Agrees (Api.answer app (Sample.keyed .generate) Sample.stamp)
        (Api.answer app (Sample.keyed .download) Sample.stamp) ∧
      (∃ respelled,
        (Job.ofJson (Sample.sheet.withDialect .scm) default).outcome = .ok respelled ∧
        (({ Sample.order with dialect := some .scm } : Order).run Sample.settings "/"
            (Sample.jobFile (Sample.document "5")) Sample.stamp).Prints
          (respelled.program Sample.stamp).outcome) ∧
      (({ Sample.order with dialect := some .scm } : Order).run Sample.settings "/"
          (Sample.jobFile (Sample.document "5")) Sample.stamp).withoutLog =
        (Sample.order.run Sample.settings "/" (Sample.jobFile Sample.respelledDocument)
          Sample.stamp).withoutLog := by
  obtain ⟨app, configured⟩ := Attempt.exists_ok (x := Api.configure Sample.settings.toMembers)
    (by decide +kernel)
  obtain ⟨default, machine⟩ := Attempt.exists_ok (x := Sample.settings.profile.outcome)
    (by decide +kernel)
  have reads : (Sample.settings.profile.outcome.toOption.map fun default =>
      (Job.ofJson Sample.sheet default).outcome.isOk) = some true := by decide +kernel
  rw [machine] at reads
  obtain ⟨job, read⟩ := Attempt.exists_ok (x := (Job.ofJson Sample.sheet default).outcome)
    (Option.some.inj reads)
  obtain ⟨same, -⟩ := Api.configure_ok configured
  have wants : Api.Submits app .generate (Sample.keyed .generate) Sample.sheet :=
    same ▸ Sample.submits (.inl rfl)
  have stores : Api.Submits app .download (Sample.keyed .download) Sample.sheet :=
    same ▸ Sample.submits (.inr rfl)
  obtain ⟨agree, respell⟩ := surfaces_agree configured machine rfl rfl Sample.value_document "/"
    Sample.stamp
  obtain ⟨prints, alike⟩ := respell job .scm read
  exact ⟨app, default, job, configured, machine, Sample.value_document, wants, stores, read,
    agree _ _ wants stores, prints, alike _ Sample.value_respelled⟩

end Millwork
