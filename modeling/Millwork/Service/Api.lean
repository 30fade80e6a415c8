import Millwork.Job.Basic
import Millwork.Program.FileName
import Millwork.Service.Request

namespace Millwork

inductive Route where
  | generate
  | download
  | validate
  | machines
  | tools
  deriving DecidableEq

namespace Route

def all : List Route := [generate, download, validate, machines, tools]

def path : Route → String
  | generate => "/generate"
  | download => "/generate/download"
  | validate => "/validate"
  | machines => "/machines"
  | tools => "/tools/defaults"

def takesData : Route → Bool
  | generate | download | validate => true
  | machines | tools => false

def ofPath? (path : List Char) : Option Route := all.find? (·.path.toList == path)

def verbs (route : Route) : List String :=
  if route.takesData then ["POST", "OPTIONS"] else ["GET", "HEAD", "OPTIONS"]

end Route

/-- Whether a client is told of a fault; any other is a failure of the service. -/
def Fault.isTold : Fault → Bool
  | .arithmetic .undefinedCount => true
  | .arithmetic _ => false
  | .unreadable (.number _) => false
  | .notCuttable | .depthNotANumber => false
  | _ => true

namespace Api

/-- The settings that an application takes over: those whose names are in capitals. There is no
application if the level of its notices is none. -/
def configure (settings : Json.Members) : Except LevelFault Json.Members := do
  let taken : Json.Members := settings.filter fun setting =>
    let name := setting.1.toList
    name.any Char.isUpper && !name.any Char.isLower
  match taken.get? "LOG_LEVEL" with
  | some (.text name) => discard (Level.threshold name)
  | _ => pure ()
  return taken

def job (settings : Json.Members) (data : Json) : Attempt Job :=
  (do Job.ofJson data (← Profile.ofSettings settings) : Traced Job).outcome

def compiled (settings : Json.Members) (data : Json) (stamp : Timestamp) :
    Attempt (Job × Program) := do
  let job ← job settings data
  return (job, ← (job.program stamp).outcome)

def reply {α : Type} (attempt : Attempt α) (told : String → Reply) (done : α → Reply) : Reply :=
  match attempt with
  | .ok value => done value
  | .error fault => if fault.isTold then told fault.message else .bare 500

def generate (settings : Json.Members) (data : Json) (stamp : Timestamp) : Reply :=
  reply (compiled settings data stamp) .jobError fun (_, program) =>
    let members := [("gcode", .text program.text),
      ("warnings", .list (program.warnings.map fun warning => .text warning.message)),
      ("line_count", .number (.whole program.lines.length))]
    .success (some (.object members)) none

def download (settings : Json.Members) (data : Json) (stamp : Timestamp) : Reply :=
  reply (compiled settings data stamp) .jobError fun (job, program) =>
    ⟨200, .file (FileName.ofPanel job.panel.name) program.text⟩

def remarks (job : Job) : List String :=
  (job.operations.zipIdx 1).filterMap (fun (operation, number) =>
      match findTool? job.catalog.tools operation.toolId with
      | none => some s!"Operation {number}: tool \"{operation.toolId}\" not found"
      | some _ => none) ++
    if job.operations.isEmpty then ["Job has no operations"] else []

def validate (settings : Json.Members) (data : Json) : Reply :=
  reply (job settings data) (fun message => .validation (Reply.problems message) [])
    fun job => .validation [] ((remarks job).map .text)

def machines (settings : Json.Members) : Reply :=
  match (Profile.ofSettings settings).outcome with
  | .ok profile =>
    let dialects := Dialect.all.map fun dialect => Json.text dialect.word
    let members := [("dialects", .list dialects), ("default", .object profile.toMembers)]
    .success (some (.object members)) none
  | .error _ => .bare 500

def tools : Reply :=
  let tools := Catalog.standard.tools.map fun tool => Json.object tool.toMembers
  .success (some (.object [("tools", .list tools)])) none

/-- Whether a request shows the key that is asked for; a key that is no text has no answer. -/
def isAuthorized? (settings : Json.Members) (request : Request) : Option Bool :=
  match (settings.get? "API_KEY").getD .null with
  | .text key => some (key.isEmpty || (request.header? "X-API-Key").getD "" == key)
  | key => if key.isVoid then some true else none

/-- The data of a request, or the reply that turns it down. A request without content has no
size. -/
def data (settings : Json.Members) (request : Request) : Except Reply Json :=
  let missing := Reply.error (.text "No data provided") 400 []
  if request.isJson && request.size != 0 then
    match Request.isOver? ((settings.get? "MAX_CONTENT_LENGTH").getD .null) request.size with
    | none => .error (.bare 500)
    | some true => .error (.bare 413)
    | some false =>
      match request.document?.map Json.read with
      | some (.ok value) => if value.isVoid then .error missing else .ok value
      | some (.error .tooDeep) => .error (.bare 500)
      | some (.error _) | none => .error missing
  else .error missing

def serve (settings : Json.Members) (route : Route) (request : Request) (stamp : Timestamp) :
    Reply :=
  let withData (done : Json → Reply) : Reply :=
    match data settings request with
    | .ok value => done value
    | .error turnedDown => turnedDown
  match isAuthorized? settings request with
  | none => .bare 500
  | some false => .error (.text "Invalid or missing API key") 401 []
  | some true =>
    match route with
    | .generate => withData (generate settings · stamp)
    | .download => withData (download settings · stamp)
    | .validate => withData (validate settings)
    | .machines => machines settings
    | .tools => tools

def answerOn (settings : Json.Members) (route : Route) (request : Request) (stamp : Timestamp) :
    Reply :=
  if !route.verbs.contains request.verb then .bare 405
  else if request.verb == "OPTIONS" then .bare 200
  else
    let reply := serve settings route request stamp
    if request.verb == "HEAD" then .bare reply.status else reply

def mergeSlashes : List Char → List Char
  | '/' :: '/' :: rest => '/' :: mergeSlashes rest
  | c :: rest => c :: mergeSlashes rest
  | [] => []

/-- The reply to a request. A path that leads to a route but for doubled slashes is sent there. -/
def answer (settings : Json.Members) (request : Request) (stamp : Timestamp) : Reply :=
  match Route.ofPath? request.plainPath, Route.ofPath? (mergeSlashes request.plainPath) with
  | some route, _ => answerOn settings route request stamp
  | none, some route => .bare (if route.verbs.contains request.verb then 308 else 405)
  | none, none => .bare 404

end Api

end Millwork
