import Millwork.CommandLine.Outcome
import Millwork.Job.Basic
import Millwork.Json.Reader
import Millwork.Program.FileName
import Millwork.Settings

namespace Millwork

def Text.unifyLineEnds : List Char → List Char
  | '\r' :: '\n' :: rest => '\n' :: unifyLineEnds rest
  | '\r' :: rest => '\n' :: unifyLineEnds rest
  | c :: rest => c :: unifyLineEnds rest
  | [] => []

inductive JobFileFault where
  | absent (path : String)
  | badSyntax (path : String) (error : Json.SyntaxError)
  | rejected (faults : List JobFault)

def JobFileFault.message : JobFileFault → String
  | absent path => s!"Job file not found: {path}"
  | badSyntax path error => s!"Job file {path} is not valid JSON: {error.message}"
  | rejected faults => (Fault.rejected faults).message

inductive Obstacle where
  | problem (fault : JobFileFault)
  | failure (failure : Failure)

def Obstacle.ofFault : Fault → Obstacle
  | .rejected faults => problem (.rejected faults)
  | fault => failure (.fault fault)

abbrev JobFile := Except FileFault (List Nat)

namespace Order

variable (order : Order)

def value (file : JobFile) : Except Obstacle Json := do
  let octets ← file.mapError fun
    | .refused .absent _ => .problem (.absent order.jobFile)
    | fault => .failure (.file fault)
  let text ← (Utf8.decode octets).mapError fun fault => .failure (.undecodable fault)
  (Json.read (.ofList (Text.unifyLineEnds text.toList))).mapError fun
    | .badSyntax error => .problem (.badSyntax order.jobFile error)
    | .overlong digits => .failure (.fault (.unreadable (.overlong digits)))
    | .tooDeep => .failure .tooDeep

def job (file : JobFile) (default : Profile) : Except Obstacle Job × List Notice :=
  match order.value file with
  | .error obstacle => (.error obstacle, [])
  | .ok value =>
    let traced := Job.ofJson value default
    (traced.outcome.mapError Obstacle.ofFault, traced.notices)

def profile (profile : Profile) : Traced Profile :=
  match order.dialect with
  | none => pure profile
  | some dialect => Profile.ofMembers [("dialect", .text dialect.word)] profile

def program (job : Job) (stamp : Timestamp) : Traced (Profile × Program) := do
  let profile ← order.profile job.profile
  return (profile, ← assemble profile job.panel job.operations job.catalog stamp)

def problem (fault : JobFileFault) : String := s!"ERROR: Problem with job file:\n{fault.message}\n"

def destination (settings : Settings) (workingDirectory panel : String) : String :=
  match order.output with
  | some path =>
    if path.isEmpty then standard else path
  | none => standard
where
  standard : String :=
    FileName.path (FilePath.absolute workingDirectory settings.outputDirectory) panel

def done (settings : Settings) (workingDirectory : String) (job : Job) (profile : Profile)
    (program : Program) (log : String) : Outcome :=
  let warnings := Text.ended (program.warnings.map fun warning => "WARNING: " ++ warning.message)
  if order.print then ⟨program.text, log, warnings, none, .exit 0⟩
  else
    let path := order.destination settings workingDirectory job.panel.name
    let counts := s!"- {job.operations.length} operation(s), {program.lines.length} line(s), " ++
      s!"dialect {profile.dialect.word}"
    ⟨Text.ended [s!"Program for '{job.panel.name}' written to {path}", counts], log, warnings,
      some (path, program.text), .exit 0⟩

def runAt (threshold : Nat) (settings : Settings) (workingDirectory : String) (file : JobFile)
    (stamp : Timestamp) : Outcome :=
  let log (notices : List Notice) : String :=
    Text.ended ((notices.filter (threshold ≤ ·.level.rank)).map fun notice =>
      s!"{notice.level.word} {notice.source}: {notice.message}")
  let default := settings.profile
  match default.outcome with
  | .error fault => .failed (log default.notices) (.fault fault)
  | .ok profile =>
    let (job, notices) := order.job file profile
    let notices := default.notices ++ notices
    match job with
    | .error (.problem fault) => ⟨"", log notices, problem fault, none, .exit 1⟩
    | .error (.failure failure) => .failed (log notices) failure
    | .ok job =>
      let traced := order.program job stamp
      let notices := notices ++ traced.notices
      match traced.outcome with
      | .error fault => .failed (log notices) (.fault fault)
      | .ok (profile, program) =>
        order.done settings workingDirectory job profile program (log notices)

def run (settings : Settings) (workingDirectory : String) (file : JobFile) (stamp : Timestamp) :
    Outcome :=
  match Level.threshold settings.logLevel with
  | .error fault => .failed "" (.level fault)
  | .ok threshold => order.runAt threshold settings workingDirectory file stamp

def runIn (settings : Settings) (tree : FileTree) (stamp : Timestamp) : Outcome × FileTree :=
  (order.run settings tree.workingPath (tree.read order.jobFile) stamp).carryOut tree

end Order

end Millwork
