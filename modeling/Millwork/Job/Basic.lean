import Millwork.Job.Operation
import Millwork.Machine.Profile
import Millwork.Panel
import Millwork.Program.Basic
import Millwork.Tool.Catalog

/-!
# Jobs

A job is a panel, the operations on it, the tools at hand and the machine. It is read from one
JSON value, in this order: the panel, the operations, the tools, the machine. Tools that are not
given are those of `Catalog.standard`, and a machine that is not given is the default profile.
-/

namespace Millwork

structure Job where
  panel : Panel
  operations : List Operation
  catalog : Catalog
  profile : Profile

def Tool.ofJson (index : Int) (given : Json) : Attempt Tool :=
  let place := Place.tool index
  match given with
  | .object members =>
    let part := Part.mk place members
    let read : Attempt Tool := do
      let id ← part.text "id"
      let name := (part.text? "name").getD ""
      let kind ← part.text "kind"
      let diameter ← part.number "diameter"
      let spindleSpeed ← part.number "spindle_speed"
      let feedRate ← part.number "feed_rate"
      let plungeRate ← part.number? "plunge_rate"
      let maxDepth ← part.number? "max_depth"
      Tool.ofDraft {
        id, name
        kind := .text kind
        diameter := .ofDouble diameter
        spindleSpeed := .ofDouble spindleSpeed
        feedRate := .ofDouble feedRate
        plungeRate := .ofDouble? plungeRate
        maxDepth := .ofDouble? maxDepth }
    read.inJob (.refused place)
  | _ => throw (.rejected [.notAnObject place])

def Tool.listOfJson (given : List Json) : Attempt (List Tool) :=
  given.zipIdx.mapM fun (value, index) => Tool.ofJson index value

namespace Panel

def dimensions (members : Json.Members) : Attempt Json.Members :=
  match members.get? "dimensions" with
  | none => return []
  | some value =>
    if value.isVoid then return []
    else match value with
      | .object sizes => return sizes
      | _ => throw (.rejected [.memberNotAnObject .panel "dimensions"])

def ofJson (given : Json) : Attempt Panel :=
  match given with
  | .object members => do
    let sizes := Part.mk .dimensions (← dimensions members)
    let part := Part.mk .panel members
    let name := (part.text? "name").getD "Untitled panel"
    let length ← sizes.number "length"
    let width ← sizes.number "width"
    let thickness ← sizes.number "thickness"
    let material := (part.text? "material").getD ""
    let origin := (part.text? "origin").getD "bottom_left"
    let face := (part.text? "face").getD "top"
    let zOffset ← part.number? "z_offset"
    let draft : Draft := {
      name, material
      length := .ofDouble length
      width := .ofDouble width
      thickness := .ofDouble thickness
      origin := .text origin
      face := .text face
      zOffset := .ofDouble (zOffset.getD (.zero false)) }
    (ofDraft draft).inJob (.refused .panel)
  | _ => throw (.rejected [.notAnObject .panel])

end Panel

namespace Job

def operations? (members : Json.Members) : Attempt (List Operation) :=
  match members.get? "operations" with
  | none => return []
  | some (.list given) => Operation.listOfJson 0 given
  | some _ => throw (.rejected [.sectionNotAList "operations"])

def catalog? (members : Json.Members) : Attempt Catalog :=
  match members.given? "tools" with
  | none => return .standard
  | some (.list given) => do
    let tools ← Tool.listOfJson given
    Attempt.inJob (Catalog.ofTools? tools) .catalogRefused
  | some _ => throw (.rejected [.sectionNotAList "tools"])

def profile? (members : Json.Members) (default : Profile) : Traced Profile :=
  match members.given? "machine" with
  | none => pure default
  | some (.object machine) => (Profile.ofMembers machine default).inJob .machineRefused
  | some _ => (throw (.rejected [.machineNotAnObject]) : Attempt Profile)

def ofJson (given : Json) (default : Profile) : Traced Job :=
  match given with
  | .object members => do
    let panel ← Panel.ofJson (.ofOption (Json.Members.get? members "panel"))
    let operations ← operations? members
    let catalog ← catalog? members
    let profile ← profile? members default
    return ⟨panel, operations, catalog, profile⟩
  | _ => (throw (.rejected [.jobNotAnObject]) : Attempt Job)

def program (job : Job) (stamp : Timestamp) : Traced Program :=
  assemble job.profile job.panel job.operations job.catalog stamp

end Job

end Millwork
