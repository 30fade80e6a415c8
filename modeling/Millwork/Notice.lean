import Millwork.Fault.Basic
import Millwork.Level
import Millwork.Program.Warning

namespace Millwork

inductive Notice where
  | unknownDialect (name : Json)
  | blockWarning (warning : Warning)
  | contourCut (points passes : Nat)
  | assembled (blocks : Nat) (panel dialect : String)

namespace Notice

def level : Notice → Level
  | unknownDialect _ | blockWarning _ => .warning
  | contourCut .. | assembled .. => .debug

def source : Notice → String
  | unknownDialect _ => "panelcam.machine"
  | contourCut .. => "panelcam.operation_gcode"
  | blockWarning _ | assembled .. => "panelcam.gcode_generator"

def warning? : Notice → Option Warning
  | blockWarning warning => some warning
  | _ => none

def message : Notice → String
  | unknownDialect name => s!"Unknown machine dialect {name.shown}, using generic"
  | blockWarning (.missingTool number kind toolId) =>
    s!"Operation {number.text} ({kind}): tool {Text.quoted toolId} not found"
  | blockWarning warning => warning.message
  | contourCut points passes => s!"Contour with {points} points cut in {passes} pass(es)"
  | assembled blocks panel dialect =>
    s!"Generated {blocks} operation block(s) for panel {Text.quoted panel} ({dialect})"

end Notice

/-- An attempt with the notices it gave. -/
structure Traced (α : Type) where
  outcome : Attempt α
  notices : List Notice

namespace Traced

variable {α β : Type}

def bind (first : Traced α) (next : α → Traced β) : Traced β :=
  match first.outcome with
  | .ok a => ⟨(next a).outcome, first.notices ++ (next a).notices⟩
  | .error fault => ⟨.error fault, first.notices⟩

instance : Monad Traced where
  pure a := ⟨.ok a, []⟩
  bind := bind

instance : MonadLift Attempt Traced := ⟨fun attempt => ⟨attempt, []⟩⟩

def note (notice : Notice) : Traced Unit := ⟨.ok (), [notice]⟩

def warnings (traced : Traced α) : List Warning := traced.notices.filterMap Notice.warning?

@[simp] theorem outcome_pure (a : α) : (pure a : Traced α).outcome = .ok a := rfl

@[simp] theorem outcome_bind (first : Traced α) (next : α → Traced β) :
    (first >>= next).outcome = first.outcome >>= fun a => (next a).outcome := by
  show (bind first next).outcome = _
  unfold bind
  cases first.outcome <;> rfl

def inJob (traced : Traced α) (locate : Refusal → JobFault) : Traced α :=
  ⟨traced.outcome.inJob locate, traced.notices⟩

end Traced

end Millwork
