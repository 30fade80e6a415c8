import Millwork.Fault.Job

namespace Millwork

inductive Fault where
  | arithmetic (cause : ArithmeticFault)
  | unreadable (cause : Unreadable)
  | refused (refusal : Refusal)
  | rejected (faults : List JobFault)
  | notCuttable
  /-- The depth of an operation of no kind was to be compared and is no number. -/
  | depthNotANumber

def Fault.message : Fault → String
  | arithmetic cause => cause.message
  | unreadable cause => cause.message
  | refused refusal => refusal.message
  | rejected faults => "\n".intercalate (faults.map JobFault.message)
  | notCuttable => "Unsupported operation type: Operation"
  | depthNotANumber => "The depth of an operation must be a number"

abbrev Attempt := Except Fault

namespace Attempt

instance : MonadLift (Except ArithmeticFault) Attempt := ⟨Except.mapError .arithmetic⟩
instance : MonadLift (Except Unreadable) Attempt := ⟨Except.mapError .unreadable⟩
instance : MonadLift (Except Refusal) Attempt := ⟨Except.mapError .refused⟩
instance : MonadLift (Except JobFault) Attempt := ⟨Except.mapError fun fault => .rejected [fault]⟩

/-- The same attempt, a refusal by a record read as a fault of the job. -/
def inJob {α : Type} (attempt : Attempt α) (locate : Refusal → JobFault) : Attempt α :=
  attempt.mapError fun
    | .refused refusal => .rejected [locate refusal]
    | fault => fault

end Attempt

end Millwork
