import Mathlib.Init

/-! The activity and completion markers of a stored session, and what the registry calls live. -/
namespace SessionManager.Sessions

inductive SessionStatus
  | starting
  | running
  | idle
  | waitingInput
  | waitingPermission
  | error
  | stopped
  | other (text : String)
  deriving DecidableEq, Repr

inductive CompletionStatus
  | retired
  | killed
  | other (text : String)
  deriving DecidableEq, Repr

def normalizedStatus : SessionStatus → SessionStatus
  | .starting => .running
  | .waitingInput | .waitingPermission | .error => .idle
  | status => status

def completionStatusIsRetired : Option CompletionStatus → Bool
  | some .retired | some .killed => true
  | _ => false

/-- A session is stopped when its status says so or when it carries a terminal marker, whatever
a delayed status-only writer left behind. -/
def isStopped (status : SessionStatus) (completion : Option CompletionStatus) : Bool :=
  normalizedStatus status = .stopped || completionStatusIsRetired completion

@[simp] theorem normalizedStatus_eq_stopped (status : SessionStatus) :
    normalizedStatus status = .stopped ↔ status = .stopped := by
  cases status <;> simp [normalizedStatus]

theorem isStopped_eq_false {status : SessionStatus} {completion : Option CompletionStatus} :
    isStopped status completion = false ↔
      status ≠ .stopped ∧ completionStatusIsRetired completion = false := by
  simp [isStopped]

end SessionManager.Sessions
