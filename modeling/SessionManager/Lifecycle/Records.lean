import SessionManager.Foundation.Text
import SessionManager.Reparent.Records

/-! The stored records of sessions, of their runtime launches and of their credential rotations, and
the marks that the launch operations leave on them. -/
namespace SessionManager.Lifecycle
open Foundation Sessions
open Reparent (modifyFirst)

inductive Provider
  | claude
  | codex
  | codexFork
  | other (text : String)
  deriving DecidableEq, Repr

def Provider.text : Provider → String
  | .claude => "claude"
  | .codex => "codex"
  | .codexFork => "codex-fork"
  | .other text => text

inductive RetireAuthority
  | operator (source : String)
  | authenticatedParent (sessionId : String)
  | serverLifecycle (source : String)
  deriving DecidableEq, Repr

inductive TmuxDisposition
  | killed
  | alreadyAbsent
  deriving DecidableEq, Repr

inductive TerminalProvenance
  | explicitRetire (authority : RetireAuthority) (disposition : Option TmuxDisposition)
  | tmuxDisappearance (reason : String)
  | providerNaturalExit (source : String)
  deriving DecidableEq, Repr

structure Target where
  socketName : Option String
  tmuxSession : String
  deriving DecidableEq, Repr

/-- `transcriptResumeId` is the resume id that the stored transcript path carries. -/
structure SessionRecord where
  id : String
  provider : Provider
  node : String
  target : Target
  logFile : Option String
  parentSessionId : Option String
  providerResumeId : Option String
  transcriptResumeId : Option String
  sessionCredentialSha256 : Option String
  status : SessionStatus
  completionStatus : Option CompletionStatus
  terminalProvenance : Option TerminalProvenance
  retirementIntent : Option TerminalProvenance
  errorMessage : Option String
  deriving DecidableEq, Repr

def SessionRecord.isStopped (session : SessionRecord) : Bool :=
  Sessions.isStopped session.status session.completionStatus

def SessionRecord.isRetired (session : SessionRecord) : Bool :=
  completionStatusIsRetired session.completionStatus

inductive OperationKind
  | create
  | recredential
  | restore
  | other (text : String)
  deriving DecidableEq, Repr

inductive LaunchStatus
  | prepared
  | launching
  | applied
  | failed
  | other (text : String)
  deriving DecidableEq, Repr

structure SessionRuntimeLaunchRecord where
  id : String
  operationKind : OperationKind
  sessionId : String
  target : Target
  provider : Provider
  providerResumeId : Option String
  credentialRotationId : Option String
  restoreAuthorized : Bool
  forceInitialPromptStdin : Bool
  credentialSha256 : String
  status : LaunchStatus
  failureReason : Option String
  deriving DecidableEq, Repr

namespace SessionRuntimeLaunchRecord

def isAuthorizedRestoreIntent (launch : SessionRuntimeLaunchRecord) : Bool :=
  launch.operationKind = .restore && launch.restoreAuthorized

/-- The launch is one that recovery takes up. -/
def isUnderWay (launch : SessionRuntimeLaunchRecord) : Bool :=
  launch.status = .prepared || launch.status = .launching

end SessionRuntimeLaunchRecord

inductive RotationStatus
  | waitingIdle
  | relaunching
  | applied
  | failed
  | other (text : String)
  deriving DecidableEq, Repr

structure SessionCredentialRotationRecord where
  id : String
  sessionId : String
  provider : Provider
  providerResumeId : String
  target : Target
  status : RotationStatus
  runtimeLaunchId : Option String
  failureReason : Option String
  deriving DecidableEq, Repr

def SessionCredentialRotationRecord.isActive (rotation : SessionCredentialRotationRecord) : Bool :=
  rotation.status = .waitingIdle || rotation.status = .relaunching

structure Store where
  sessions : List SessionRecord
  launches : List SessionRuntimeLaunchRecord
  rotations : List SessionCredentialRotationRecord
  deriving DecidableEq, Repr

namespace Store

def session (state : Store) (sessionId : String) : Option SessionRecord :=
  state.sessions.find? fun session => session.id = sessionId

def modifySession (state : Store) (sessionId : String) (change : SessionRecord → SessionRecord) :
    Store :=
  { state with
    sessions := modifyFirst (fun session => decide (session.id = sessionId)) change state.sessions }

def launch (state : Store) (launchId : String) : Option SessionRuntimeLaunchRecord :=
  state.launches.find? fun launch => launch.id = launchId

def modifyLaunch (state : Store) (launchId : String)
    (change : SessionRuntimeLaunchRecord → SessionRuntimeLaunchRecord) : Store :=
  { state with
    launches := modifyFirst (fun launch => decide (launch.id = launchId)) change state.launches }

def rotation (state : Store) (rotationId : String) : Option SessionCredentialRotationRecord :=
  state.rotations.find? fun rotation => rotation.id = rotationId

def modifyRotation (state : Store) (rotationId : String)
    (change : SessionCredentialRotationRecord → SessionCredentialRotationRecord) : Store :=
  { state with
    rotations :=
      modifyFirst (fun rotation => decide (rotation.id = rotationId)) change state.rotations }

end Store

def SessionRecord.stop (session : SessionRecord) : SessionRecord :=
  { session with status := .stopped }

/-- The fields that a restore clears besides the status. -/
def SessionRecord.clearCompletion (session : SessionRecord) : SessionRecord :=
  { session with completionStatus := none, terminalProvenance := none, retirementIntent := none }

def finalizeActiveCredentialRotationsForTerminalSession (state : Store) (sessionId : String) :
    Store :=
  let active := (state.rotations.filter fun rotation =>
    decide (rotation.sessionId = sessionId) && rotation.isActive).map
      SessionCredentialRotationRecord.id
  { state with
    rotations := state.rotations.map fun rotation =>
      if rotation.id ∈ active then
        { rotation with status := .failed, failureReason := some "target_terminal" }
      else rotation
    launches := state.launches.map fun launch =>
      if (launch.credentialRotationId.any fun rotationId => decide (rotationId ∈ active)) &&
          launch.isUnderWay then
        { launch with status := .failed, failureReason := some "target_terminal" }
      else launch }

/-- The session stops, and the first cause of a stop is the one that is kept. -/
def SessionRecord.stopBecause (provenance : TerminalProvenance) (session : SessionRecord) :
    SessionRecord :=
  { session.stop with terminalProvenance := session.terminalProvenance.or (some provenance) }

def markSessionRuntimeMissingTerminal (state : Store) (sessionId : String) : Store :=
  (finalizeActiveCredentialRotationsForTerminalSession state sessionId).modifySession sessionId
    fun session =>
      if session.isStopped then session
      else session.stopBecause (.tmuxDisappearance "runtime_reconciliation_missing")

def markRuntimeLaunchApplied (state : Store) (launchId : String)
    (providerResumeId : Option String) : Except String Store :=
  match state.launch launchId with
  | none => .error s!"runtime launch {launchId} disappeared"
  | some launch =>
    let launched := state.modifyLaunch launchId fun launch =>
      { launch with
        status := .applied
        failureReason := none
        providerResumeId := providerResumeId.or launch.providerResumeId }
    match launch.credentialRotationId with
    | none => .ok launched
    | some rotationId =>
      if (launched.rotation rotationId).isNone then
        .error s!"credential rotation {rotationId} disappeared during launch"
      else
        .ok (launched.modifyRotation rotationId fun rotation =>
          { rotation with
            status := .applied
            failureReason := none
            runtimeLaunchId := some launchId })

def failLaunch (state : Store) (launchId failureReason : String) :
    Except String (SessionRuntimeLaunchRecord × Store) :=
  match state.launch launchId with
  | none => .error s!"runtime launch {launchId} disappeared"
  | some launch =>
    .ok (launch, state.modifyLaunch launchId fun launch =>
      { launch with status := .failed, failureReason := some failureReason })

/-- The rotation that a failed launch carries fails with it. -/
def failCarriedRotation (launch : SessionRuntimeLaunchRecord) (failureReason : String)
    (state : Store) : Store :=
  match launch.credentialRotationId with
  | none => state
  | some rotationId => state.modifyRotation rotationId fun rotation =>
    { rotation with
      status := .failed
      failureReason := some failureReason
      runtimeLaunchId := some launch.id }

/-- A provisional session goes with its failed launch; any other is left stopped. -/
def markRuntimeLaunchFailed (state : Store) (launchId sessionId : String)
    (removeProvisionalSession : Bool) (failureReason : String) : Except String Store :=
  (failLaunch state launchId failureReason).map fun (launch, failed) =>
    let rotated := failCarriedRotation launch failureReason failed
    if removeProvisionalSession then
      { rotated with
        sessions := rotated.sessions.filter fun session => decide (session.id ≠ sessionId) }
    else
      (finalizeActiveCredentialRotationsForTerminalSession rotated sessionId).modifySession
        sessionId SessionRecord.stop

def removeFailedProvisionalRuntimeSession (state : Store) (sessionId : String) : Bool :=
  !(state.session sessionId).any SessionRecord.isRetired

/-- A restore whose runtime may be alive behind a broken tmux transport: the session is left in
error and is no longer terminal. -/
def markRuntimeLaunchRestoreInconclusive (reasonCode : String) (state : Store)
    (launchId sessionId failureReason : String) : Except String Store :=
  (failLaunch state launchId failureReason).map fun (_, failed) =>
    failed.modifySession sessionId fun session =>
      { session.clearCompletion with
        status := .error
        errorMessage := some (reasonCode ++ ": " ++ failureReason) }

def markRuntimeLaunchRestoreRecoveryInconclusive : Store → String → String → String →
    Except String Store :=
  markRuntimeLaunchRestoreInconclusive "codex_fork_restore_recovery_inconclusive"

def markRuntimeLaunchRestoreRequestInconclusive : Store → String → String → String →
    Except String Store :=
  markRuntimeLaunchRestoreInconclusive "codex_fork_restore_teardown_inconclusive"

def markSessionRetired (provenance : TerminalProvenance) (session : SessionRecord) :
    SessionRecord :=
  { session with completionStatus := some .retired, terminalProvenance := some provenance }

/-- Text that is neither missing nor blank, without the white space around it. -/
def jsonText (value : Option String) : Option String :=
  (value.map trim).filter fun text => decide (text ≠ "")

def providerResumeIdForRestore (session : SessionRecord) : Option String :=
  match session.provider, session.transcriptResumeId with
  | .claude, some resumeId => some resumeId
  | _, _ => jsonText session.providerResumeId

def isPrimaryNode (node : String) : Bool := trim node = "" || trim node = "primary"

end SessionManager.Lifecycle
