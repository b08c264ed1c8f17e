import SessionManager.Lifecycle.Tmux

/-! The calls of the session store that start, stop, relaunch and recover runtimes. What runs under
the state lock is one operation; a call that lets go of the lock in between is several, and the next
of them is its task. -/
namespace SessionManager.Lifecycle
open Foundation Operation Sessions

/-- The configuration of the server and the functions of the machine that it calls. -/
structure Host where
  socketName : Option String
  deliveryRuntime : Bool
  customRuntimeCommand : Bool
  sha256Text : String → String
  coreLogFilePath : String → String

/-- What a call draws at random and what it observes outside the state file and tmux. -/
structure Seen where
  fenced : Bool := false
  drawn : List String := []
  drawnLaunches : List String := []
  credential : String := ""
  claudeSessionId : String := ""
  cliResumeId : Option String := none
  forkResumeId : String := ""
  discoveredResumeId : Option String := none
  discoveredTranscriptResumeId : Option String := none
  proofIsLater : Bool := true
  attached : Bool := false
  inputReady : Bool := true
  queueDrained : Bool := true
  activeBtw : Bool := false
  claimed : Bool := false
  controlDelivered : Option Bool := none
  controlFallback : Bool := true
  deriving DecidableEq, Repr

/-- At most 64 draws are made. -/
def generateUnique (drawn : List String) (taken : String → Bool) (reason : String) :
    Except String String :=
  match (drawn.take 64).find? fun id => !taken id with
  | some id => .ok id
  | none => .error reason

def generateUniqueRuntimeLaunchId (drawn : List String) (state : Store) : Except String String :=
  generateUnique drawn (fun id => (state.launch id).isSome)
    "failed to generate unique runtime launch id after 64 attempts"

def ensureSessionNotReparentFenced (seen : Seen) (sessionId : String) : Operation World Unit :=
  if seen.fenced then fail ("a reparent request controls session " ++ sessionId) else pure ()

/-- A call that only a codex-fork makes and that changes neither the state file nor tmux. -/
def forkCall (reason : String) (provider : Provider) : Operation World Unit :=
  if provider = .codexFork then call reason id else pure ()

def codexForkRuntimeArtifacts : Provider → Operation World Unit :=
  forkCall "failed to derive the codex-fork artifact paths"

def startCodexForkEventMonitor : Provider → Operation World Unit :=
  forkCall "failed to start the codex-fork event monitor"

/-- Classic Codex may publish no identity in time; a codex-fork that publishes none has failed. -/
def awaitProviderResumeId (seen : Seen) (provider : Provider) (stored : Option String) :
    Operation World (Option String) :=
  match provider with
  | .codex => pure seen.cliResumeId
  | .codexFork => do
      call "timed out waiting for the codex-fork thread start" id
      return some seen.forkResumeId
  | .claude | .other _ => pure stored

section

inductive CoreRetireOutcome
  | retired
  | notFound
  | notChild
  | rootProtected
  | forbidden
  | unsupportedNode (node : String)
  deriving DecidableEq, Repr

namespace RetireAuthority

def isAuthorized (host : Host) (sessions : List SessionRecord) (credential : Option String) :
    RetireAuthority → Bool
  | .authenticatedParent sessionId =>
    ((sessions.find? fun session => session.id = sessionId).any fun session =>
        !session.isStopped) &&
      (jsonText credential).any fun credential =>
        ((sessions.find? fun session => session.id = trim sessionId).bind fun session =>
          jsonText session.sessionCredentialSha256) = some (host.sha256Text credential)
  | .operator _ | .serverLifecycle _ => true

def canRetire (session : SessionRecord) : RetireAuthority → Bool
  | .authenticatedParent sessionId => jsonText session.parentSessionId = some sessionId
  | .operator _ | .serverLifecycle _ => true

def rejectionOutcome (session : SessionRecord) : RetireAuthority → CoreRetireOutcome
  | .authenticatedParent _ =>
    if (jsonText session.parentSessionId).isNone then .rootProtected else .notChild
  | .operator _ | .serverLifecycle _ => .forbidden

end RetireAuthority

structure RetireCall where
  sessionId : String
  authority : RetireAuthority
  sessionCredential : Option String
  seen : Seen := {}
  deriving DecidableEq, Repr

/-- The checks that both forms of retirement make. A session that is already stopped counts as
retired and nothing is written. -/
def retireUnlessStopped (host : Host) (call : RetireCall)
    (act : Store → SessionRecord → Operation World CoreRetireOutcome) :
    Operation World CoreRetireOutcome := do
  let state ← load
  ensureSessionNotReparentFenced call.seen call.sessionId
  if !call.authority.isAuthorized host state.sessions call.sessionCredential then
    return .forbidden
  else
    match state.session call.sessionId with
    | none => return .notFound
    | some session =>
      if !call.authority.canRetire session then
        return call.authority.rejectionOutcome session
      else if session.isStopped then
        return .retired
      else
        act state session

/-- The write that makes a session terminal; it ends the rotations of the session as well. -/
def retireRecord (state : Store) (call : RetireCall) (disposition : Option TmuxDisposition) :
    Store :=
  (finalizeActiveCredentialRotationsForTerminalSession state call.sessionId).modifySession
    call.sessionId fun session =>
      markSessionRetired (.explicitRetire call.authority disposition) session.stop

def retireCoreSessionAuthorized (host : Host) (call : RetireCall) :
    Operation World CoreRetireOutcome :=
  retireUnlessStopped host call fun state _ => do
    Operation.call "failed to append the session log or to complete the stop notification" id
    save (retireRecord state call none)
    return .retired

def noteRetirementIntent (state : Store) (sessionId : String) (intent : Option TerminalProvenance) :
    Store :=
  state.modifySession sessionId fun session => { session with retirementIntent := intent }

/-- The part of a runtime retirement that follows its checks: the intent is stored, the runtime is
killed, and the session becomes terminal. -/
def retireRuntime (call : RetireCall) (state : Store) (session : SessionRecord) :
    Operation World CoreRetireOutcome := do
  let intended :=
    noteRetirementIntent state call.sessionId (some (.explicitRetire call.authority none))
  save intended
  match ← attempt (killSession session.target) with
  | .error reason =>
    save (noteRetirementIntent intended call.sessionId none)
    fail reason
  | .ok killed =>
    let disposition := if killed then TmuxDisposition.killed else .alreadyAbsent
    Operation.call "failed to complete the stop notification" id
    save (noteRetirementIntent (retireRecord intended call (some disposition)) call.sessionId none)
    return .retired

def retireCoreSessionWithRuntimeAuthorized (host : Host) (call : RetireCall) :
    Operation World CoreRetireOutcome :=
  retireUnlessStopped host call fun state session =>
    if trim session.target.tmuxSession = "" then
      fail ("session " ++ call.sessionId ++ " missing tmux_session")
    else if !isPrimaryNode session.node then
      return .unsupportedNode session.node
    else
      retireRuntime call state session

end

section

structure CreateCoreSessionRequest where
  id : Option String
  provider : Option String
  node : Option String
  parentSessionId : Option String
  spawnBrief : Bool
  deriving DecidableEq, Repr

def Provider.ofText : String → Provider
  | "claude" => .claude
  | "codex" => .codex
  | "codex-fork" => .codexFork
  | text => .other text

def sanitizePathComponent (value : String) : String :=
  let safe := value.toList.filter fun character =>
    character.isAlphanum || character = '-' || character = '_'
  if safe.isEmpty then "session" else String.ofList safe

/-- The first six bytes of the digest. -/
def stableSessionIdHash (host : Host) (value : String) : String :=
  String.ofList ((host.sha256Text value).toList.take 12)

def coreTmuxSessionName (host : Host) (provider : Provider) (sessionId : String) : String :=
  "sm-rust-" ++ sanitizePathComponent provider.text ++ "-" ++ sanitizePathComponent sessionId ++
    "-" ++ stableSessionIdHash host sessionId

def sessionIdExists (sessions : List SessionRecord) (sessionId : String) : Bool :=
  sessions.any fun session => decide (session.id = sessionId)

def requestedSessionId (seen : Seen) (sessions : List SessionRecord)
    (request : CreateCoreSessionRequest) : Except String String :=
  match jsonText request.id with
  | some sessionId => .ok sessionId
  | none => generateUnique seen.drawn (sessionIdExists sessions)
      "failed to generate unique session id after 64 attempts"

def buildCoreSessionRecord (host : Host) (seen : Seen) (sessions : List SessionRecord)
    (request : CreateCoreSessionRequest) : Except String SessionRecord := do
  let sessionId ← requestedSessionId seen sessions request
  if sessionIdExists sessions sessionId then
    throw ("session already exists: " ++ sessionId)
  let parent := request.parentSessionId.bind fun parentId =>
    sessions.find? fun session => session.id = parentId
  let provider := ((jsonText request.provider).map Provider.ofText).getD .claude
  let parentNode := parent.bind fun parent => jsonText (some parent.node)
  let node := ((jsonText request.node).or parentNode).getD "primary"
  return {
    id := sessionId
    provider
    node
    target := ⟨host.socketName, coreTmuxSessionName host provider sessionId⟩
    logFile := some (host.coreLogFilePath sessionId)
    parentSessionId := request.parentSessionId
    providerResumeId := none
    transcriptResumeId := none
    sessionCredentialSha256 := none
    status := .running
    completionStatus := none
    terminalProvenance := none
    retirementIntent := none
    errorMessage := none }

structure Creation where
  record : SessionRecord
  launchId : String
  deriving DecidableEq, Repr

/-- A session is stored as stopped until its runtime has answered. -/
def provisionalRecord (seen : Seen) (request : CreateCoreSessionRequest) (credentialSha256 : String)
    (built : SessionRecord) : SessionRecord :=
  { built with
    sessionCredentialSha256 := some credentialSha256
    providerResumeId :=
      if built.provider = .claude && request.spawnBrief then some seen.claudeSessionId else none
    status := .stopped }

def creationLaunch (request : CreateCoreSessionRequest) (credentialSha256 : String)
    (record : SessionRecord) (launchId : String) : SessionRuntimeLaunchRecord where
  id := launchId
  operationKind := .create
  sessionId := record.id
  target := record.target
  provider := record.provider
  providerResumeId := record.providerResumeId
  credentialRotationId := none
  restoreAuthorized := false
  forceInitialPromptStdin := request.spawnBrief
  credentialSha256 := credentialSha256
  status := .launching
  failureReason := none

def insertProvisional (state : Store) (record : SessionRecord) (launch : SessionRuntimeLaunchRecord) :
    Store :=
  { state with
    sessions := state.sessions ++ [record]
    launches := state.launches ++ [launch] }

/-- Up to the first write of `create_core_session_with_runtime`. -/
def persistProvisionalSession (host : Host) (seen : Seen) (request : CreateCoreSessionRequest) :
    Operation World Creation := do
  let state ← load
  ensureSessionNotReparentFenced seen (request.parentSessionId.getD "")
  let built ← ofExcept (buildCoreSessionRecord host seen state.sessions request)
  if !isPrimaryNode built.node then
    fail ("Rust runtime does not support remote node " ++ built.node)
  else
    codexForkRuntimeArtifacts built.provider
    let launchId ← ofExcept (generateUniqueRuntimeLaunchId seen.drawnLaunches state)
    let credentialSha256 := host.sha256Text seen.credential
    let record := provisionalRecord seen request credentialSha256 built
    call "session creation context or spawn brief is gone" id
    save (insertProvisional state record (creationLaunch request credentialSha256 record launchId))
    return ⟨record, launchId⟩

def failCreation (creation : Creation) (reason : String) : Operation World Unit := do
  let state ← load
  saveOrFail (markRuntimeLaunchFailed state creation.launchId creation.record.id
    (removeFailedProvisionalRuntimeSession state creation.record.id) reason)
  fail reason

def finishCreation (creation : Creation) : Operation World Unit := do
  let state ← load
  match state.session creation.record.id with
  | none =>
    let _ ← attempt (killSession creation.record.target)
    saveOrFail (markRuntimeLaunchFailed state creation.launchId creation.record.id false
      "provisional runtime session disappeared while waiting for provider startup")
    fail ("provisional runtime session " ++ creation.record.id ++ " disappeared")
  | some session =>
    if session.isRetired then
      let _ ← attempt (killSession creation.record.target)
      saveOrFail (markRuntimeLaunchFailed state creation.launchId creation.record.id false
        "session was retired while waiting for provider startup")
      fail ("session " ++ creation.record.id ++ " was retired while waiting for provider startup")
    else
      let running := state.modifySession creation.record.id fun session =>
        { session with
          providerResumeId := creation.record.providerResumeId
          status := .running }
      let applied ← ofExcept
        (markRuntimeLaunchApplied running creation.launchId creation.record.providerResumeId)
      match ← attempt (save applied) with
      | .ok _ => startCodexForkEventMonitor creation.record.provider
      | .error reason =>
        let _ ← attempt (killSession creation.record.target)
        fail reason

end

section

/-- An interrupted codex-fork restore is torn down, not replayed. -/
def reconcileForkRestore (host : Host) (state : Store) (launch : SessionRuntimeLaunchRecord) :
    Operation World Unit :=
  if !host.deliveryRuntime then
    saveOrFail (markRuntimeLaunchRestoreRecoveryInconclusive state launch.id launch.sessionId
      ("cannot confirm interrupted codex-fork restore teardown because runtime recovery is " ++
        "disabled"))
  else do
    let boundary :=
      if ((state.session launch.sessionId).bind SessionRecord.sessionCredentialSha256) =
          some launch.credentialSha256 then "after replacement credential commit"
      else "before replacement credential commit"
    match ← teardownSessionForRestore launch.target with
    | .killed | .alreadyAbsent =>
      let reason := "interrupted codex-fork restore " ++ boundary ++
        " was conservatively reconciled without replay; explicit restore is required"
      saveOrFail ((markRuntimeLaunchFailed state launch.id launch.sessionId false reason).map
        fun failed => failed.modifySession launch.sessionId fun session =>
          { session with
            errorMessage := some ("codex_fork_restore_recovery_failed: " ++ reason) })
    | .inconclusive reason =>
      saveOrFail (markRuntimeLaunchRestoreRecoveryInconclusive state launch.id launch.sessionId
        ("failed to confirm interrupted codex-fork restore teardown during recovery: " ++ reason))

/-- The old runtime goes, and a new one is started as the launch says. -/
def replaceRuntime (target : Target) (sessionId : String) : Operation World Unit := do
  if ← sessionExists target then
    let _ ← killSession target
    createSession target sessionId
  else
    createSession target sessionId

def revive (launch : SessionRuntimeLaunchRecord) (resumeId : Option String)
    (session : SessionRecord) : SessionRecord :=
  { (if launch.operationKind = .restore then session.clearCompletion else session) with
    status := .running
    providerResumeId := resumeId.or session.providerResumeId }

def relaunchPrepared (seen : Seen) (prepared : Store) (launch : SessionRuntimeLaunchRecord) :
    Operation World Unit := do
  save prepared
  codexForkRuntimeArtifacts launch.provider
  match ← attempt (replaceRuntime launch.target launch.sessionId) with
  | .error reason =>
    saveOrFail (markRuntimeLaunchFailed prepared launch.id launch.sessionId
      (decide (launch.operationKind = .create)) reason)
  | .ok _ =>
    let awaited ← attempt (if launch.operationKind = .create then
        awaitProviderResumeId seen launch.provider launch.providerResumeId
      else pure launch.providerResumeId)
    match awaited with
    | .error reason =>
      let _ ← attempt (killSession launch.target)
      saveOrFail (markRuntimeLaunchFailed prepared launch.id launch.sessionId true reason)
    | .ok resumeId =>
      saveOrFail (markRuntimeLaunchApplied
        (prepared.modifySession launch.sessionId (revive launch resumeId)) launch.id resumeId)
      startCodexForkEventMonitor launch.provider

def relaunchRecovered (host : Host) (seen : Seen) (state : Store)
    (launch : SessionRuntimeLaunchRecord) : Operation World Unit :=
  let credentialSha256 := host.sha256Text seen.credential
  let again := { launch with credentialSha256, status := .launching, failureReason := none }
  let armed := state.modifyLaunch launch.id fun _ => again
  if (armed.session launch.sessionId).isNone then
    saveOrFail (markRuntimeLaunchFailed armed launch.id launch.sessionId false
      "runtime launch session is missing")
  else
    relaunchPrepared seen (armed.modifySession launch.sessionId fun session =>
      { session.stop with sessionCredentialSha256 := some credentialSha256 }) again

def recoverSessionRuntimeLaunch (host : Host) (seen : Seen) (launchId : String) :
    Operation World Unit := do
  let state ← load
  match state.launch launchId with
  | none => return ()
  | some launch =>
    if !launch.isUnderWay then
      return ()
    else if launch.provider = .claude && launch.forceInitialPromptStdin then
      saveOrFail (markRuntimeLaunchFailed state launchId launch.sessionId
        (decide (launch.operationKind = .create))
        ("refusing to recover an unacknowledged Claude spawn brief because it may already " ++
          "have been submitted"))
    else if (state.session launch.sessionId).any SessionRecord.isRetired &&
        !launch.isAuthorizedRestoreIntent then
      saveOrFail (markRuntimeLaunchFailed
        (finalizeActiveCredentialRotationsForTerminalSession state launch.sessionId)
        launchId launch.sessionId false "target_terminal")
    else if launch.provider = .codexFork && launch.isAuthorizedRestoreIntent then
      reconcileForkRestore host state launch
    else if !host.deliveryRuntime then
      saveOrFail (markRuntimeLaunchFailed state launchId launch.sessionId
        (decide (launch.operationKind = .create)) "runtime launch recovery is disabled")
    else
      relaunchRecovered host seen state launch

end

section

inductive CredentialRotationOutcome
  | created (rotation : SessionCredentialRotationRecord)
  | existing (rotation : SessionCredentialRotationRecord)
  | sessionNotFound
  | conflict
  | badRequest
  deriving DecidableEq, Repr

def rotationOf (session : SessionRecord) (id resumeId : String) :
    SessionCredentialRotationRecord where
  id := id
  sessionId := session.id
  provider := session.provider
  providerResumeId := resumeId
  target := session.target
  status := .waitingIdle
  runtimeLaunchId := none
  failureReason := none

/-- Which of several earlier rotations is named in the answer does not matter here: the newest is
taken to be the last. -/
def createSessionCredentialRotation (host : Host) (seen : Seen) (sessionId : String) :
    Operation World CredentialRotationOutcome :=
  if !host.deliveryRuntime then return .badRequest
  else do
    let state ← load
    if seen.fenced then
      return .conflict
    else
      match state.session sessionId with
      | none => return .sessionNotFound
      | some session =>
        if session.isStopped then
          save (finalizeActiveCredentialRotationsForTerminalSession state sessionId)
          return .badRequest
        else if !isPrimaryNode session.node ||
            !(session.provider = .claude || session.provider = .codex ||
              session.provider = .codexFork) then
          return .badRequest
        else
          match providerResumeIdForRestore session with
          | none => return .badRequest
          | some resumeId =>
            if !(← sessionExists session.target) then
              save (markSessionRuntimeMissingTerminal state sessionId)
              return .badRequest
            else
              match state.rotations.reverse.find? fun rotation =>
                  decide (rotation.sessionId = sessionId) &&
                    (rotation.isActive || rotation.status = .applied) with
              | some rotation => return .existing rotation
              | none =>
                let id ← ofExcept (generateUnique seen.drawn (fun id => (state.rotation id).isSome)
                  "failed to generate unique credential rotation id after 64 attempts")
                let rotation := rotationOf session id resumeId
                save { state with rotations := state.rotations ++ [rotation] }
                return .created rotation

def credentialRotationHasFreshIdleProof (seen : Seen) (session : SessionRecord) : Bool :=
  !session.isStopped && match session.provider with
    | .claude | .codexFork => normalizedStatus session.status = .idle && seen.proofIsLater
    | .codex => true
    | .other _ => false

/-- The checks on the runtime and on the queue that are made before the locks and again under
them. -/
def rotationMayProceed (seen : Seen) (session : SessionRecord) : Bool :=
  credentialRotationHasFreshIdleProof seen session && !seen.attached && seen.inputReady &&
    seen.queueDrained && !seen.activeBtw

def failRotation (state : Store) (rotationId reason : String) : Store :=
  state.modifyRotation rotationId fun rotation =>
    { rotation with status := .failed, failureReason := some reason }

def relaunchRotated (prepared : Store) (rotation : SessionCredentialRotationRecord)
    (session : SessionRecord) (launchId : String) : Operation World Unit := do
  save prepared
  match ← attempt (replaceRuntime session.target session.id) with
  | .error reason =>
    saveOrFail (markRuntimeLaunchFailed prepared launchId rotation.sessionId false reason)
  | .ok _ =>
    if !(← sessionExists session.target) then
      saveOrFail (markRuntimeLaunchFailed prepared launchId rotation.sessionId false
        "target_terminal")
    else if !prepared.rotations.any fun other => decide (other.id = rotation.id) &&
        other.status = .relaunching && other.runtimeLaunchId = some launchId then
      return ()
    else
      saveOrFail (markRuntimeLaunchApplied (prepared.modifySession rotation.sessionId fun session =>
          { session with status := .running })
        launchId (some rotation.providerResumeId))
      startCodexForkEventMonitor session.provider

def rotationLaunch (rotation : SessionCredentialRotationRecord) (session : SessionRecord)
    (launchId credentialSha256 : String) : SessionRuntimeLaunchRecord where
  id := launchId
  operationKind := .recredential
  sessionId := session.id
  target := session.target
  provider := session.provider
  providerResumeId := some rotation.providerResumeId
  credentialRotationId := some rotation.id
  restoreAuthorized := false
  forceInitialPromptStdin := false
  credentialSha256 := credentialSha256
  status := .launching
  failureReason := none

/-- The write that puts a rotation and its launch under way. -/
def prepareRotation (state : Store) (rotation : SessionCredentialRotationRecord)
    (session : SessionRecord) (launchId credentialSha256 : String) : Store :=
  let stopped := state.modifySession rotation.sessionId fun session =>
    { session.stop with sessionCredentialSha256 := some credentialSha256 }
  { stopped with
    launches := stopped.launches ++ [rotationLaunch rotation session launchId credentialSha256]
    rotations := (stopped.modifyRotation rotation.id fun rotation =>
      { rotation with status := .relaunching, runtimeLaunchId := some launchId }).rotations }

/-- The part of `try_apply_waiting_credential_rotation` that holds the rotation fences. -/
def applyWaitingCredentialRotation (host : Host) (seen : Seen)
    (rotation : SessionCredentialRotationRecord) : Operation World Unit := do
  let state ← load
  call "failed to lock the credential rotation fences" id
  if !state.rotations.any fun other => decide (other.id = rotation.id) &&
      other.status = .waitingIdle then
    return ()
  else if !(← sessionExists rotation.target) then
    save (markSessionRuntimeMissingTerminal state rotation.sessionId)
  else
    match state.session rotation.sessionId with
    | none => save (failRotation state rotation.id "session disappeared")
    | some session =>
      if session.isStopped then
        save (finalizeActiveCredentialRotationsForTerminalSession state rotation.sessionId)
      else if session.provider ≠ rotation.provider || session.target ≠ rotation.target ||
          providerResumeIdForRestore session ≠ some rotation.providerResumeId then
        save (failRotation state rotation.id
          "session runtime identity changed while waiting for idle")
      else if !rotationMayProceed seen session || seen.fenced || seen.claimed then
        return ()
      else if (jsonText session.logFile).isNone then
        save (failRotation state rotation.id "session log file is missing")
      else
        codexForkRuntimeArtifacts session.provider
        let launchId ← ofExcept (generateUniqueRuntimeLaunchId seen.drawnLaunches state)
        relaunchRotated
          (prepareRotation state rotation session launchId (host.sha256Text seen.credential))
          rotation session launchId

end

section

inductive CoreRestoreOutcome
  | restored
  | notFound
  | notStopped
  | unsupportedNode (node : String)
  | unsupportedProvider
  | missingProviderResumeId
  deriving DecidableEq, Repr

/-- The record with the provider identity looked for where none is stored. -/
def discoverResumeId (seen : Seen) (session : SessionRecord) : SessionRecord :=
  match session.provider with
  | .codex =>
    { session with
      providerResumeId := (providerResumeIdForRestore session).or seen.discoveredResumeId }
  | .claude =>
    { session with
      transcriptResumeId := session.transcriptResumeId.or seen.discoveredTranscriptResumeId }
  | .codexFork | .other _ => session

def restoreSession (resumeId : Option String) (session : SessionRecord) : SessionRecord :=
  { session.clearCompletion with
    status := .running
    errorMessage := none
    providerResumeId := resumeId.or session.providerResumeId }

/-- A codex-fork that does not accept its durable root is torn down again. -/
def rejectRestore (prepared : Store) (session : SessionRecord) (launchId reason : String) :
    Operation World Unit := do
  match ← teardownSessionForRestore session.target with
  | .killed | .alreadyAbsent =>
    saveOrFail ((markRuntimeLaunchFailed prepared launchId session.id false reason).map
      fun failed => failed.modifySession session.id fun session =>
        { session with errorMessage := some ("codex_fork_restore_rejected: " ++ reason) })
    fail reason
  | .inconclusive unconfirmed =>
    let teardown := reason ++ "; failed to confirm rejected runtime teardown: " ++ unconfirmed
    saveOrFail (markRuntimeLaunchRestoreRequestInconclusive prepared launchId session.id teardown)
    fail teardown

def finishRestore (prepared : Store) (session : SessionRecord) (launchId : String)
    (resumeId : Option String) : Operation World CoreRestoreOutcome := do
  match ← attempt (createSession session.target session.id) with
  | .error reason =>
    saveOrFail (markRuntimeLaunchFailed prepared launchId session.id false reason)
    fail reason
  | .ok _ =>
    match ← attempt (forkCall "codex-fork restore verification failed" session.provider) with
    | .error reason =>
      rejectRestore prepared session launchId reason
      fail reason
    | .ok _ =>
      saveOrFail (markRuntimeLaunchApplied
        (prepared.modifySession session.id (restoreSession resumeId)) launchId resumeId)
      startCodexForkEventMonitor session.provider
      return .restored

/-- The runtime that a restore replaces goes first. A codex-fork keeps its credential until then. -/
def replaceForRestore (prepared : Store) (session : SessionRecord) (launchId : String)
    (resumeId : Option String) (credentialSha256 : String) :
    Operation World CoreRestoreOutcome := do
  save prepared
  if session.provider = .codexFork then
    match ← teardownSessionForRestore session.target with
    | .killed | .alreadyAbsent =>
      let committed := prepared.modifySession session.id fun session =>
        { session with sessionCredentialSha256 := some credentialSha256 }
      save committed
      finishRestore committed session launchId resumeId
    | .inconclusive unconfirmed =>
      let reason := "failed to confirm prior runtime teardown before restore: " ++ unconfirmed
      saveOrFail (markRuntimeLaunchRestoreRequestInconclusive prepared launchId session.id reason)
      fail reason
  else if ← sessionExists session.target then
    match ← attempt (killSession session.target) with
    | .error reason =>
      saveOrFail (markRuntimeLaunchFailed prepared launchId session.id false
        ("failed to tear down prior runtime before restore: " ++ reason))
      fail reason
    | .ok _ => finishRestore prepared session launchId resumeId
  else
    finishRestore prepared session launchId resumeId

def restoreLaunch (found : SessionRecord) (launchId credentialSha256 : String)
    (resumeId : Option String) : SessionRuntimeLaunchRecord where
  id := launchId
  operationKind := .restore
  sessionId := found.id
  target := found.target
  provider := found.provider
  providerResumeId := resumeId
  credentialRotationId := none
  restoreAuthorized := true
  forceInitialPromptStdin := false
  credentialSha256 := credentialSha256
  status := .launching
  failureReason := none

def prepareRestore (state : Store) (found : SessionRecord) (launchId credentialSha256 : String)
    (resumeId : Option String) : Store :=
  let admitted := state.modifySession found.id fun session =>
    { session with
      sessionCredentialSha256 :=
        if session.provider = .codexFork then session.sessionCredentialSha256
        else some credentialSha256
      providerResumeId := resumeId.or session.providerResumeId
      transcriptResumeId := found.transcriptResumeId.or session.transcriptResumeId }
  { admitted with
    launches := admitted.launches ++ [restoreLaunch found launchId credentialSha256 resumeId] }

def restoreCoreSessionWithRuntime (host : Host) (seen : Seen) (sessionId : String) :
    Operation World CoreRestoreOutcome := do
  let state ← load
  ensureSessionNotReparentFenced seen sessionId
  match state.session sessionId with
  | none => return .notFound
  | some session =>
    if !session.isStopped then
      return .notStopped
    else if !isPrimaryNode session.node then
      return .unsupportedNode session.node
    else if !(session.provider = .claude || session.provider = .codex ||
        session.provider = .codexFork) then
      return .unsupportedProvider
    else
      let found := discoverResumeId seen session
      let resumeId := providerResumeIdForRestore found
      if resumeId.isNone && !(session.provider = .claude && host.customRuntimeCommand) then
        return .missingProviderResumeId
      else if (jsonText session.logFile).isNone then
        fail ("session " ++ sessionId ++ " missing log_file")
      else
        codexForkRuntimeArtifacts session.provider
        let launchId ← ofExcept (generateUniqueRuntimeLaunchId seen.drawnLaunches state)
        let credentialSha256 := host.sha256Text seen.credential
        replaceForRestore (prepareRestore state found launchId credentialSha256 resumeId)
          session launchId resumeId credentialSha256

end

section

/-- The codex-fork event stream reports the status of its root thread. -/
def ingestCodexForkStatus (sessionId : String) (status : SessionStatus) : Operation World Unit := do
  let state ← load
  match state.session sessionId with
  | none => return ()
  | some session =>
    if session.provider ≠ .codexFork || session.isStopped then
      return ()
    else if status = .stopped then
      save (finalizeActiveCredentialRotationsForTerminalSession (state.modifySession sessionId
          (SessionRecord.stopBecause (.providerNaturalExit "codex_fork_lifecycle_event")))
        sessionId)
    else
      save (state.modifySession sessionId fun session => { session with status })

/-- A hook of a Claude session. Whether it is superseded by a newer one and whether a handoff is pending
is read from fields that are not modelled here; a transcript is given by the resume id that its path
carries. -/
inductive ClaudeHook
  | stop (superseded handoffPending : Bool) (transcript : Option (Option String))
  | preToolUse
  | userPromptSubmit (superseded : Bool)
  deriving DecidableEq, Repr

namespace ClaudeHook

def isDropped : ClaudeHook → Bool
  | .userPromptSubmit superseded => superseded
  | .stop _ _ _ | .preToolUse => false

def apply (session : SessionRecord) : ClaudeHook → SessionRecord
  | .stop superseded handoffPending transcript =>
    let isClaude := decide (session.provider = .claude)
    { session with
      status := if superseded then session.status
        else if isClaude && handoffPending then .running else .idle
      transcriptResumeId := transcript.getD session.transcriptResumeId
      providerResumeId :=
        if isClaude then transcript.join.or session.providerResumeId else session.providerResumeId }
  | .preToolUse | .userPromptSubmit _ => { session with status := .running }

theorem id_apply (hook : ClaudeHook) (session : SessionRecord) :
    (hook.apply session).id = session.id := by
  cases hook <;> rfl

theorem isRetired_apply (hook : ClaudeHook) (session : SessionRecord) :
    (hook.apply session).isRetired = session.isRetired := by
  cases hook <;> rfl

end ClaudeHook

/-- `apply_claude_stop_hook` and its siblings. -/
def applyClaudeHook (sessionId : String) (hook : ClaudeHook) : Operation World Unit := do
  let state ← load
  match (state.session (trim sessionId)).filter fun session => decide (session.id ≠ "") with
  | none => return ()
  | some session =>
    if session.isStopped || hook.isDropped then return ()
    else save (state.modifySession (trim sessionId) fun session => hook.apply session)

/-- `deliver_runtime_text_to_session_raw` and its urgent sibling: a text that finds no runtime stops
the session. A codex-fork may take the text over its control socket; `none` stands for a session
that has no such socket. -/
def deliverRuntimeText (reasonCode : String) (seen : Seen) (sessionId : String) :
    Operation World Unit := do
  let state ← load
  match state.session sessionId with
  | none => fail ("session " ++ sessionId ++ " disappeared during delivery")
  | some session =>
    if !isPrimaryNode session.node then
      fail ("Rust runtime does not support remote node " ++ session.node)
    else if session.isStopped || seen.claimed then
      return ()
    else if seen.controlDelivered = some true ||
        (seen.controlDelivered = some false && !seen.controlFallback) then
      save state
    else if ← sessionExists session.target then
      call "tmux send-keys failed" id
      save state
    else
      save ((finalizeActiveCredentialRotationsForTerminalSession state sessionId).modifySession
        sessionId (SessionRecord.stopBecause (.tmuxDisappearance reasonCode)))

end

end SessionManager.Lifecycle
