import SessionManager.Lifecycle.Operations

/-! The session server. It serves calls, among them the workers of credential rotations, until the
process dies; a new process first recovers every launch under way and then serves again. Between two
operations of a call that lets go of the state lock, the call waits as a task. -/
namespace SessionManager.Lifecycle
open Foundation Operation Sessions

inductive Task
  | starting (creation : Creation)
  | acknowledging (creation : Creation)
  | failing (creation : Creation) (reason : String)
  | finishing (creation : Creation)
  | recovering (launchId : String)
  | examining (rotation : SessionCredentialRotationRecord) (session : SessionRecord)
  | finalizing (sessionId : String)
  | missing (sessionId : String)
  | relaunching (rotation : SessionCredentialRotationRecord)
  deriving DecidableEq, Repr

namespace Task

def creation : Task → Option Creation
  | .starting creation | .acknowledging creation | .failing creation _ | .finishing creation =>
    some creation
  | .recovering _ | .examining _ _ | .finalizing _ | .missing _ | .relaunching _ => none

def rotation : Task → Option SessionCredentialRotationRecord
  | .examining rotation _ | .relaunching rotation => some rotation
  | .starting _ | .acknowledging _ | .failing _ _ | .finishing _ | .recovering _ | .finalizing _
  | .missing _ => none

/-- One operation of the task, and the task that is left of the call. -/
def run (host : Host) (seen : Seen) : Task → Operation World (Option Task)
  | .starting creation => do
      match ← attempt (createSession creation.record.target creation.record.id) with
      | .ok _ => return some (.acknowledging creation)
      | .error reason => return some (.failing creation reason)
  | .acknowledging creation => do
      match ← attempt (awaitProviderResumeId seen creation.record.provider
          creation.record.providerResumeId) with
      | .ok resumeId =>
        return some (.finishing
          { creation with record := { creation.record with providerResumeId := resumeId } })
      | .error reason =>
        let _ ← attempt (killSession creation.record.target)
        return some (.failing creation reason)
  | .failing creation reason => do
      failCreation creation reason
      return none
  | .finishing creation => do
      finishCreation creation
      return none
  | .recovering launchId => do
      recoverSessionRuntimeLaunch host seen launchId
      return none
  | .examining rotation session =>
    if session.isStopped then return some (.finalizing rotation.sessionId)
    else if !host.deliveryRuntime then return none
    else do
      if !(← sessionExists rotation.target) then
        return some (.missing rotation.sessionId)
      else if rotationMayProceed seen session then
        return some (.relaunching rotation)
      else
        return none
  | .finalizing sessionId => do
      let state ← load
      save (finalizeActiveCredentialRotationsForTerminalSession state sessionId)
      return none
  | .missing sessionId => do
      let state ← load
      save (markSessionRuntimeMissingTerminal state sessionId)
      return none
  | .relaunching rotation => do
      applyWaitingCredentialRotation host seen rotation
      return none

end Task

def inspectRotations (sessionId : String) : Operation World (Option Task) := do
  let state ← load
  match state.rotations.find? fun rotation =>
      decide (rotation.sessionId = sessionId) && rotation.status = .relaunching with
  | some rotation =>
    match rotation.runtimeLaunchId with
    | some launchId => return some (.recovering launchId)
    | none => fail ("relaunching credential rotation " ++ rotation.id ++ " has no runtime launch")
  | none =>
    match state.rotations.find? (fun rotation =>
        decide (rotation.sessionId = sessionId) && rotation.status = .waitingIdle),
        state.session sessionId with
    | some rotation, some session => return some (.examining rotation session)
    | _, _ => return none

structure System where
  world : World
  serving : Bool
  tasks : List Task
  deriving DecidableEq, Repr

inductive Event
  | create (request : CreateCoreSessionRequest) (seen : Seen)
  | retire (call : RetireCall)
  | retireFixture (call : RetireCall)
  | rotate (sessionId : String) (seen : Seen)
  | inspect (sessionId : String)
  | advance (index : Nat) (seen : Seen)
  | restore (sessionId : String) (seen : Seen)
  | report (sessionId : String) (status : SessionStatus)
  | hook (sessionId : String) (hook : ClaudeHook)
  | deliver (reasonCode : String) (sessionId : String) (seen : Seen)
  | recover (seen : Seen)
  | exit (target : Target)
  | crash
  deriving DecidableEq, Repr

namespace System

def down (world : World) : System := ⟨world, false, []⟩

/-- What is left of the process after an operation: a crash leaves no task. -/
def conclude {α : Type} (tasks : Option α → List Task) :
    EStateM.Result Halt (Faulty World) α → System
  | .ok value after => ⟨after.world, true, tasks (some value)⟩
  | .error (.failure _) after => ⟨after.world, true, tasks none⟩
  | .error .crash after => down after.world

def execute {α : Type} (system : System) (operation : Operation World α) (fates : List Fate)
    (tasks : Option α → List Task) : System :=
  conclude tasks (operation ⟨system.world, fates⟩)

def pendingLaunch (system : System) : Option SessionRuntimeLaunchRecord :=
  system.world.store.launches.find? SessionRuntimeLaunchRecord.isUnderWay

/-- One round of `recover_session_runtime_launches`. A recovery that fails ends the start-up. -/
def recoverNext (host : Host) (system : System) (seen : Seen) (fates : List Fate) : System :=
  match system.pendingLaunch with
  | none => { system with serving := true }
  | some launch =>
    { system.execute (recoverSessionRuntimeLaunch host seen launch.id) fates fun _ => [] with
      serving := false }

def serve (host : Host) (system : System) (fates : List Fate) : Event → System
  | .create request seen =>
    system.execute (persistProvisionalSession host seen request) fates fun creation =>
      system.tasks ++ (creation.map Task.starting).toList
  | .retire call =>
    system.execute (retireCoreSessionWithRuntimeAuthorized host call) fates fun _ => system.tasks
  | .retireFixture call =>
    system.execute (retireCoreSessionAuthorized host call) fates fun _ => system.tasks
  | .rotate sessionId seen =>
    system.execute (createSessionCredentialRotation host seen sessionId) fates fun _ =>
      system.tasks
  | .inspect sessionId =>
    system.execute (inspectRotations sessionId) fates fun task =>
      system.tasks ++ task.join.toList
  | .advance index seen =>
    match system.tasks[index]? with
    | none => system
    | some task => system.execute (task.run host seen) fates fun next =>
      system.tasks.eraseIdx index ++ next.join.toList
  | .restore sessionId seen =>
    system.execute (restoreCoreSessionWithRuntime host seen sessionId) fates fun _ =>
      system.tasks
  | .report sessionId status =>
    system.execute (ingestCodexForkStatus sessionId status) fates fun _ => system.tasks
  | .hook sessionId hook =>
    system.execute (applyClaudeHook sessionId hook) fates fun _ => system.tasks
  | .deliver reasonCode sessionId seen =>
    system.execute (deliverRuntimeText reasonCode seen sessionId) fates fun _ => system.tasks
  | .recover _ => system
  | .exit target => { system with world := system.world.kill target }
  | .crash => down system.world

/-- A server that is down only recovers; its runtimes may exit all the same. -/
def step (host : Host) (system : System) (fates : List Fate) (event : Event) : System :=
  if system.serving then
    system.serve host fates event
  else
    match event with
    | .recover seen => system.recoverNext host seen fates
    | .exit target => { system with world := system.world.kill target }
    | _ => system

def run (host : Host) (system : System) (events : List (List Fate × Event)) : System :=
  events.foldl (fun system event => system.step host event.1 event.2) system

/-- What a retire call answers, if it is served and does not fail. -/
def retireOutcome (host : Host) (system : System) (fates : List Fate) (call : RetireCall) :
    Option CoreRetireOutcome :=
  if system.serving then
    match retireCoreSessionWithRuntimeAuthorized host call ⟨system.world, fates⟩ with
    | .ok outcome _ => some outcome
    | .error _ _ => none
  else none

end System

end SessionManager.Lifecycle
