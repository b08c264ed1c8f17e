import Mathlib.Logic.Function.Basic
import Mathlib.Logic.Relation
import SessionManager.Jobs.Table

/-! The processes of one queue job. Starts, cancels and monitors run as threads of their own; a step
is one statement on the table, one signal, one spawn or one wait of one of them, so a run is any
interleaving. A statement may fail: starts and cancels then leave by the error, and monitors go on as
though the job were not cancelled, or return. A call that has not been made yet rests at `called`. Process identifiers are not
reused, and a terminated group is not waited for: what follows a signal may come at any time. -/
namespace SessionManager.Jobs
open Foundation

/-- A spawned process and its group: what `try_wait` answers, whether the group still exists, and
whether a signal was sent to it. -/
structure Process where
  status : Option (Option Int)
  alive : Bool
  signalled : Bool
  deriving DecidableEq, Repr

/-- `start_queue_job_in_state_dir_with_policy` -/
inductive StartCall
  | called
  | spawning
  | failing
  | updating (pid : Int)
  | watching (pid : Int)
  | returned
  deriving DecidableEq, Repr

/-- `cancel_queue_job_in_state_dir`, with the record that it has read. -/
inductive CancelCall
  | called
  | marking (job : QueueJob)
  | signalling (job : QueueJob)
  | finishing (job : QueueJob)
  | returned
  deriving DecidableEq, Repr

/-- `monitor_queue_job_completion` -/
inductive Monitor
  | absent
  | polling
  | polled (status : Option (Option Int))
  | checked (status : Option (Option Int))
  | terminating (state : JobState)
  | finishing (state : JobState) (exitCode : Option Int)
  | writing (state : JobState) (exitCode : Option Int)
  | returned
  deriving DecidableEq, Repr

/-- The call has read the job as pending and has not made its statement yet. -/
def StartCall.claims : StartCall → Prop
  | .spawning | .failing | .updating _ => True
  | .called | .watching _ | .returned => False

def CancelCall.claims : CancelCall → Prop
  | .finishing job => job.state = .pending
  | .called | .marking _ | .signalling _ | .returned => False

def Monitor.watches : Monitor → Prop
  | .absent | .returned => False
  | .polling | .polled _ | .checked _ | .terminating _ | .finishing _ _ | .writing _ _ => True

structure JobSystem where
  table : JobTable
  processes : Int → Option Process
  starts : Nat → StartCall
  cancels : Nat → CancelCall
  monitors : Int → Monitor

namespace JobSystem

def setStart (system : JobSystem) (call : Nat) (start : StartCall) : JobSystem :=
  { system with starts := Function.update system.starts call start }

def setCancel (system : JobSystem) (call : Nat) (cancel : CancelCall) : JobSystem :=
  { system with cancels := Function.update system.cancels call cancel }

def setMonitor (system : JobSystem) (pid : Int) (monitor : Monitor) : JobSystem :=
  { system with monitors := Function.update system.monitors pid monitor }

def setProcess (system : JobSystem) (pid : Int) (process : Process) : JobSystem :=
  { system with processes := Function.update system.processes pid (some process) }

/-- `terminate_process_group` -/
def signal (system : JobSystem) (pid : Int) : JobSystem :=
  match system.processes pid with
  | some process => system.setProcess pid { process with signalled := true }
  | none => system

def signalled (system : JobSystem) : Option Int → JobSystem
  | some pid => system.signal pid
  | none => system

end JobSystem

def exitState (exitCode : Option Int) : JobState :=
  if exitCode = some 0 then .succeeded else .failed

inductive ProcessStep (jobId : String) : JobSystem → JobSystem → Prop
  | startFinds {system : JobSystem} {call : Nat} {job : QueueJob}
      (thread : system.starts call = .called) (found : system.table.find jobId = some job)
      (pending : job.state = .pending) :
      ProcessStep jobId system (system.setStart call .spawning)
  | startSkips {system : JobSystem} {call : Nat} (thread : system.starts call = .called)
      (skips : ∀ job, system.table.find jobId = some job → job.state ≠ .pending) :
      ProcessStep jobId system (system.setStart call .returned)
  | spawnFails {system : JobSystem} {call : Nat} (thread : system.starts call = .spawning) :
      ProcessStep jobId system (system.setStart call .failing)
  | startFails {system : JobSystem} {call : Nat} (finishedAt : String)
      (thread : system.starts call = .failing) :
      ProcessStep jobId system
        ({ system with table := finishQueueJob system.table jobId .failed none finishedAt }.setStart
          call .returned)
  | failureUnwritten {system : JobSystem} {call : Nat} (thread : system.starts call = .failing) :
      ProcessStep jobId system (system.setStart call .returned)
  | spawns {system : JobSystem} {call : Nat} {pid : Int}
      (thread : system.starts call = .spawning) (unused : system.processes pid = none) :
      ProcessStep jobId system
        ((system.setProcess pid ⟨none, true, false⟩).setStart call (.updating pid))
  | updates {system : JobSystem} {call : Nat} {pid : Int} (startedAt : String)
      (thread : system.starts call = .updating pid) :
      ProcessStep jobId system
        ({ system with table := markRunning system.table jobId startedAt pid }.setStart
          call (.watching pid))
  | updateFails {system : JobSystem} {call : Nat} {pid : Int}
      (thread : system.starts call = .updating pid) :
      ProcessStep jobId system (system.setStart call .returned)
  | watches {system : JobSystem} {call : Nat} {pid : Int}
      (thread : system.starts call = .watching pid) :
      ProcessStep jobId system ((system.setMonitor pid .polling).setStart call .returned)
  | cancelSkips {system : JobSystem} {call : Nat} (thread : system.cancels call = .called)
      (skips : ∀ job, system.table.find jobId = some job → job.state.isTerminal = true) :
      ProcessStep jobId system (system.setCancel call .returned)
  | cancelFindsRunning {system : JobSystem} {call : Nat} {job : QueueJob}
      (thread : system.cancels call = .called) (found : system.table.find jobId = some job)
      (runs : job.state = .running) :
      ProcessStep jobId system (system.setCancel call (.marking job))
  | cancelFindsPending {system : JobSystem} {call : Nat} {job : QueueJob}
      (thread : system.cancels call = .called) (found : system.table.find jobId = some job)
      (pending : job.state = .pending) :
      ProcessStep jobId system (system.setCancel call (.finishing job))
  | marks {system : JobSystem} {call : Nat} {job : QueueJob}
      (thread : system.cancels call = .marking job) :
      ProcessStep jobId system
        ({ system with table := markQueueJobCancelling system.table jobId }.setCancel
          call (.signalling job))
  | signals {system : JobSystem} {call : Nat} {job : QueueJob}
      (thread : system.cancels call = .signalling job) :
      ProcessStep jobId system
        ((system.signalled (job.processGroupId.or job.pid)).setCancel call (.finishing job))
  | cancels {system : JobSystem} {call : Nat} {job : QueueJob} (exitCode : Option Int)
      (finishedAt : String) (thread : system.cancels call = .finishing job) :
      ProcessStep jobId system
        ({ system with
            table := finishQueueJob system.table jobId .cancelled exitCode finishedAt }.setCancel
          call .returned)
  | cancelFails {system : JobSystem} {call : Nat} {job : QueueJob}
      (thread : system.cancels call = .marking job ∨ system.cancels call = .finishing job) :
      ProcessStep jobId system (system.setCancel call .returned)
  | polls {system : JobSystem} {pid : Int} {process : Process}
      (thread : system.monitors pid = .polling) (waited : system.processes pid = some process) :
      ProcessStep jobId system (system.setMonitor pid (.polled process.status))
  | pollFails {system : JobSystem} {pid : Int} (thread : system.monitors pid = .polling) :
      ProcessStep jobId system (system.setMonitor pid (.terminating .failed))
  | leaves {system : JobSystem} {pid : Int} {status : Option (Option Int)} {job : QueueJob}
      (thread : system.monitors pid = .polled status)
      (found : system.table.find jobId = some job) (cancelled : job.state = .cancelled) :
      ProcessStep jobId system (system.setMonitor pid .returned)
  | stays {system : JobSystem} {pid : Int} {status : Option (Option Int)}
      (thread : system.monitors pid = .polled status)
      (going : ∀ job, system.table.find jobId = some job → job.state ≠ .cancelled) :
      ProcessStep jobId system (system.setMonitor pid (.checked status))
  | unread {system : JobSystem} {pid : Int} {status : Option (Option Int)}
      (thread : system.monitors pid = .polled status) :
      ProcessStep jobId system (system.setMonitor pid (.checked status))
  | exits {system : JobSystem} {pid : Int} {exitCode : Option Int}
      (thread : system.monitors pid = .checked (some exitCode))
      (gone : ∀ process, system.processes pid = some process → process.alive = false) :
      ProcessStep jobId system
        (system.setMonitor pid (.finishing (exitState exitCode) exitCode))
  | timesOut {system : JobSystem} {pid : Int} {status : Option (Option Int)}
      (thread : system.monitors pid = .checked status)
      (lives : status = none ∨ ∃ process, system.processes pid = some process ∧
        process.alive = true) :
      ProcessStep jobId system (system.setMonitor pid (.terminating .timedOut))
  | sleeps {system : JobSystem} {pid : Int} {status : Option (Option Int)}
      (thread : system.monitors pid = .checked status)
      (lives : status = none ∨ ∃ process, system.processes pid = some process ∧
        process.alive = true) :
      ProcessStep jobId system (system.setMonitor pid .polling)
  | terminates {system : JobSystem} {pid : Int} {state : JobState} (exitCode : Option Int)
      (thread : system.monitors pid = .terminating state) :
      ProcessStep jobId system
        ((system.signal pid).setMonitor pid (.finishing state exitCode))
  | finds {system : JobSystem} {pid : Int} {state : JobState} {exitCode : Option Int}
      {job : QueueJob} (thread : system.monitors pid = .finishing state exitCode)
      (found : system.table.find jobId = some job) (runs : job.state = .running) :
      ProcessStep jobId system
        (system.setMonitor pid (.writing
          ((forcedTerminalStateForHoldingReason job.holdingReason).getD state) exitCode))
  | misses {system : JobSystem} {pid : Int} {state : JobState} {exitCode : Option Int}
      (thread : system.monitors pid = .finishing state exitCode)
      (ended : ∀ job, system.table.find jobId = some job → job.state ≠ .running) :
      ProcessStep jobId system (system.setMonitor pid .returned)
  | finishes {system : JobSystem} {pid : Int} {state : JobState} {exitCode : Option Int}
      (finishedAt : String) (thread : system.monitors pid = .writing state exitCode) :
      ProcessStep jobId system
        ({ system with
            table := finishQueueJob system.table jobId state exitCode finishedAt }.setMonitor
          pid .returned)
  | finishFails {system : JobSystem} {pid : Int} {state : JobState} {exitCode : Option Int}
      (thread : system.monitors pid = .finishing state exitCode ∨
        system.monitors pid = .writing state exitCode) :
      ProcessStep jobId system (system.setMonitor pid .returned)
  | processExits {system : JobSystem} {pid : Int} {process : Process} (exitCode : Option Int)
      (there : system.processes pid = some process) :
      ProcessStep jobId system (system.setProcess pid { process with status := some exitCode })
  | processEnds {system : JobSystem} {pid : Int} {process : Process}
      (there : system.processes pid = some process) :
      ProcessStep jobId system (system.setProcess pid { process with alive := false })

structure Created (jobId : String) (system : JobSystem) : Prop where
  pending : ∃ job, system.table.find jobId = some job ∧ job.state = .pending
  processes : system.processes = fun _ => none
  starts : system.starts = fun _ => .called
  cancels : system.cancels = fun _ => .called
  monitors : system.monitors = fun _ => .absent

structure Settled (system : JobSystem) : Prop where
  starts : ∀ call, system.starts call = .called ∨ system.starts call = .returned
  cancels : ∀ call, system.cancels call = .called ∨ system.cancels call = .returned

/-- The job has ended, but a process of it lives on that nobody has signalled or watches. -/
def Orphaned (jobId : String) (system : JobSystem) : Prop :=
  (∃ job, system.table.find jobId = some job ∧ job.state.isTerminal = true) ∧
    ∃ pid process, system.processes pid = some process ∧ process.alive = true ∧
      process.signalled = false ∧ ¬(system.monitors pid).watches

end SessionManager.Jobs
