import SessionManager.Foundation.Transcripts
import SessionManager.Jobs.Table
import SessionManager.Messages.Database

/-! The completion of queue jobs and its announcement. A job is finished by a call that has read its
record before; the announcement is a message under an id that the job determines, and its text is made
from the record, from the result and from the end of the job's log. Every statement is a step of its
own, so a crash may come between any two. Who finishes a job, and after which signals, is left open:
a start that fails, a monitor, a cancel, a displacement and a recovery all make the same calls. -/
namespace SessionManager.Jobs
open Foundation
open Messages (Draw Database)

structure CompletionJob extends QueueJob where
  notifySessionId : Option String
  logPath : Option String
  completionNotificationRequired : Bool
  completionNotifiedAt : Option String
  deriving DecidableEq, Repr

def CompletionJob.key (job : CompletionJob) : String := job.id

abbrev CompletionTable := KeyedTable CompletionJob.key

/-- What comes from outside: the reading of timestamps. -/
structure CompletionHost where
  parseQueueDatetime : String → Option Int

abbrev Logs := String → Option (List UInt8)

section

variable (host : CompletionHost)

def queueDurationText (start finish : Option String) : String :=
  match start.bind host.parseQueueDatetime, finish.bind host.parseQueueDatetime with
  | some start, some finish => toString (max ((finish - start).tdiv 1000000000) 0) ++ "s"
  | _, _ => "-"

def tailQueueJobLog (logs : Logs) (path : Option String) (maxBytes : Nat) : String :=
  match path.bind logs with
  | none => ""
  | some bytes => trim (fromUtf8Lossy (bytes.drop (bytes.length - maxBytes)))

def stateText : JobState → String
  | .pending => "pending"
  | .running => "running"
  | .succeeded => "succeeded"
  | .failed => "failed"
  | .timedOut => "timed_out"
  | .cancelled => "cancelled"
  | .displaced => "displaced"

def terminationText : JobState → String
  | .timedOut => " termination=timeout"
  | .cancelled => " termination=cancelled"
  | .displaced => " termination=perf_displacement"
  | _ => ""

def exitText : Option Int → String
  | none => " exit=unknown (no exit receipt; output is partial/non-evidence)"
  | some code => " exit=" ++ toString code

def queueJobCompletionText (logs : Logs) (job : CompletionJob) (state : JobState)
    (exitCode : Option Int) (finishedAt : String) : String :=
  let text := "[sm queue] " ++ job.id ++ " completed: " ++ stateText state ++
    terminationText state ++ exitText exitCode ++ " runtime=" ++
    queueDurationText host job.startedAt (some finishedAt) ++ " queue=" ++
    queueDurationText host (some job.queuedAt) (some (job.startedAt.getD finishedAt)) ++
    ". Log: " ++ job.logPath.getD "-"
  let tail := tailQueueJobLog logs job.logPath 8192
  if tail = "" then text else text ++ "\nlog tail:\n" ++ tail

end

def CompletionJob.target (job : CompletionJob) : Option String :=
  (job.notifySessionId.map trim).filter fun target => decide (target ≠ "")

def completionMessageId (jobId : String) : String := "queue-completion-" ++ jobId

def completionMetadata : Messages.QueueMessageMetadata :=
  { messageCategory := some "queue-completion" }

/-- What `queue_job_completion_notified_at` comes to. -/
inductive Announcement
  | skipped
  | untold
  | inserted (queue : Database)
  | repeated
  | refused (reason : String)
  deriving DecidableEq, Repr

def announce (host : CompletionHost) (logs : Logs) (queue : Database) (job : CompletionJob)
    (state : JobState) (exitCode : Option Int) (finishedAt : String) (draw : Draw)
    (queueKnown : Bool) : Announcement :=
  if job.completionNotifiedAt.isSome then .skipped
  else
    match job.target with
    | none => .untold
    | some target =>
      if !queueKnown then .skipped
      else
        match queue.enqueueMessageOnce draw (completionMessageId job.id) target
            (queueJobCompletionText host logs job state exitCode finishedAt) "sequential"
            completionMetadata with
        | .ok (true, after) => .inserted after
        | .ok (false, _) => .repeated
        | .error reason => .refused reason

section

def updateJobs (table : CompletionTable) (chosen : CompletionJob → Bool)
    (change : CompletionJob → CompletionJob) (keeps : ∀ job, (change job).id = job.id) :
    CompletionTable :=
  table.update (fun job => if chosen job then change job else job) fun job => by
    split
    · exact keeps job
    · rfl

def startJob (table : CompletionTable) (jobId startedAt : String) (pid : Int) : CompletionTable :=
  updateJobs table (fun job => decide (job.id = jobId) && decide (job.state = .pending)) (fun job =>
      { job with
        state := .running, holdingReason := none, startedAt := some startedAt, pid := some pid
        processGroupId := some pid }) fun _ => rfl

def holdJob (table : CompletionTable) (jobId : String) (state : JobState)
    (reason : Option HoldingReason) : CompletionTable :=
  updateJobs table (fun job => decide (job.id = jobId) && decide (job.state = state) &&
      !job.state.isTerminal)
    (fun job => { job with holdingReason := reason }) fun _ => rfl

def finishJob (table : CompletionTable) (jobId : String) (state : JobState)
    (exitCode : Option Int) (finishedAt : String) : CompletionTable :=
  updateJobs table (fun job => decide (job.id = jobId) && !job.state.isTerminal) (fun job =>
      { job with
        state, holdingReason := none, finishedAt := some finishedAt, exitCode
        completionNotificationRequired := true }) fun _ => rfl

def markNotified (table : CompletionTable) (jobId notifiedAt : String) : CompletionTable :=
  updateJobs table (fun job => decide (job.id = jobId))
    (fun job => { job with completionNotifiedAt := job.completionNotifiedAt.or (some notifiedAt) })
    fun _ => rfl

end

/-- The states that jobs are finished in. -/
abbrev TerminalState := { state : JobState // state.isTerminal = true }

/-- A call between two of its statements: it holds a record that it has read, it is about to announce
a result, or it is about to note that the result is announced. -/
inductive CompletionTask
  | holding (job : CompletionJob)
  | notifying (job : CompletionJob) (state : TerminalState) (exitCode : Option Int)
      (finishedAt : String)
  | marking (jobId : String)
  deriving DecidableEq, Repr

structure CompletionSystem where
  jobs : CompletionTable
  queue : Database
  logs : Logs
  tasks : List CompletionTask

structure JobOrder where
  id : String
  jobType : JobType
  queuedAt : String
  notifySessionId : String
  logPath : String
  deriving DecidableEq, Repr

def JobOrder.job (order : JobOrder) : CompletionJob where
  id := order.id
  jobType := order.jobType
  state := .pending
  queuedAt := order.queuedAt
  startedAt := none
  finishedAt := none
  holdingReason := none
  pid := none
  processGroupId := none
  exitCode := none
  notifySessionId := some order.notifySessionId
  logPath := some order.logPath
  completionNotificationRequired := false
  completionNotifiedAt := none

inductive CompletionEvent
  | create (order : JobOrder)
  | hold (jobId : String) (state : JobState) (reason : Option HoldingReason)
  | start (jobId startedAt : String) (pid : Int)
  | read (jobId : String)
  | finish (index : Nat) (state : TerminalState) (exitCode : Option Int) (finishedAt : String)
  | notify (index : Nat) (draw : Draw) (queueKnown : Bool)
  | mark (index : Nat) (notifiedAt : String)
  | retry (jobId : String)
  | append (path : String) (bytes : List UInt8)
  | fail (index : Nat)
  | crash
  deriving DecidableEq, Repr

inductive CompletionOutcome
  | quiet
  | inserted (jobId : String)
  | refused (jobId : String)
  deriving DecidableEq, Repr

namespace CompletionSystem

def withoutTask (system : CompletionSystem) (index : Nat) : CompletionSystem :=
  { system with tasks := system.tasks.eraseIdx index }

def addTask (system : CompletionSystem) (task : CompletionTask) : CompletionSystem :=
  { system with tasks := system.tasks ++ [task] }

def announced (system : CompletionSystem) (index : Nat) (jobId : String) :
    Announcement → CompletionSystem × CompletionOutcome
  | .skipped => (system.withoutTask index, .quiet)
  | .untold | .repeated => ((system.withoutTask index).addTask (.marking jobId), .quiet)
  | .inserted queue =>
    ({ system.withoutTask index with queue }.addTask (.marking jobId), .inserted jobId)
  | .refused _ => (system.withoutTask index, .refused jobId)

def isUnannounced (job : CompletionJob) : Bool :=
  job.state.isTerminal && job.completionNotificationRequired && job.completionNotifiedAt.isNone

end CompletionSystem

def stepCompletion (host : CompletionHost) (system : CompletionSystem) :
    CompletionEvent → CompletionSystem × CompletionOutcome
  | .create order =>
    if fresh : system.jobs.find order.job.key = none then
      ({ system with jobs := system.jobs.insert order.job fresh }, .quiet)
    else (system, .quiet)
  | .hold jobId state reason =>
    ({ system with jobs := holdJob system.jobs jobId state reason }, .quiet)
  | .start jobId startedAt pid =>
    ({ system with jobs := startJob system.jobs jobId startedAt pid }, .quiet)
  | .read jobId =>
    match system.jobs.find jobId with
    | none => (system, .quiet)
    | some job => (system.addTask (.holding job), .quiet)
  | .finish index state exitCode finishedAt =>
    match system.tasks[index]? with
    | some (.holding job) =>
      if (system.jobs.find job.id).any fun stored => !stored.state.isTerminal then
        ({ system.withoutTask index with
            jobs := finishJob system.jobs job.id state exitCode finishedAt }.addTask
          (.notifying job state exitCode finishedAt), .quiet)
      else (system.withoutTask index, .quiet)
    | _ => (system, .quiet)
  | .notify index draw queueKnown =>
    match system.tasks[index]? with
    | some (.notifying job state exitCode finishedAt) =>
      system.announced index job.id
        (announce host system.logs system.queue job state exitCode finishedAt draw queueKnown)
    | _ => (system, .quiet)
  | .mark index notifiedAt =>
    match system.tasks[index]? with
    | some (.marking jobId) =>
      ({ system.withoutTask index with jobs := markNotified system.jobs jobId notifiedAt },
        .quiet)
    | _ => (system, .quiet)
  | .retry jobId =>
    match system.jobs.find jobId with
    | none => (system, .quiet)
    | some job =>
      if ended : job.state.isTerminal = true then
        if CompletionSystem.isUnannounced job then
          (system.addTask (.notifying job ⟨job.state, ended⟩ job.exitCode
            (job.finishedAt.getD job.queuedAt)), .quiet)
        else (system, .quiet)
      else (system, .quiet)
  | .append path bytes =>
    ({ system with
        logs := fun other =>
          if other = path then some ((system.logs path).getD [] ++ bytes)
          else system.logs other }, .quiet)
  | .fail index => (system.withoutTask index, .quiet)
  | .crash => ({ system with tasks := [] }, .quiet)

end SessionManager.Jobs
