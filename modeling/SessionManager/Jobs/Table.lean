import Mathlib.Data.List.Sort
import SessionManager.Foundation.KeyedTable
import SessionManager.Foundation.Text

/-! The table of queue jobs and the statements that write it. Left out are the columns that the
scheduler and the monitors do not read: labels, paths, environments, who asked and who is told. -/
namespace SessionManager.Jobs
open Foundation KeyedTable

inductive JobType
  | perf
  | tests
  | background
  | service
  | other (name : String)
  deriving DecidableEq, Repr

inductive JobState
  | pending
  | running
  | succeeded
  | failed
  | timedOut
  | cancelled
  | displaced
  deriving DecidableEq, Repr

def JobState.isTerminal : JobState → Bool
  | .pending | .running => false
  | .succeeded | .failed | .timedOut | .cancelled | .displaced => true

/-- Why a pending job is held back, or that a running one is about to be ended. -/
inductive HoldingReason
  | perfRunning
  | awaitingTests
  | perfCooldown
  | concurrencyCap
  | cancelling
  | displacing
  deriving DecidableEq, Repr

structure QueueJob where
  id : String
  jobType : JobType
  state : JobState
  queuedAt : String
  startedAt : Option String
  finishedAt : Option String
  holdingReason : Option HoldingReason
  pid : Option Int
  processGroupId : Option Int
  exitCode : Option Int
  deriving DecidableEq, Repr

abbrev JobTable := KeyedTable QueueJob.id

def listedBefore (first second : QueueJob) : Bool :=
  first.queuedAt < second.queuedAt || first.queuedAt = second.queuedAt && first.id ≤ second.id

def listQueueJobs (table : JobTable) : List QueueJob :=
  table.rows.insertionSort fun first second => listedBefore first second

section

/-- `UPDATE queue_jobs SET … WHERE …`; no statement rewrites a key. -/
def updateWhere (table : JobTable) (chosen : QueueJob → Bool) (change : QueueJob → QueueJob)
    (keeps : ∀ job, (change job).id = job.id) : JobTable :=
  table.update (fun job => if chosen job then change job else job) fun job => by
    split
    · exact keeps job
    · rfl

def clearHolds (table : JobTable) : JobTable :=
  updateWhere table (fun job => job.state = .pending && job.holdingReason.isSome)
    (fun job => { job with holdingReason := none }) fun _ => rfl

def markPendingQueueJobsHolding (table : JobTable) (jobId : Option String)
    (reason : HoldingReason) : JobTable :=
  updateWhere table (fun job => (jobId.all fun id => job.id = id) && job.state = .pending &&
      job.holdingReason ≠ some reason)
    (fun job => { job with holdingReason := some reason }) fun _ => rfl

/-- Marks a running job that is about to be ended: `cancelling` or `displacing`. -/
def markEnding (table : JobTable) (jobId : String) (reason : HoldingReason) : JobTable :=
  updateWhere table (fun job => job.id = jobId && job.state = .running)
    (fun job => { job with holdingReason := some reason }) fun _ => rfl

def markQueueJobCancelling (table : JobTable) (jobId : String) : JobTable :=
  markEnding table jobId .cancelling

def markQueueJobDisplacing (table : JobTable) (jobId : String) : JobTable :=
  markEnding table jobId .displacing

def markRunning (table : JobTable) (jobId startedAt : String) (pid : Int) : JobTable :=
  updateWhere table (fun job => job.id = jobId && job.state = .pending) (fun job =>
      { job with
        state := .running, holdingReason := none, startedAt := some startedAt, pid := some pid
        processGroupId := some pid }) fun _ => rfl

/-- Ends a job that has not ended yet. The notification of the completion is left out. -/
def finishQueueJob (table : JobTable) (jobId : String) (state : JobState) (exitCode : Option Int)
    (finishedAt : String) : JobTable :=
  updateWhere table (fun job => job.id = jobId && !job.state.isTerminal) (fun job =>
      { job with
        state, holdingReason := none, finishedAt := some finishedAt, exitCode }) fun _ => rfl

def forcedTerminalStateForHoldingReason : Option HoldingReason → Option JobState
  | some .cancelling => some .cancelled
  | some .displacing => some .displaced
  | _ => none

end

section

variable {table : JobTable} {job : QueueJob}

theorem find_updateWhere (chosen : QueueJob → Bool) (change : QueueJob → QueueJob)
    (hke : ∀ job, (change job).id = job.id) (id : String) :
    (updateWhere table chosen change hke).find id =
      (table.find id).map fun job => if chosen job then change job else job :=
  find_update _ id

def isRunning (jobType : Option JobType) (job : QueueJob) : Bool :=
  job.state = .running && jobType.all fun expected => job.jobType = expected

def running (table : JobTable) (jobType : Option JobType) : Nat := table.count (isRunning jobType)

theorem running_updateWhere_le {chosen : QueueJob → Bool} {change : QueueJob → QueueJob}
    {keeps : ∀ job, (change job).id = job.id} (jobType : Option JobType)
    (less : ∀ job, (change job).state = .running → job.state = .running)
    (types : ∀ job, (change job).jobType = job.jobType) :
    running (updateWhere table chosen change keeps) jobType ≤ running table jobType := by
  refine count_update_le ?_
  intro job _ counts
  split at counts
  · simp only [isRunning, Bool.and_eq_true, decide_eq_true_eq, types] at counts ⊢
    exact ⟨less job counts.1, counts.2⟩
  · exact counts

theorem running_markRunning_one (jobId startedAt : String) (pid : Int) (jobType : Option JobType) :
    running (markRunning table jobId startedAt pid) jobType ≤ running table jobType + 1 := by
  unfold markRunning
  refine count_update_one jobId ?_
  intro _ apart
  simp [apart]

theorem running_markRunning_other (hf : table.find job.id = some job)
    (startedAt : String) (pid : Int) {jobType : JobType} (hne : job.jobType ≠ jobType) :
    running (markRunning table job.id startedAt pid) (some jobType) ≤
      running table (some jobType) := by
  unfold markRunning
  refine count_update_le ?_
  intro _ hm counts
  split at counts
  · rename_i chosen
    simp only [Bool.and_eq_true, decide_eq_true_eq] at chosen
    have hs := (find_of_mem hm).symm.trans (chosen.1 ▸ hf)
    simp only [isRunning, Bool.and_eq_true, Option.all_some, decide_eq_true_eq] at counts
    exact absurd (Option.some.inj hs ▸ counts.2) hne
  · exact counts

end

end SessionManager.Jobs
