import Mathlib.Data.List.MinMax
import Mathlib.Data.Prod.Lex
import Mathlib.Data.String.Basic
import SessionManager.Jobs.Table

/-! The admission of queue jobs. One pass holds the admission lock; it lists the jobs, decides on that
list what to do next, and acts by single statements, while jobs are created, cancelled and finished
around it. The clock is read anew wherever the source reads it. -/
namespace SessionManager.Jobs
open Foundation

section

structure QueueAdmissionPolicy where
  maxRunningJobs : Int
  perfCooldownSeconds : Int
  testsMaxConcurrent : Nat
  perfMaxConcurrent : Nat
  backgroundMaxConcurrent : Nat
  serviceMaxConcurrent : Nat
  deriving DecidableEq, Repr

def QueueAdmissionPolicy.default : QueueAdmissionPolicy := ⟨2, 30, 2, 1, 2, 0⟩

def QueueAdmissionPolicy.maxConcurrentJobs (policy : QueueAdmissionPolicy) : JobType → Nat
  | .tests => policy.testsMaxConcurrent
  | .perf => policy.perfMaxConcurrent
  | .background => policy.backgroundMaxConcurrent
  | .service => policy.serviceMaxConcurrent
  | .other _ => 1

def queueJobTypeOrder : List JobType := [.perf, .tests, .background, .service]

end

section

variable (jobs : List QueueJob)

def runningQueueJobCount (jobType : Option JobType) : Nat := jobs.countP (isRunning jobType)

def oldestPendingQueueJob (jobType : JobType) : Option QueueJob :=
  (jobs.filter fun job => job.state = .pending && job.jobType = jobType).argmin
    fun job => toLex (job.queuedAt, job.id)

def ensureServiceCapacityReserveBeforeAdmission (policy : QueueAdmissionPolicy) :
    Except String Unit :=
  if policy.maxRunningJobs < 0 then
    .error "queue max_running_jobs must be a non-negative integer"
  else
    let global := policy.maxRunningJobs.toNat
    let service := policy.serviceMaxConcurrent
    if service ≥ global ∧ service ≠ 0 then
      .error s!"queue service capacity configuration is invalid before admission: service_cap={service} global_capacity={global}; service capacity must leave at least one non-service slot"
    else
      let reserve := global - service
      let recovered := (jobs.filter (isRunning (some .service))).map QueueJob.id
      let count := recovered.length
      if count ≤ service ∧ count + reserve ≤ global then .ok ()
      else
        let names := ", ".intercalate recovered
        .error s!"queue admission blocked: recovered live service occupancy violates configured capacity; recovered_live_service_jobs={count} service_cap={service} global_capacity={global} non_service_reserve={reserve} job_ids=[{names}]. Recovered jobs were left unchanged and no pending job was admitted; reduce live service occupancy or raise the configuration before retrying recovery."

end

section

/-- How times are read: RFC 3339, or the older local times, in nanoseconds. -/
structure Clock where
  parseRfc3339 : String → Option Int
  parsePythonNaive : String → Option Int
  localNow : Int → Option Int

variable (clock : Clock) (jobs : List QueueJob)

def wholeSeconds (nanoseconds : Int) : Int := nanoseconds.tdiv 1000000000

def queueElapsedSince (value : String) (now : Int) : Option Int :=
  let value := trim value
  if value = "" then none
  else
    match clock.parseRfc3339 value with
    | some parsed => some (wholeSeconds (now - parsed))
    | none => do
      let parsed ← clock.parsePythonNaive value
      let here ← clock.localNow now
      some (wholeSeconds (here - parsed))

def isPerfOrTests (job : QueueJob) : Bool := job.jobType = .perf || job.jobType = .tests

def perfCooldownRemainingSeconds (policy : QueueAdmissionPolicy) (now : Int) : Option Nat :=
  if policy.perfCooldownSeconds ≤ 0 then none
  else
    ((jobs.filter isPerfOrTests).filterMap fun job => do
      let finishedAt ← job.finishedAt
      let elapsed ← queueElapsedSince clock finishedAt now
      if elapsed < 0 ∨ elapsed ≥ policy.perfCooldownSeconds then none
      else some (max (policy.perfCooldownSeconds - elapsed).toNat 1)).max?

def perfCooldownActive (policy : QueueAdmissionPolicy) (now : Int) : Bool :=
  (perfCooldownRemainingSeconds clock jobs policy now).isSome

/-- The last perf or tests job to finish was a perf job, and tests are waiting or running. -/
def perfBlockedByTestsAfterPerf (now : Int) : Bool :=
  let latest := ((jobs.filter isPerfOrTests).filterMap fun job => do
    let finishedAt ← job.finishedAt
    let elapsed ← queueElapsedSince clock finishedAt now
    if elapsed < 0 then none else some (elapsed.toNat, job.jobType)).argmin Prod.fst
  (latest.any fun last => last.2 = .perf) && jobs.any fun job =>
    job.jobType = .tests && (job.state = .pending || job.state = .running)

end

section

/-- The readings of the clock in one turn of the loop, in the order of the source. -/
structure Readings where
  quietBlocked : Int
  quietCooldown : Int
  displaceCooldown : Int
  displaceBlocked : Int
  nextCooldown : Int
  nextRemaining : Int
  nextBlocked : Int
  deriving DecidableEq, Repr

structure QueueAdmissionSummary where
  started : Nat
  requeued : Nat
  held : Nat
  failedStart : Nat
  retryAfterSeconds : Option Nat
  deriving DecidableEq, Repr

def QueueAdmissionSummary.retryIn (summary : QueueAdmissionSummary) (remaining : Nat) :
    QueueAdmissionSummary :=
  { summary with
    retryAfterSeconds := some (summary.retryAfterSeconds.elim remaining fun current =>
      min current remaining) }

inductive Pass
  | idle
  | validating
  | clearing
  | looping (summary : QueueAdmissionSummary)
  | holding (reason : HoldingReason) (summary : QueueAdmissionSummary)
  | displacing (background : QueueJob) (summary : QueueAdmissionSummary)
  | displaced (background : QueueJob) (summary : QueueAdmissionSummary)
  | marking (marks : List (String × HoldingReason)) (candidate : Option String)
      (summary : QueueAdmissionSummary)
  | starting (jobId : String) (summary : QueueAdmissionSummary)
  | failing (jobId : String) (summary : QueueAdmissionSummary)
  | spawned (jobId : String) (pid : Int) (summary : QueueAdmissionSummary)
  deriving DecidableEq, Repr

variable (clock : Clock) (policy : QueueAdmissionPolicy) (readings : Readings)
  (jobs : List QueueJob)

def displaceBackgroundForPerf : Option QueueJob :=
  if (oldestPendingQueueJob jobs .perf).isNone then none
  else if runningQueueJobCount jobs (some .perf) ≥ policy.maxConcurrentJobs .perf then none
  else if perfCooldownActive clock jobs policy readings.displaceCooldown ||
      perfBlockedByTestsAfterPerf clock jobs readings.displaceBlocked then none
  else if runningQueueJobCount jobs (some .tests) > 0 then none
  else
    (jobs.filter (isRunning (some .background))).argmin
      fun job => toLex (job.startedAt.getD job.queuedAt, job.id)

/-- The jobs to hold back, in order, and the first job that may start. -/
def nextAdmissibleQueueJob (marks : List (String × HoldingReason))
    (summary : QueueAdmissionSummary) : List JobType → Pass
  | [] => .marking marks none summary
  | jobType :: rest =>
    match oldestPendingQueueJob jobs jobType with
    | none => nextAdmissibleQueueJob marks summary rest
    | some job =>
      if runningQueueJobCount jobs (some jobType) ≥ policy.maxConcurrentJobs jobType then
        nextAdmissibleQueueJob (marks ++ [(job.id, .concurrencyCap)]) summary rest
      else if jobType = .perf ∧ perfCooldownActive clock jobs policy readings.nextCooldown then
        nextAdmissibleQueueJob (marks ++ [(job.id, .perfCooldown)])
          ((perfCooldownRemainingSeconds clock jobs policy readings.nextRemaining).elim summary
            summary.retryIn) rest
      else if jobType = .perf ∧ perfBlockedByTestsAfterPerf clock jobs readings.nextBlocked then
        nextAdmissibleQueueJob (marks ++ [(job.id, .awaitingTests)]) summary rest
      else .marking marks (some job.id) summary

/-- One turn of the loop, up to its first write. -/
def admissionTurn (summary : QueueAdmissionSummary) : Pass :=
  if !jobs.any fun job => job.state = .pending then .idle
  else if runningQueueJobCount jobs (some .perf) > 0 then .holding .perfRunning summary
  else
    let perfWaitingForQuietWindow := (oldestPendingQueueJob jobs .perf).isSome &&
      !perfBlockedByTestsAfterPerf clock jobs readings.quietBlocked
    if perfWaitingForQuietWindow ∧ runningQueueJobCount jobs (some .tests) > 0 then
      .holding .awaitingTests summary
    else
      match (if perfWaitingForQuietWindow then
        perfCooldownRemainingSeconds clock jobs policy readings.quietCooldown else none) with
      | some remaining => .holding .perfCooldown (summary.retryIn remaining)
      | none =>
        match displaceBackgroundForPerf clock policy readings jobs with
        | some background => .displacing background summary
        | none =>
          if (runningQueueJobCount jobs none : Int) ≥ policy.maxRunningJobs then
            .holding .concurrencyCap summary
          else nextAdmissibleQueueJob clock policy readings jobs [] summary queueJobTypeOrder

end

section

structure Scheduler where
  table : JobTable
  pass : Pass
  deriving DecidableEq

def holdCount (table : JobTable) (jobId : Option String) (reason : HoldingReason) : Nat :=
  table.count fun job => (jobId.all fun id => job.id = id) && job.state = .pending &&
    job.holdingReason ≠ some reason

def opening (table : JobTable) : QueueAdmissionSummary :=
  ⟨0, table.count fun job => job.state = .pending && job.holdingReason.isSome, 0, 0, none⟩

/-- One statement, of the pass or of somebody else. Cancellation, the end of a process and recovery
all end a job by the same statement. A crash loses the pass. The readings that a turn may make are a
parameter: any, or those that agree with each other. -/
inductive Step (clock : Clock) (policy : QueueAdmissionPolicy)
    (allowed : Readings → List QueueJob → Prop) : Scheduler → Scheduler → Prop
  | create (table : JobTable) (pass : Pass) (job : QueueJob) (fresh : table.find job.id = none)
      (pending : job.state = .pending) :
      Step clock policy allowed ⟨table, pass⟩ ⟨table.insert job fresh, pass⟩
  | cancelling (table : JobTable) (pass : Pass) (jobId : String) :
      Step clock policy allowed ⟨table, pass⟩ ⟨markQueueJobCancelling table jobId, pass⟩
  | finish (table : JobTable) (pass : Pass) (jobId : String) (state : JobState)
      (exitCode : Option Int) (finishedAt : String) (terminal : state.isTerminal = true) :
      Step clock policy allowed ⟨table, pass⟩
        ⟨finishQueueJob table jobId state exitCode finishedAt, pass⟩
  | crash (table : JobTable) (pass : Pass) : Step clock policy allowed ⟨table, pass⟩ ⟨table, .idle⟩
  | begin (table : JobTable) : Step clock policy allowed ⟨table, .idle⟩ ⟨table, .validating⟩
  | blocked (table : JobTable) (reason : String)
      (refused : ensureServiceCapacityReserveBeforeAdmission (listQueueJobs table) policy =
        .error reason) :
      Step clock policy allowed ⟨table, .validating⟩ ⟨table, .idle⟩
  | validated (table : JobTable)
      (passed : ensureServiceCapacityReserveBeforeAdmission (listQueueJobs table) policy =
        .ok ()) :
      Step clock policy allowed ⟨table, .validating⟩ ⟨table, .clearing⟩
  | clear (table : JobTable) :
      Step clock policy allowed ⟨table, .clearing⟩ ⟨clearHolds table, .looping (opening table)⟩
  | turn (table : JobTable) (summary : QueueAdmissionSummary) (readings : Readings)
      (allows : allowed readings (listQueueJobs table)) :
      Step clock policy allowed ⟨table, .looping summary⟩
        ⟨table, admissionTurn clock policy readings (listQueueJobs table) summary⟩
  | hold (table : JobTable) (reason : HoldingReason) (summary : QueueAdmissionSummary) :
      Step clock policy allowed ⟨table, .holding reason summary⟩
        ⟨markPendingQueueJobsHolding table none reason, .idle⟩
  | displace (table : JobTable) (background : QueueJob) (summary : QueueAdmissionSummary) :
      Step clock policy allowed ⟨table, .displacing background summary⟩
        ⟨markQueueJobDisplacing table background.id, .displaced background summary⟩
  | displaced (table : JobTable) (background : QueueJob) (summary : QueueAdmissionSummary)
      (exitCode : Option Int) (finishedAt : String) :
      Step clock policy allowed ⟨table, .displaced background summary⟩
        ⟨finishQueueJob table background.id .displaced exitCode finishedAt, .looping summary⟩
  | mark (table : JobTable) (jobId : String) (reason : HoldingReason)
      (marks : List (String × HoldingReason)) (candidate : Option String)
      (summary : QueueAdmissionSummary) :
      Step clock policy allowed ⟨table, .marking ((jobId, reason) :: marks) candidate summary⟩
        ⟨markPendingQueueJobsHolding table (some jobId) reason, .marking marks candidate
          { summary with held := summary.held + holdCount table (some jobId) reason }⟩
  | nobody (table : JobTable) (summary : QueueAdmissionSummary) :
      Step clock policy allowed ⟨table, .marking [] none summary⟩ ⟨table, .idle⟩
  | chosen (table : JobTable) (jobId : String) (summary : QueueAdmissionSummary) :
      Step clock policy allowed ⟨table, .marking [] (some jobId) summary⟩
        ⟨table, .starting jobId summary⟩
  | gone (table : JobTable) (jobId : String) (summary : QueueAdmissionSummary)
      (ended : ∀ job, table.find jobId = some job → job.state ≠ .pending) :
      Step clock policy allowed ⟨table, .starting jobId summary⟩ ⟨table, .looping summary⟩
  | spawnFails (table : JobTable) (job : QueueJob) (summary : QueueAdmissionSummary)
      (found : table.find job.id = some job) (pending : job.state = .pending) :
      Step clock policy allowed ⟨table, .starting job.id summary⟩ ⟨table, .failing job.id summary⟩
  | spawn (table : JobTable) (job : QueueJob) (summary : QueueAdmissionSummary) (pid : Int)
      (found : table.find job.id = some job) (pending : job.state = .pending) :
      Step clock policy allowed ⟨table, .starting job.id summary⟩ ⟨table, .spawned job.id pid summary⟩
  | failed (table : JobTable) (jobId : String) (summary : QueueAdmissionSummary)
      (finishedAt : String) (continueAfterFailedStart : Bool) :
      Step clock policy allowed ⟨table, .failing jobId summary⟩
        ⟨finishQueueJob table jobId .failed none finishedAt,
          if continueAfterFailedStart ∧ ((finishQueueJob table jobId .failed none finishedAt).find
            jobId).any fun job => job.state = .failed
          then .looping { summary with failedStart := summary.failedStart + 1 } else .idle⟩
  | run (table : JobTable) (jobId : String) (pid : Int) (summary : QueueAdmissionSummary)
      (startedAt : String) :
      Step clock policy allowed ⟨table, .spawned jobId pid summary⟩
        ⟨markRunning table jobId startedAt pid, .looping
          { summary with
            started := summary.started + if ((markRunning table jobId startedAt pid).find
              jobId).any fun job => job.state = .running then 1 else 0 }⟩

abbrev Run (clock : Clock) (policy : QueueAdmissionPolicy)
    (allowed : Readings → List QueueJob → Prop) : Scheduler → Scheduler → Prop :=
  Relation.ReflTransGen (Step clock policy allowed)

end

end SessionManager.Jobs
