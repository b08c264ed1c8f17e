import SessionManager.Jobs.Admission
import SessionManager.Usage.Calendar

/-! Safety of the admission. What others do to the table never adds a running job, so what a turn of
the loop has found of the counts still holds when its candidate is started. The exclusion of tests
and background work from perf runs rests on readings of the clock in one turn that agree with each
other; two readings on both sides of a full second need not. -/
namespace SessionManager.Jobs
open Foundation List KeyedTable Nat

section

theorem runningQueueJobCount_list (table : JobTable) (jobType : Option JobType) :
    runningQueueJobCount (listQueueJobs table) jobType = running table jobType :=
  (perm_insertionSort _ table.rows).countP_eq _

variable {clock : Clock} {policy : QueueAdmissionPolicy} {readings : Readings}
  {jobs : List QueueJob} {summary : QueueAdmissionSummary} {marks : List (String × HoldingReason)}
  {jobId : String}

def Pass.candidate : Pass → Option String
  | .marking _ candidate _ => candidate
  | .starting jobId _ | .spawned jobId _ _ => some jobId
  | _ => none

theorem nextAdmissibleQueueJob_some {types : List JobType}
    (next : (nextAdmissibleQueueJob clock policy readings jobs marks summary types).candidate =
      some jobId) :
    ∃ job ∈ jobs, job.id = jobId ∧ job.state = .pending ∧
      runningQueueJobCount jobs (some job.jobType) < policy.maxConcurrentJobs job.jobType ∧
      (job.jobType = .perf → (oldestPendingQueueJob jobs .perf).isSome ∧
        perfCooldownActive clock jobs policy readings.nextCooldown = false ∧
        perfBlockedByTestsAfterPerf clock jobs readings.nextBlocked = false) := by
  induction types generalizing marks summary with
  | nil => cases next
  | cons _ _ ih =>
    rw [nextAdmissibleQueueJob] at next
    split at next
    · exact ih next
    rename_i job oldest
    split at next
    · exact ih next
    rename_i below
    split at next
    · exact ih next
    rename_i warm
    split at next
    · exact ih next
    rename_i free
    obtain rfl := Option.some.inj next
    have hm := argmin_mem oldest
    simp only [mem_filter, Bool.and_eq_true, decide_eq_true_eq] at hm
    obtain ⟨hm, hpe, typed⟩ := hm
    refine ⟨job, hm, rfl, hpe, ?_, ?_⟩
    · rw [typed]
      exact not_le.mp below
    · intro perf
      rw [typed] at perf
      subst perf
      exact ⟨by rw [oldest]; rfl, by simpa using warm, by simpa using free⟩

/-- The readings of a turn agree: when the last ones let a perf job start, the earlier ones did. -/
def Steady (clock : Clock) (policy : QueueAdmissionPolicy) (readings : Readings)
    (jobs : List QueueJob) : Prop :=
  perfCooldownActive clock jobs policy readings.nextCooldown = false →
  perfBlockedByTestsAfterPerf clock jobs readings.nextBlocked = false →
    perfBlockedByTestsAfterPerf clock jobs readings.quietBlocked = false ∧
    perfCooldownActive clock jobs policy readings.displaceCooldown = false ∧
    perfBlockedByTestsAfterPerf clock jobs readings.displaceBlocked = false

structure Looks (clock : Clock) (policy : QueueAdmissionPolicy) (readings : Readings)
    (jobs : List QueueJob) : Prop where
  perf : runningQueueJobCount jobs (some .perf) = 0
  room : (runningQueueJobCount jobs none : Int) < policy.maxRunningJobs
  nobody : displaceBackgroundForPerf clock policy readings jobs = none
  quiet : (oldestPendingQueueJob jobs .perf).isSome = true →
    perfBlockedByTestsAfterPerf clock jobs readings.quietBlocked = false →
      runningQueueJobCount jobs (some .tests) = 0

theorem admissionTurn_cases : (admissionTurn clock policy readings jobs summary).candidate = none ∨
    Looks clock policy readings jobs ∧ admissionTurn clock policy readings jobs summary =
      nextAdmissibleQueueJob clock policy readings jobs [] summary queueJobTypeOrder := by
  unfold admissionTurn
  split
  · exact .inl rfl
  split
  · exact .inl rfl
  rename_i quiet
  dsimp only
  split
  · exact .inl rfl
  rename_i tests
  split
  · exact .inl rfl
  split
  · exact .inl rfl
  rename_i nobody
  split
  · exact .inl rfl
  rename_i room
  refine .inr ⟨⟨Nat.eq_zero_of_not_pos quiet, by simpa using room, nobody, ?_⟩, rfl⟩
  intro waiting free
  rw [waiting, free] at tests
  simpa using tests

theorem admissionTurn_candidate
    (chosen : (admissionTurn clock policy readings jobs summary).candidate = some jobId) :
    Looks clock policy readings jobs ∧ ∃ job ∈ jobs, job.id = jobId ∧ job.state = .pending ∧
      runningQueueJobCount jobs (some job.jobType) < policy.maxConcurrentJobs job.jobType ∧
      (job.jobType = .perf → (oldestPendingQueueJob jobs .perf).isSome ∧
        perfCooldownActive clock jobs policy readings.nextCooldown = false ∧
        perfBlockedByTestsAfterPerf clock jobs readings.nextBlocked = false) := by
  rcases admissionTurn_cases with nobody | ⟨looks, hs⟩
  · rw [nobody] at chosen
    cases chosen
  · refine ⟨looks, nextAdmissibleQueueJob_some (hs ▸ chosen)⟩

theorem displaceBackgroundForPerf_none
    (nobody : displaceBackgroundForPerf clock policy readings jobs = none)
    (waiting : (oldestPendingQueueJob jobs .perf).isSome)
    (below : runningQueueJobCount jobs (some .perf) < policy.maxConcurrentJobs .perf)
    (cool : perfCooldownActive clock jobs policy readings.displaceCooldown = false)
    (free : perfBlockedByTestsAfterPerf clock jobs readings.displaceBlocked = false)
    (tests : runningQueueJobCount jobs (some .tests) = 0) :
    runningQueueJobCount jobs (some .background) = 0 := by
  obtain ⟨_, oldest⟩ := Option.isSome_iff_exists.mp waiting
  unfold displaceBackgroundForPerf at nobody
  rw [oldest, if_neg (by simp), if_neg (not_le.mpr below), if_neg (by simp [cool, free]),
    if_neg (by simp [tests]), argmin_eq_none] at nobody
  rw [runningQueueJobCount, countP_eq_length_filter, nobody]
  rfl

end

section

/-- What happens to the table while a pass is between its listing and its start: nothing is set
running, and jobs keep their types. -/
structure Lowers (table after : JobTable) : Prop where
  counts : ∀ jobType, running after jobType ≤ running table jobType
  jobs : ∀ id job, table.find id = some job → ∃ later, after.find id = some later ∧
    later.jobType = job.jobType ∧ (later.state = .running → job.state = .running)

variable {table after : JobTable}

theorem Lowers.refl (table : JobTable) : Lowers table table :=
  ⟨fun _ => le_refl _, fun _ job hf => ⟨job, hf, rfl, id⟩⟩

theorem lowers_updateWhere {chosen : QueueJob → Bool} {change : QueueJob → QueueJob}
    {hke : ∀ job, (change job).id = job.id}
    (less : ∀ job, (change job).state = .running → job.state = .running)
    (types : ∀ job, (change job).jobType = job.jobType) :
    Lowers table (updateWhere table chosen change hke) where
  counts jobType := running_updateWhere_le jobType less types
  jobs id job hf := by
    refine ⟨if chosen job then change job else job, ?_, ?_, ?_⟩
    · rw [find_updateWhere, hf]
      rfl
    · split
      · exact types job
      · rfl
    · split
      · exact less job
      · exact fun hs => hs

theorem lowers_markHolding (jobId : Option String) (reason : HoldingReason) :
    Lowers table (markPendingQueueJobsHolding table jobId reason) :=
  lowers_updateWhere (fun _ hs => hs) fun _ => rfl

theorem lowers_markEnding (jobId : String) (reason : HoldingReason) :
    Lowers table (markEnding table jobId reason) :=
  lowers_updateWhere (fun _ hs => hs) fun _ => rfl

theorem lowers_clearHolds : Lowers table (clearHolds table) :=
  lowers_updateWhere (fun _ hs => hs) fun _ => rfl

theorem lowers_finish (jobId : String) {state : JobState} (terminal : state.isTerminal)
    (exitCode : Option Int) (finishedAt : String) :
    Lowers table (finishQueueJob table jobId state exitCode finishedAt) := by
  refine lowers_updateWhere ?_ fun _ => rfl
  intro _ hs
  rw [show state = .running from hs] at terminal
  cases terminal

theorem lowers_insert {job : QueueJob} (hfr : table.find job.id = none)
    (hpe : job.state = .pending) : Lowers table (table.insert job hfr) where
  counts _ := (count_insert hfr (by simp [isRunning, hpe])).le
  jobs id _ hf := by
    refine ⟨_, ?_, rfl, fun hs => hs⟩
    rw [find_insert, hf]
    rfl

end

section

structure Admissible (policy : QueueAdmissionPolicy) (table : JobTable) (job : QueueJob) :
    Prop where
  room : (running table none : Int) < policy.maxRunningJobs
  below : running table (some job.jobType) < policy.maxConcurrentJobs job.jobType
  perf : running table (some .perf) = 0

def Still (table : JobTable) : Prop :=
  running table (some .tests) = 0 ∧ running table (some .background) = 0

structure Sound (policy : QueueAdmissionPolicy) (scheduler : Scheduler) : Prop where
  services : running scheduler.table (some .service) ≤ policy.serviceMaxConcurrent
  candidate : ∀ jobId, scheduler.pass.candidate = some jobId →
    ∃ job, scheduler.table.find jobId = some job ∧ Admissible policy scheduler.table job

structure Exclusive (scheduler : Scheduler) : Prop where
  perf : 0 < running scheduler.table (some .perf) → Still scheduler.table
  candidate : ∀ jobId job, scheduler.pass.candidate = some jobId →
    scheduler.table.find jobId = some job → job.jobType = .perf → Still scheduler.table

variable {policy : QueueAdmissionPolicy} {table after : JobTable} {pass next : Pass}

theorem Still.lowers (still : Still table) (lowers : Lowers table after) : Still after := by
  have tests := lowers.counts (some .tests)
  have _ := lowers.counts (some .background)
  obtain ⟨_, _⟩ := still
  exact ⟨by omega, by omega⟩

theorem Sound.lowers (hso : Sound policy ⟨table, pass⟩) (lowers : Lowers table after)
    (hs : next.candidate = none ∨ next.candidate = pass.candidate) :
    Sound policy ⟨after, next⟩ where
  services := (lowers.counts _).trans hso.services
  candidate _ chosen := by
    rcases hs with none_ | hs
    · exact absurd (none_.symm.trans chosen) (by simp)
    · obtain ⟨job, hf, admissible⟩ := hso.candidate _ (hs.symm.trans chosen)
      obtain ⟨_, ht, typed, _⟩ := lowers.jobs _ job hf
      have all := lowers.counts none
      have own := lowers.counts (some job.jobType)
      have perf := lowers.counts (some .perf)
      refine ⟨_, ht, ?_, ?_, ?_⟩
      · have room := admissible.room
        dsimp only at room ⊢
        omega
      · rw [typed]
        exact lt_of_le_of_lt own admissible.below
      · exact le_zero.mp (admissible.perf ▸ perf)

theorem Exclusive.lowers (exclusive : Exclusive ⟨table, pass⟩) (hso : Sound policy ⟨table, pass⟩)
    (lowers : Lowers table after) (hs : next.candidate = none ∨ next.candidate = pass.candidate) :
    Exclusive ⟨after, next⟩ where
  perf busy :=
    (exclusive.perf (lt_of_lt_of_le busy (lowers.counts (some .perf)))).lowers lowers
  candidate _ job chosen hf perf := by
    rcases hs with none_ | hs
    · exact absurd (none_.symm.trans chosen) (by simp)
    · have before := hs.symm.trans chosen
      obtain ⟨old, hli, _⟩ := hso.candidate _ before
      obtain ⟨_, ht, typed, _⟩ := lowers.jobs _ old hli
      obtain rfl := Option.some.inj (ht.symm.trans hf)
      exact (exclusive.candidate _ old before hli (typed.symm.trans perf)).lowers lowers

end

variable {readings : Readings}

section

variable {clock : Clock} {policy : QueueAdmissionPolicy}
  {allowed : Readings → List QueueJob → Prop} {before after : Scheduler}

/-- What a step is to the counts: it lowers them, it finds a candidate, or it starts one. -/
inductive Motion (clock : Clock) (policy : QueueAdmissionPolicy)
    (allowed : Readings → List QueueJob → Prop) (before after : Scheduler) : Prop
  | lowers (lowers : Lowers before.table after.table)
      (same : after.pass.candidate = none ∨ after.pass.candidate = before.pass.candidate)
  | turns (summary : QueueAdmissionSummary) (readings : Readings)
      (allows : allowed readings (listQueueJobs before.table))
      (table : after.table = before.table)
      (pass : after.pass = admissionTurn clock policy readings (listQueueJobs before.table)
        summary)
  | runs (jobId startedAt : String) (pid : Int) (here : before.pass.candidate = some jobId)
      (table : after.table = markRunning before.table jobId startedAt pid)
      (pass : after.pass.candidate = none)

theorem Step.motion (step : Step clock policy allowed before after) :
    Motion clock policy allowed before after := by
  cases step with
  | create _ _ _ hfr hpe => exact .lowers (lowers_insert hfr hpe) (.inr rfl)
  | cancelling _ _ jobId => exact .lowers (lowers_markEnding _ _) (.inr rfl)
  | finish _ _ jobId _ exitCode finishedAt terminal =>
    exact .lowers (lowers_finish _ terminal _ _) (.inr rfl)
  | crash | begin | blocked | validated | nobody | gone | spawnFails =>
    exact .lowers (.refl _) (.inl rfl)
  | clear => exact .lowers lowers_clearHolds (.inl rfl)
  | turn _ _ _ allows => exact .turns _ _ allows rfl rfl
  | hold _ reason => exact .lowers (lowers_markHolding none _) (.inl rfl)
  | displace _ background => exact .lowers (lowers_markEnding background.id _) (.inl rfl)
  | displaced _ background _ exitCode finishedAt =>
    exact .lowers (lowers_finish background.id rfl _ _) (.inl rfl)
  | mark _ jobId reason => exact .lowers (lowers_markHolding (some _) _) (.inr rfl)
  | chosen | spawn => exact .lowers (.refl _) (.inr rfl)
  | failed _ jobId _ finishedAt =>
    refine .lowers (lowers_finish _ rfl none _) (.inl ?_)
    split <;> rfl
  | run _ jobId pid => exact .runs _ _ pid rfl rfl rfl

variable {table : JobTable} {jobId : String} {pass next : Pass} {pass : Pass}

theorem Sound.turn (hso : Sound policy ⟨table, pass⟩)
    (readings : Readings) (summary : QueueAdmissionSummary) :
    Sound policy ⟨table, admissionTurn clock policy readings (listQueueJobs table) summary⟩ where
  services := hso.services
  candidate _ chosen := by
    obtain ⟨looks, job, hm, rfl, _, below, _⟩ := admissionTurn_candidate chosen
    have hst : job ∈ table.rows := (mem_insertionSort _).mp hm
    refine ⟨job, find_of_mem hst, ?_, ?_, ?_⟩
    · rw [← runningQueueJobCount_list]
      exact looks.room
    · rw [← runningQueueJobCount_list]
      exact below
    · rw [← runningQueueJobCount_list]
      exact looks.perf

theorem Exclusive.turn (exclusive : Exclusive ⟨table, pass⟩)
    (steady : Steady clock policy readings (listQueueJobs table))
    (summary : QueueAdmissionSummary) :
    Exclusive ⟨table, admissionTurn clock policy readings (listQueueJobs table) summary⟩ where
  perf := exclusive.perf
  candidate _ job chosen hf perf := by
    obtain ⟨looks, other, hm, rfl, _, below, gate⟩ := admissionTurn_candidate chosen
    have hst : other ∈ table.rows := (mem_insertionSort _).mp hm
    obtain rfl := Option.some.inj ((find_of_mem hst).symm.trans hf)
    obtain ⟨waiting, cool, free⟩ := gate perf
    obtain ⟨quiet, coolBefore, freeBefore⟩ := steady cool free
    have tests := looks.quiet waiting quiet
    rw [perf] at below
    have background := displaceBackgroundForPerf_none looks.nobody waiting below coolBefore
      freeBefore tests
    rw [runningQueueJobCount_list] at tests background
    exact ⟨tests, background⟩

theorem Sound.run (hso : Sound policy ⟨table, pass⟩)
    (hh : pass.candidate = some jobId) (startedAt : String) (pid : Int)
    (exhausted : next.candidate = none) :
    Sound policy ⟨markRunning table jobId startedAt pid, next⟩ where
  services := by
    obtain ⟨job, hf, admissible⟩ := hso.candidate _ hh
    obtain rfl := (find_some hf).2
    by_cases service : job.jobType = .service
    · have more : running (markRunning table job.id startedAt pid) (some .service) ≤
          running table (some .service) + 1 := running_markRunning_one _ _ _ _
      have below := admissible.below
      rw [service] at below
      exact more.trans below
    · exact (running_markRunning_other hf _ pid service).trans hso.services
  candidate _ chosen := absurd (exhausted.symm.trans chosen) (by simp)

theorem Exclusive.run (exclusive : Exclusive ⟨table, pass⟩)
    (hso : Sound policy ⟨table, pass⟩) (hh : pass.candidate = some jobId)
    (startedAt : String) (pid : Int) (hex : next.candidate = none) :
    Exclusive ⟨markRunning table jobId startedAt pid, next⟩ where
  perf busy := by
    obtain ⟨job, hf, admissible⟩ := hso.candidate _ hh
    obtain rfl := (find_some hf).2
    by_cases perf : job.jobType = .perf
    · obtain ⟨tests, background⟩ := exclusive.candidate job.id job hh hf perf
      refine ⟨le_zero.mp ?_, le_zero.mp ?_⟩
      · rw [← tests]
        exact running_markRunning_other hf _ pid (by simp [perf])
      · rw [← background]
        exact running_markRunning_other hf _ pid (by simp [perf])
    · have none_ := running_markRunning_other hf startedAt pid perf
      rw [admissible.perf] at none_
      exact absurd busy (not_lt.mpr none_)
  candidate _ job chosen := absurd (hex.symm.trans chosen) (by simp)

theorem safe_step {still : Prop}
    (steady : still → ∀ readings jobs, allowed readings jobs → Steady clock policy readings jobs)
    (safe : Sound policy before ∧ (still → Exclusive before))
    (step : Step clock policy allowed before after) :
    Sound policy after ∧ (still → Exclusive after) := by
  obtain ⟨hso, exclusive⟩ := safe
  obtain ⟨_, _⟩ := after
  cases step.motion with
  | lowers lowers hs => exact ⟨hso.lowers lowers hs, fun h => (exclusive h).lowers hso lowers hs⟩
  | turns _ _ allows tables passes =>
    cases tables
    cases passes
    exact ⟨hso.turn _ _, fun h => (exclusive h).turn (steady h _ _ allows) _⟩
  | runs _ _ pid hh tables hex =>
    cases tables
    exact ⟨hso.run hh _ pid hex, fun h => (exclusive h).run hso hh _ pid hex⟩

theorem Step.started (step : Step clock policy allowed before after)
    {job later : QueueJob} (hf : before.table.find jobId = some job)
    (hpe : job.state = .pending) (ht : after.table.find jobId = some later)
    (runs : later.state = .running) : before.pass.candidate = some jobId := by
  cases step.motion with
  | lowers lowers =>
    obtain ⟨_, hh, _, less⟩ := lowers.jobs _ job hf
    obtain rfl := Option.some.inj (hh.symm.trans ht)
    rw [less runs] at hpe
    cases hpe
  | turns _ _ _ tables =>
    rw [tables, hf] at ht
    obtain rfl := Option.some.inj ht
    rw [runs] at hpe
    cases hpe
  | runs own _ _ hh tables =>
    rw [tables, markRunning, find_updateWhere, hf, Option.map_some] at ht
    by_cases hs : job.id = own
    · rw [← hs, (find_some hf).2] at hh
      exact hh
    · rw [if_neg (by simp [hs])] at ht
      obtain rfl := Option.some.inj ht
      rw [runs] at hpe
      cases hpe

end

variable {table : JobTable}

section

variable {clock : Clock} {policy : QueueAdmissionPolicy}
  {allowed : Readings → List QueueJob → Prop} {start finish : Scheduler}

theorem running_le_all (table : JobTable) (jobType : JobType) :
    running table (some jobType) ≤ running table none := by
  refine countP_mono_left ?_
  intro _ _ counts
  simp only [isRunning, Bool.and_eq_true] at counts ⊢
  exact ⟨counts.1, rfl⟩

/-- A policy that passes the check leaves a slot that no service takes. -/
theorem reserve_of_check {jobs : List QueueJob}
    (passes : ensureServiceCapacityReserveBeforeAdmission jobs policy = .ok ()) :
    policy.serviceMaxConcurrent = 0 ∨
      (policy.serviceMaxConcurrent : Int) < policy.maxRunningJobs := by
  unfold ensureServiceCapacityReserveBeforeAdmission at passes
  split at passes
  · cases passes
  · dsimp only at passes
    split at passes
    · cases passes
    · omega

theorem sound_idle (nobody : running table none = 0) : Sound policy ⟨table, .idle⟩ where
  services := by
    have none_ := running_le_all table .service
    rw [nobody] at none_
    exact none_.trans (zero_le _)
  candidate _ chosen := by cases chosen

theorem exclusive_idle (nobody : running table none = 0) : Exclusive ⟨table, .idle⟩ where
  perf busy := by
    have none_ := running_le_all table .perf
    rw [nobody] at none_
    exact absurd busy (not_lt.mpr none_)
  candidate _ job chosen := by cases chosen

theorem safe_reached {still : Prop}
    (steady : still → ∀ readings jobs, allowed readings jobs → Steady clock policy readings jobs)
    (safe : Sound policy start ∧ (still → Exclusive start))
    (run : Run clock policy allowed start finish) :
    Sound policy finish ∧ (still → Exclusive finish) := by
  induction run with
  | refl => exact safe
  | tail _ step ih => exact safe_step steady ih step

/-- In every state that a run reaches: a job is set running only below the cap of all jobs and the
cap of its type and while no perf job runs, and services leave the slot that is not theirs. When the
readings of every turn agree, tests and background jobs stand still while a perf job runs. -/
theorem admission_is_safe {table : JobTable} (nobody : running table none = 0)
    (passes : ensureServiceCapacityReserveBeforeAdmission (listQueueJobs table) policy = .ok ())
    (run : Run clock policy allowed ⟨table, .idle⟩ finish) :
    (∀ after, Step clock policy allowed finish after → ∀ jobId job later,
      finish.table.find jobId = some job → job.state = .pending →
      after.table.find jobId = some later → later.state = .running →
        (running finish.table none : Int) < policy.maxRunningJobs ∧
        running finish.table (some job.jobType) < policy.maxConcurrentJobs job.jobType ∧
        running finish.table (some .perf) = 0) ∧
    (running finish.table (some .service) = 0 ∨
      running finish.table (some .service) ≤ policy.serviceMaxConcurrent ∧
        (running finish.table (some .service) : Int) < policy.maxRunningJobs) ∧
    ((∀ readings jobs, allowed readings jobs → Steady clock policy readings jobs) →
      0 < running finish.table (some .perf) →
        running finish.table (some .tests) = 0 ∧
          running finish.table (some .background) = 0) := by
  obtain ⟨sound, exclusive⟩ :=
    safe_reached id ⟨sound_idle nobody, fun _ => exclusive_idle nobody⟩ run
  refine ⟨?_, ?_, ?_⟩
  · intro after step jobId job later found pending there runs
    have candidate := step.started found pending there runs
    obtain ⟨other, listed, admissible⟩ := sound.candidate jobId candidate
    obtain rfl := Option.some.inj (listed.symm.trans found)
    exact ⟨admissible.room, admissible.below, admissible.perf⟩
  · have services := sound.services
    rcases reserve_of_check passes with zero | below
    · exact .inl (le_zero.mp (zero ▸ services))
    · exact .inr ⟨services, by omega⟩
  · intro steady
    exact (exclusive steady).perf

end

section

/-! Tests finish at 10.1 s and a perf job at 10.9 s; other tests are started and run. At 40.9 s both
have finished thirty full seconds ago, and whichever was queued first counts as the latest. -/

def raceClock : Clock where
  parseRfc3339 := Usage.januaryHost.parseRfc3339
  parsePythonNaive text := Usage.januaryHost.parseRfc3339 (text ++ "Z")
  localNow := some

def moment (second : String) : String := "2026-01-01T00:00:" ++ second ++ "Z"

def raceJob (id : String) (jobType : JobType) (state : JobState) (queuedAt : String)
    (finishedAt : Option String) : QueueJob :=
  ⟨id, jobType, state, queuedAt, none, finishedAt, none, none, none, none⟩

def finishedJobs : JobTable where
  rows := [raceJob "t1" .tests .succeeded (moment "01") (some (moment "10.1")),
    raceJob "p1" .perf .succeeded (moment "02") (some (moment "10.9"))]
  distinct := by decide

/-- All readings of a turn, in microseconds of the minute. -/
def readAt (microseconds : Int) : Readings :=
  let now := Usage.january 1 + microseconds * 1000
  ⟨now, now, now, now, now, now, now⟩

/-- The first reading lies before the full second, the others after it. -/
def crossing : Readings :=
  { readAt 40900100 with quietBlocked := Usage.january 1 + 40899900 * 1000 }

variable {allowed : Readings → List QueueJob → Prop}

theorem turn_started {clock : Clock} {policy : QueueAdmissionPolicy}
    {summary last : QueueAdmissionSummary} (job : QueueJob)
    (startedAt : String) (pid : Int) (hf : table.find job.id = some job)
    (hpe : job.state = .pending) (allows : allowed readings (listQueueJobs table))
    (turn : admissionTurn clock policy readings (listQueueJobs table) summary =
      .marking [] (some job.id) last) :
    ∃ next, Run clock policy allowed ⟨table, .looping summary⟩
      ⟨markRunning table job.id startedAt pid, .looping next⟩ := by
  have turned : Step clock policy allowed ⟨table, .looping summary⟩
      ⟨table, .marking [] (some job.id) last⟩ := turn ▸ .turn _ _ _ allows
  have spawned : Run clock policy allowed ⟨table, .looping summary⟩
      ⟨table, .spawned job.id pid last⟩ :=
    ((Relation.ReflTransGen.single turned).tail (.chosen _ job.id _)).tail
      (.spawn _ job _ pid hf hpe)
  exact ⟨_, spawned.tail (.run _ job.id pid _ _)⟩

/-- A job is created, and an admission starts it. -/
theorem created_and_started {queued : JobTable} (job : QueueJob)
    (fresh : finishedJobs.find job.id = none) (hq : finishedJobs.insert job fresh = queued)
    (startedAt : String) (pid : Int) {last : QueueAdmissionSummary}
    (passes : ensureServiceCapacityReserveBeforeAdmission (listQueueJobs queued) .default = .ok ())
    (hf : (clearHolds queued).find job.id = some job) (hpe : job.state = .pending)
    (allows : allowed readings (listQueueJobs (clearHolds queued)))
    (turn : admissionTurn raceClock .default readings (listQueueJobs (clearHolds queued))
      (opening queued) = .marking [] (some job.id) last) :
    ∃ next, Run raceClock .default allowed ⟨finishedJobs, .idle⟩
      ⟨markRunning (clearHolds queued) job.id startedAt pid, .looping next⟩ := by
  subst hq
  obtain ⟨next, started⟩ := turn_started job startedAt pid hf hpe allows turn
  have opened : Run raceClock .default allowed ⟨finishedJobs.insert job fresh, .idle⟩
      ⟨clearHolds (finishedJobs.insert job fresh), .looping (opening _)⟩ :=
    ((Relation.ReflTransGen.single (.begin _)).tail (.validated _ passes)).tail (.clear _)
  exact ⟨next, .head (.create finishedJobs .idle job fresh hpe) (opened.trans started)⟩

def testsJob : QueueJob := raceJob "t2" .tests .pending (moment "11") none

def perfJob : QueueJob := raceJob "p2" .perf .pending (moment "12") none

def testsQueued : JobTable := finishedJobs.insert testsJob rfl

def testsRunning : JobTable := markRunning (clearHolds testsQueued) "t2" (moment "11.5") 7

def perfQueued : JobTable := testsRunning.insert perfJob (by decide +kernel)

def bothRunning : JobTable := markRunning perfQueued "p2" (moment "40.9") 8

def perfFirst : JobTable := finishedJobs.insert perfJob rfl

def perfRunning : JobTable := markRunning (clearHolds perfFirst) "p2" (moment "50.5") 8

def testsWaiting : JobTable := perfRunning.insert testsJob (by decide +kernel)

def raceReadings (readings : Readings) (_ : List QueueJob) : Prop :=
  readings = readAt 11500000 ∨ readings = crossing

/-- A perf job is started, and the next turn finds tests that wait. -/
theorem admission_is_safe_of_tests :
    ∃ pass, Run raceClock .default (Steady raceClock .default) ⟨finishedJobs, .idle⟩
        ⟨testsWaiting, pass⟩ ∧
      running testsWaiting (some .perf) = 1 ∧ running testsWaiting (some .tests) = 0 ∧
      ∀ after, Step raceClock .default (Steady raceClock .default) ⟨testsWaiting, pass⟩ after →
        ∀ later, after.table.find "t2" = some later → later.state ≠ .running := by
  have steady : ∀ jobs, Steady raceClock .default (readAt 50500000) jobs :=
    fun _ warm free => ⟨free, warm, free⟩
  obtain ⟨next, started⟩ := created_and_started perfJob rfl rfl (moment "50.5") 8
    (by decide +kernel) (by decide +kernel) rfl (steady _) rfl
  have run : Run raceClock .default (Steady raceClock .default) ⟨finishedJobs, .idle⟩
      ⟨testsWaiting, _⟩ :=
    (started.tail (.create perfRunning _ testsJob _ rfl)).tail (.turn _ _ _ (steady _))
  have perf : running testsWaiting (some .perf) = 1 := by decide +kernel
  obtain ⟨starts, -, exclusive⟩ := admission_is_safe (by decide +kernel) (by decide +kernel) run
  refine ⟨_, run, perf, (exclusive (fun _ _ steady => steady) (by rw [perf]; decide)).1, ?_⟩
  intro after step later found runs
  have waits : testsWaiting.find "t2" = some testsJob := by decide +kernel
  have idle := (starts after step "t2" testsJob later waits rfl found runs).2.2
  rw [perf] at idle
  cases idle

/-- A perf job is started while tests run. -/
theorem perf_started_while_tests_run : running finishedJobs none = 0 ∧
    ensureServiceCapacityReserveBeforeAdmission (listQueueJobs finishedJobs) .default = .ok () ∧
    (∃ pass, Run raceClock .default raceReadings ⟨finishedJobs, .idle⟩ ⟨bothRunning, pass⟩) ∧
    running bothRunning (some .perf) = 1 ∧ running bothRunning (some .tests) = 1 := by
  refine ⟨by decide +kernel, by decide +kernel, ?_, by decide +kernel, by decide +kernel⟩
  obtain ⟨summary, tests⟩ := created_and_started testsJob rfl rfl (moment "11.5") 7
    (by decide +kernel) (by decide +kernel) rfl (show raceReadings (readAt 11500000) _ from .inl rfl)
    rfl
  obtain ⟨next, perf⟩ := turn_started perfJob (moment "40.9") 8
    (show perfQueued.find "p2" = some perfJob by decide +kernel) rfl
    (show raceReadings crossing _ from .inr rfl)
    (show admissionTurn raceClock .default _ _ summary = _ from rfl)
  have created : Step raceClock .default raceReadings ⟨testsRunning, .looping summary⟩
      ⟨perfQueued, .looping summary⟩ := .create testsRunning _ perfJob _ rfl
  exact ⟨_, (tests.tail created).trans perf⟩

end

end SessionManager.Jobs
