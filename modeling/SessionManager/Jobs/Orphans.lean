import SessionManager.Jobs.Processes

/-! When a job can lose its process. A start spawns outside of the statement that sets the job
running, and a cancel that has read the job as pending signals nobody. When no call reads the job as
pending while a start still has to make its statement, no start reads it so while a cancel does, and
the statement of a start does not fail, the job has one process at most, and who ends the job has
signalled it or seen it gone. Otherwise the monitor finds the job cancelled and leaves the process to
itself, or there is no monitor. -/
namespace SessionManager.Jobs
open Foundation Function

/-- No call reads the job as pending while a start that has read it so is under way, no start does
while a cancel is, and a start that has spawned writes the process down. -/
structure Undisturbed (before after : JobSystem) : Prop where
  starts : ∀ call, before.starts call = .called → after.starts call = .spawning →
    ∀ other, ¬(before.starts other).claims ∧ ¬(before.cancels other).claims
  cancels : ∀ call job, before.cancels call = .called → after.cancels call = .finishing job →
    ∀ other, ¬(before.starts other).claims
  updates : ∀ call pid, before.starts call = .updating pid → after.starts call ≠ .returned

def SerialStep (jobId : String) (before after : JobSystem) : Prop :=
  ProcessStep jobId before after ∧ Undisturbed before after

section

variable {table : JobTable} {jobId : String} {job : QueueJob}

section

variable (hf : table.find jobId = some job)
include hf

theorem find_finishQueueJob (state : JobState) (exitCode : Option Int) (finishedAt : String) :
    ∃ later, (finishQueueJob table jobId state exitCode finishedAt).find jobId = some later ∧
      later.processGroupId = job.processGroupId ∧
      later.state = if job.state.isTerminal then job.state else state := by
  have hs : job.id = jobId := (KeyedTable.find_some hf).2
  unfold finishQueueJob
  rw [find_updateWhere, hf]
  cases hen : job.state.isTerminal <;> simp [hs, hen]

theorem find_markRunning (hpe : job.state = .pending) (startedAt : String) (pid : Int) :
    ∃ later, (markRunning table jobId startedAt pid).find jobId = some later ∧
      later.processGroupId = some pid ∧ later.state = .running := by
  have hs : job.id = jobId := (KeyedTable.find_some hf).2
  unfold markRunning
  rw [find_updateWhere, hf]
  exact ⟨_, rfl, by simp [hs, hpe], by simp [hs, hpe]⟩

theorem find_markQueueJobCancelling :
    ∃ later, (markQueueJobCancelling table jobId).find jobId = some later ∧
      later.processGroupId = job.processGroupId ∧ later.state = job.state := by
  unfold markQueueJobCancelling markEnding
  rw [find_updateWhere, hf]
  refine ⟨_, rfl, ?_⟩
  dsimp only
  split
  · exact ⟨rfl, rfl⟩
  · exact ⟨rfl, rfl⟩

end

theorem forced_terminal {reason : Option HoldingReason} {state : JobState}
    (forced : forcedTerminalStateForHoldingReason reason = some state) :
    state.isTerminal := by
  unfold forcedTerminalStateForHoldingReason at forced
  split at forced
  · cases forced
    rfl
  · cases forced
    rfl
  · cases forced

end

section

inductive Phase
  | fresh
  | claimed (call : Nat)
  | spawned (call : Nat) (pid : Int)
  | started (pid : Int)

def Phase.call : Phase → Option Nat
  | .claimed call | .spawned call _ => some call
  | .fresh | .started _ => none

def Phase.pid : Phase → Option Int
  | .spawned _ pid | .started pid => some pid
  | .fresh | .claimed _ => none

def Quiet (system : JobSystem) (pid : Int) : Prop :=
  ∀ process, system.processes pid = some process → process.alive = true → process.signalled = true

def Phase.row (quiet : Int → Prop) (job : QueueJob) : Phase → Prop
  | .fresh => job.state ≠ .running
  | .claimed _ | .spawned _ _ => job.state = .pending
  | .started pid =>
    job.state ≠ .pending ∧ job.processGroupId = some pid ∧ (job.state = .cancelled → quiet pid)

def StartCall.fits (phase : Phase) (call : Nat) : StartCall → Prop
  | .spawning | .failing => phase = .claimed call
  | .updating pid => phase = .spawned call pid
  | .watching pid => phase = .started pid
  | .called | .returned => True

def CancelCall.fits (quiet : Int → Prop) (phase : Phase) : CancelCall → Prop
  | .marking job | .signalling job =>
    job.state = .running ∧ ∃ pid, phase = .started pid ∧ job.processGroupId = some pid
  | .finishing job =>
    job.state = .pending ∧ phase = .fresh ∨
      job.state = .running ∧ ∃ pid, phase = .started pid ∧ quiet pid
  | .called | .returned => True

def Monitor.fits (quiet : Int → Prop) (phase : Phase) (pid : Int) : Monitor → Prop
  | .absent | .returned => True
  | .polling | .polled _ | .checked _ => phase = .started pid
  | .terminating state => phase = .started pid ∧ state.isTerminal = true
  | .finishing state _ | .writing state _ =>
    phase = .started pid ∧ quiet pid ∧ state.isTerminal = true

def StartCall.keeps (pid : Int) (start : StartCall) : Prop :=
  start = .updating pid ∨ start = .watching pid

structure Orderly (jobId : String) (system : JobSystem) (phase : Phase) : Prop where
  row : ∃ job, system.table.find jobId = some job ∧ phase.row (Quiet system) job
  held : ∀ call, phase.call = some call → (system.starts call).claims
  starts : ∀ call, (system.starts call).fits phase call
  cancels : ∀ call, (system.cancels call).fits (Quiet system) phase
  monitors : ∀ pid, (system.monitors pid).fits (Quiet system) phase pid
  processes : ∀ pid process, system.processes pid = some process → phase.pid = some pid
  watched : ∀ pid, Quiet system pid ∨ (system.monitors pid).watches ∨
    ∃ call, (system.starts call).keeps pid

variable {quiet calmer : Int → Prop} {phase : Phase}

theorem Phase.row.mono {job : QueueJob} (row : phase.row quiet job)
    (calms : ∀ pid, quiet pid → calmer pid) : phase.row calmer job := by
  cases phase with
  | fresh | claimed | spawned => exact row
  | started pid => exact ⟨row.1, row.2.1, fun cancelled => calms pid (row.2.2 cancelled)⟩

theorem CancelCall.fits.mono {cancel : CancelCall} (fits : cancel.fits quiet phase)
    (calms : ∀ pid, quiet pid → calmer pid) : cancel.fits calmer phase := by
  cases cancel with
  | called => trivial
  | marking | signalling => exact fits
  | finishing =>
    rcases fits with early | ⟨runs, pid, started, hd⟩
    · exact .inl early
    · exact .inr ⟨runs, pid, started, calms pid hd⟩
  | returned => trivial

theorem Monitor.fits.mono {monitor : Monitor} {pid : Int} (fits : monitor.fits quiet phase pid)
    (calms : ∀ pid, quiet pid → calmer pid) : monitor.fits calmer phase pid := by
  cases monitor with
  | absent => trivial
  | polling | polled | checked | terminating => exact fits
  | finishing | writing => exact ⟨fits.1, calms pid fits.2.1, fits.2.2⟩
  | returned => trivial

end

variable {call : Nat}

section

variable {jobId : String} {system : JobSystem} {phase : Phase}

section

variable (orderly : Orderly jobId system phase)
include orderly

theorem Orderly.start {start : StartCall}
    (fits : start.fits phase call) (claims : (system.starts call).claims → start.claims)
    (hke : ∀ pid, (system.starts call).keeps pid →
      (system.monitors pid).watches ∨ start.keeps pid) :
    Orderly jobId (system.setStart call start) phase :=
  { orderly with
    held := by
      refine (forall_update_iff _ fun _ (thread : StartCall) =>
        phase.call = some _ → thread.claims).mpr ⟨?_, fun _ _ => orderly.held _⟩
      exact fun hs => claims (orderly.held _ hs)
    starts := (forall_update_iff _ fun _ (thread : StartCall) =>
      thread.fits _ _).mpr ⟨fits, fun _ _ => orderly.starts _⟩
    watched := by
      intro pid
      rcases orderly.watched pid with quiet | watches | ⟨other, kept⟩
      · exact .inl quiet
      · exact .inr (.inl watches)
      · by_cases hs : other = call
        · subst hs
          rcases hke pid kept with watches | hke
          · exact .inr (.inl watches)
          · exact .inr (.inr ⟨other, by simpa [JobSystem.setStart] using hke⟩)
        · exact .inr (.inr ⟨other, by simpa [JobSystem.setStart, hs] using kept⟩) }

theorem Orderly.cancel {cancel : CancelCall} (fits : cancel.fits (Quiet system) phase) :
    Orderly jobId (system.setCancel call cancel) phase :=
  { orderly with
    cancels := (forall_update_iff _ fun _ (thread : CancelCall) =>
      thread.fits (Quiet system) phase).mpr ⟨fits, fun other _ => orderly.cancels other⟩ }

theorem Orderly.monitor {pid : Int} {monitor : Monitor}
    (fits : monitor.fits (Quiet system) phase pid) (quiet : monitor.watches ∨ Quiet system pid) :
    Orderly jobId (system.setMonitor pid monitor) phase :=
  { orderly with
    monitors := (forall_update_iff _ fun other (thread : Monitor) =>
      thread.fits (Quiet system) phase other).mpr ⟨fits, fun other _ => orderly.monitors other⟩
    watched := by
      refine (forall_update_iff _ fun _ (thread : Monitor) =>
        Quiet _ _ ∨ thread.watches ∨ ∃ call, (system.starts call).keeps _).mpr
          ⟨?_, fun _ _ => orderly.watched _⟩
      rcases quiet with watches | quiet
      · exact .inr (.inl watches)
      · exact .inl quiet }

theorem Orderly.table {table : JobTable}
    (row : ∃ job, table.find jobId = some job ∧ phase.row (Quiet system) job) :
    Orderly jobId { system with table } phase :=
  { orderly with row }

end

theorem quiet_setProcess {pid : Int} {process later : Process}
    (ht : system.processes pid = some process)
    (calms : (process.alive → process.signalled) →
      later.alive → later.signalled) (other : Int) (quiet : Quiet system other) :
    Quiet (system.setProcess pid later) other := by
  intro hf hh
  by_cases hs : other = pid
  · subst hs
    simp only [JobSystem.setProcess, update_self, Option.some.injEq] at hh
    subst hh
    exact calms (quiet _ ht)
  · simp only [JobSystem.setProcess, update_of_ne hs] at hh
    exact quiet hf hh

theorem Orderly.process (orderly : Orderly jobId system phase) {pid : Int}
    {process later : Process} (ht : system.processes pid = some process)
    (calms : (process.alive → process.signalled) → later.alive → later.signalled) :
    Orderly jobId (system.setProcess pid later) phase where
  row := by
    obtain ⟨job, hf, row⟩ := orderly.row
    exact ⟨job, hf, row.mono (quiet_setProcess ht calms)⟩
  held := orderly.held
  starts := orderly.starts
  cancels _ := (orderly.cancels _).mono (quiet_setProcess ht calms)
  monitors _ := (orderly.monitors _).mono (quiet_setProcess ht calms)
  processes := by
    refine (forall_update_iff _ fun _ hf =>
      ∀ process, hf = some process → phase.pid = some _).mpr
        ⟨fun _ _ => orderly.processes pid _ ht, fun _ _ => orderly.processes _⟩
  watched _ := (orderly.watched _).imp_left (quiet_setProcess ht calms _)

theorem Orderly.signal (orderly : Orderly jobId system phase) (pid : Int) :
    Orderly jobId (system.signal pid) phase ∧ Quiet (system.signal pid) pid := by
  unfold JobSystem.signal
  split
  · rename_i ht
    refine ⟨orderly.process ht fun _ _ => rfl, ?_⟩
    intro hf hh _
    simp only [JobSystem.setProcess, update_self, Option.some.injEq] at hh
    rw [← hh]
  · rename_i missing
    refine ⟨orderly, ?_⟩
    intro hf hh
    rw [missing] at hh
    cases hh

end

section

variable {quiet : Int → Prop} {phase : Phase}

/-- A start that is not the one under way rests until the job is started. -/
theorem StartCall.fits.rests {start : StartCall} (fits : start.fits phase call)
    (hap : phase.call ≠ some call) (early : ∀ pid, phase ≠ .started pid) (later : Phase) :
    start.fits later call := by
  cases start with
  | called => trivial
  | spawning | failing | updating => exact absurd (congrArg Phase.call fits) hap
  | watching pid => exact absurd fits (early pid)
  | returned => trivial

theorem CancelCall.fits.rests {cancel : CancelCall} (fits : cancel.fits quiet phase)
    (early : ∀ pid, phase ≠ .started pid) (free : phase = .fresh → ¬cancel.claims)
    (others : Int → Prop) (later : Phase) : cancel.fits others later := by
  cases cancel with
  | called => trivial
  | marking | signalling =>
    obtain ⟨_, pid, started, _⟩ := fits
    exact absurd started (early pid)
  | finishing =>
    rcases fits with ⟨hpe, hfr⟩ | ⟨_, pid, started, _⟩
    · exact absurd hpe (free hfr)
    · exact absurd started (early pid)
  | returned => trivial

theorem Monitor.fits.rests {monitor : Monitor} {pid : Int} (fits : monitor.fits quiet phase pid)
    (early : ∀ pid, phase ≠ .started pid) (others : Int → Prop) (later : Phase) :
    monitor.fits others later pid := by
  cases monitor with
  | absent => trivial
  | polling | polled | checked => exact absurd fits (early pid)
  | terminating | finishing | writing => exact absurd fits.1 (early pid)
  | returned => trivial

variable {jobId : String} {system : JobSystem}

theorem Orderly.advance (orderly : Orderly jobId system phase)
    (early : ∀ pid, phase ≠ .started pid) (mine : ∀ other, phase.call = some other → other = call)
    (free : phase = .fresh → ∀ other, ¬(system.cancels other).claims) {later : Phase}
    {table : JobTable} {processes : Int → Option Process} {start : StartCall}
    (row : ∃ job, table.find jobId = some job ∧ later.row (Quiet { system with processes }) job)
    (held : ∀ other, later.call = some other → other = call ∧ start.claims)
    (fits : start.fits later call)
    (placed : ∀ pid process, processes pid = some process →
      later.pid = some pid ∧ start.keeps pid) :
    Orderly jobId ({ system with table, processes }.setStart call start) later where
  row := row
  held := by
    intro other hs
    obtain ⟨rfl, claims⟩ := held _ hs
    simpa [JobSystem.setStart] using claims
  starts := by
    refine (forall_update_iff _ fun _ (thread : StartCall) =>
      thread.fits _ _).mpr ⟨fits, ?_⟩
    intro other hap
    exact (orderly.starts _).rests (fun hs => hap (mine _ hs)) early _
  cancels _ := (orderly.cancels _).rests early (fun hfr => free hfr _) _ _
  monitors pid := (orderly.monitors pid).rests early _ _
  processes pid _ ht := (placed pid _ ht).1
  watched := by
    intro pid
    cases ht : processes pid with
    | none =>
      refine .inl ?_
      intro process hf
      rw [show processes pid = some _ from hf] at ht
      cases ht
    | some process =>
      refine .inr (.inr ⟨call, ?_⟩)
      simpa [JobSystem.setStart] using (placed pid process ht).2

end

section

variable {jobId : String} {before after : JobSystem} {phase : Phase}

section

variable (orderly : Orderly jobId before phase)
include orderly

theorem Orderly.fresh {job : QueueJob}
    (hf : before.table.find jobId = some job) (hpe : job.state = .pending)
    (nobody : ∀ other, ¬(before.starts other).claims) : phase = .fresh := by
  obtain ⟨other, ht, row⟩ := orderly.row
  obtain rfl := Option.some.inj (ht.symm.trans hf)
  cases phase with
  | fresh => rfl
  | claimed call | spawned call => exact absurd (orderly.held _ rfl) (nobody _)
  | started => exact absurd hpe row.1

theorem Orderly.finish {state : JobState}
    (terminal : state.isTerminal) (exitCode : Option Int) (finishedAt : String)
    (late : phase = .fresh ∨ ∃ pid, phase = .started pid ∧ Quiet before pid) :
    Orderly jobId
      { before with table := finishQueueJob before.table jobId state exitCode finishedAt }
      phase := by
  refine orderly.table ?_
  obtain ⟨_, hf, row⟩ := orderly.row
  obtain ⟨later, ht, group, hen⟩ := find_finishQueueJob hf _ _ _
  refine ⟨_, ht, ?_⟩
  have hex : later.state.isTerminal := by
    rw [hen]
    split
    · assumption
    · exact terminal
  rcases late with rfl | ⟨pid, rfl, quiet⟩
  · intro runs
    rw [runs] at hex
    cases hex
  · refine ⟨?_, group.trans row.2.1, fun _ => quiet⟩
    intro hpe
    rw [hpe] at hex
    cases hex

theorem Orderly.startAt {start : StartCall} (thread : before.starts call = start) :
    start.fits phase call :=
  thread ▸ orderly.starts call

theorem Orderly.cancelAt {cancel : CancelCall} (thread : before.cancels call = cancel) :
    cancel.fits (Quiet before) phase :=
  thread ▸ orderly.cancels call

theorem Orderly.monitorAt {pid : Int} {monitor : Monitor} (thread : before.monitors pid = monitor) :
    monitor.fits (Quiet before) phase pid :=
  thread ▸ orderly.monitors pid

/-- A start that could not spawn gives the job up, whether or not it writes the failure down. -/
theorem Orderly.giveUp {table : JobTable} {job : QueueJob}
    (thread : before.starts call = .failing) (hf : table.find jobId = some job)
    (row : job.state ≠ .running) :
    Orderly jobId ({ before with table }.setStart call .returned) .fresh := by
  obtain rfl : phase = .claimed call := orderly.startAt thread
  refine orderly.advance (by simp) ?_ (by simp) ⟨job, hf, row⟩ (by simp [Phase.call]) trivial ?_
  · intro other hs
    exact (Option.some.inj hs).symm
  · intro pid process ht
    cases orderly.processes pid process ht

theorem Orderly.step
    (step : SerialStep jobId before after) : ∃ later, Orderly jobId after later := by
  obtain ⟨step, undisturbed⟩ := step
  cases step with
  | @startFinds call job thread hf hpe =>
    have free := undisturbed.starts _ thread (by simp [JobSystem.setStart])
    obtain rfl := orderly.fresh hf hpe fun _ => (free _).1
    refine ⟨.claimed _, orderly.advance (by simp) (by simp [Phase.call])
      (fun _ _ => (free _).2) ⟨job, hf, hpe⟩ ?_ rfl ?_⟩
    · intro other hs
      exact ⟨(Option.some.inj hs).symm, trivial⟩
    · intro pid process ht
      cases orderly.processes pid process ht
  | startSkips thread =>
    exact ⟨_, orderly.start trivial (by simp [thread, StartCall.claims])
      (by simp [thread, StartCall.keeps])⟩
  | @spawnFails call thread =>
    have fits := orderly.startAt thread
    exact ⟨_, orderly.start fits (fun _ => trivial) (by simp [thread, StartCall.keeps])⟩
  | @startFails call finishedAt thread =>
    obtain rfl : phase = .claimed call := orderly.startAt thread
    obtain ⟨job, hf, hpe⟩ := orderly.row
    obtain ⟨later, ht, _, hen⟩ := find_finishQueueJob hf .failed none finishedAt
    refine ⟨.fresh, orderly.giveUp thread ht ?_⟩
    rw [hen, show job.state = .pending from hpe]
    decide
  | @failureUnwritten call thread =>
    obtain rfl : phase = .claimed call := orderly.startAt thread
    obtain ⟨job, hf, hpe⟩ := orderly.row
    refine ⟨.fresh, orderly.giveUp thread hf ?_⟩
    rw [show job.state = .pending from hpe]
    decide
  | @spawns call pid thread =>
    obtain rfl : phase = .claimed call := orderly.startAt thread
    obtain ⟨job, hf, hpe⟩ := orderly.row
    refine ⟨.spawned _ pid, orderly.advance (by simp) ?_ (by simp) ⟨job, hf, hpe⟩ ?_
      rfl ?_⟩
    · intro other hs
      exact (Option.some.inj hs).symm
    · intro other hs
      exact ⟨(Option.some.inj hs).symm, trivial⟩
    · refine (forall_update_iff _ fun _ (found : Option Process) =>
        ∀ process, found = some process → _).mpr ⟨fun _ _ => ⟨rfl, .inl rfl⟩, ?_⟩
      intro other _ process ht
      cases orderly.processes other process ht
  | @updates call pid _ thread =>
    obtain rfl : phase = .spawned call pid := orderly.startAt thread
    obtain ⟨job, hf, hpe⟩ := orderly.row
    obtain ⟨later, ht, group, runs⟩ := find_markRunning hf hpe _ pid
    refine ⟨.started pid, orderly.advance (by simp) ?_ (by simp)
      ⟨_, ht, by simp [runs], group, by simp [runs]⟩ (by simp [Phase.call]) rfl ?_⟩
    · intro other hs
      exact (Option.some.inj hs).symm
    · intro other process ht
      obtain rfl := Option.some.inj (orderly.processes _ _ ht)
      exact ⟨rfl, .inr rfl⟩
  | @updateFails call pid thread =>
    exact absurd (by simp [JobSystem.setStart]) (undisturbed.updates call pid thread)
  | @watches call pid thread =>
    have fits := orderly.startAt thread
    have watched : Orderly jobId (before.setMonitor pid .polling) phase :=
      orderly.monitor fits (.inl trivial)
    refine ⟨_, watched.start trivial ?_ ?_⟩
    · simp [JobSystem.setMonitor, thread, StartCall.claims]
    · intro other kept
      rw [show (before.setMonitor pid .polling).starts _ = .watching pid from thread] at kept
      simp only [StartCall.keeps, reduceCtorEq, StartCall.watching.injEq, false_or] at kept
      subst kept
      exact .inl (by simp [JobSystem.setMonitor, Monitor.watches])
  | cancelSkips | cancelFails => exact ⟨_, orderly.cancel trivial⟩
  | @cancelFindsRunning call _ _ hf runs =>
    refine ⟨_, orderly.cancel ⟨runs, ?_⟩⟩
    obtain ⟨other, ht, row⟩ := orderly.row
    obtain rfl := Option.some.inj (ht.symm.trans hf)
    cases phase with
    | fresh => exact absurd runs row
    | claimed | spawned => rw [show other.state = .pending from row] at runs; cases runs
    | started pid => exact ⟨pid, rfl, row.2.1⟩
  | @cancelFindsPending call job thread hf hpe =>
    have free := undisturbed.cancels _ job thread (by simp [JobSystem.setCancel])
    obtain rfl := orderly.fresh hf hpe free
    exact ⟨.fresh, orderly.cancel (.inl ⟨hpe, rfl⟩)⟩
  | @marks call _ thread =>
    have fits := orderly.cancelAt thread
    obtain ⟨row, hf, fitting⟩ := orderly.row
    obtain ⟨later, ht, group, state⟩ := find_markQueueJobCancelling hf
    refine ⟨_, (orderly.table ⟨_, ht, ?_⟩).cancel fits⟩
    cases phase with
    | fresh => exact fun runs => fitting (state.symm.trans runs)
    | claimed | spawned => exact state.trans fitting
    | started => exact ⟨state ▸ fitting.1, group.trans fitting.2.1, state ▸ fitting.2.2⟩
  | @signals call _ thread =>
    have fits := orderly.cancelAt thread
    obtain ⟨runs, pid, started, group⟩ := fits
    rw [group]
    obtain ⟨later, quiet⟩ := orderly.signal pid
    exact ⟨_, later.cancel (.inr ⟨runs, pid, started, quiet⟩)⟩
  | @cancels call _ exitCode finishedAt thread =>
    have fits := orderly.cancelAt thread
    exact ⟨_, (orderly.finish rfl _ _
      (fits.imp And.right And.right)).cancel trivial⟩
  | @polls pid _ thread | @stays pid _ thread | @unread pid _ thread | @sleeps pid _ thread =>
    have fits := orderly.monitorAt thread
    exact ⟨_, orderly.monitor fits (.inl trivial)⟩
  | @pollFails pid thread | @timesOut pid _ thread =>
    have fits := orderly.monitorAt thread
    exact ⟨_, orderly.monitor ⟨fits, rfl⟩ (.inl trivial)⟩
  | @leaves pid _ _ thread hf cancelled =>
    obtain rfl : phase = .started pid := orderly.monitorAt thread
    obtain ⟨row, ht, fitting⟩ := orderly.row
    obtain rfl := Option.some.inj (ht.symm.trans hf)
    exact ⟨_, orderly.monitor trivial (.inr (fitting.2.2 cancelled))⟩
  | @exits pid _ thread gone =>
    have fits := orderly.monitorAt thread
    refine ⟨_, orderly.monitor ⟨fits, ?_, ?_⟩ (.inl trivial)⟩
    · intro process ht lives
      rw [gone _ ht] at lives
      cases lives
    · unfold exitState
      split <;> rfl
  | @terminates pid _ _ thread =>
    have fits := orderly.monitorAt thread
    obtain ⟨later, quiet⟩ := orderly.signal pid
    exact ⟨_, later.monitor ⟨fits.1, quiet, fits.2⟩ (.inl trivial)⟩
  | @finds pid state _ job thread =>
    have fits := orderly.monitorAt thread
    refine ⟨_, orderly.monitor ⟨fits.1, fits.2.1, ?_⟩ (.inl trivial)⟩
    cases forced : forcedTerminalStateForHoldingReason job.holdingReason with
    | none => exact fits.2.2
    | some => exact forced_terminal forced
  | @misses pid _ _ thread =>
    have fits := orderly.monitorAt thread
    exact ⟨_, orderly.monitor trivial (.inr fits.2.1)⟩
  | @finishes pid _ exitCode finishedAt thread =>
    have fits := orderly.monitorAt thread
    exact ⟨_, (orderly.finish fits.2.2 _ _
      (.inr ⟨pid, fits.1, fits.2.1⟩)).monitor trivial (.inr fits.2.1)⟩
  | @finishFails pid _ _ thread =>
    have fits := orderly.monitors pid
    rcases thread with thread | thread
    all_goals
      rw [thread] at fits
      exact ⟨_, orderly.monitor trivial (.inr fits.2.1)⟩
  | processExits _ ht => exact ⟨_, orderly.process ht fun calm => calm⟩
  | processEnds ht => exact ⟨_, orderly.process ht fun _ lives => by cases lives⟩

end

theorem Created.orderly (created : Created jobId before) : Orderly jobId before .fresh where
  row := by
    obtain ⟨job, hf, hpe⟩ := created.pending
    exact ⟨job, hf, by simp [Phase.row, hpe]⟩
  held := by simp [Phase.call]
  starts := by simp [created.starts, StartCall.fits]
  cancels := by simp [created.cancels, CancelCall.fits]
  monitors := by simp [created.monitors, Monitor.fits]
  processes := by simp [created.processes]
  watched := by simp [Quiet, created.processes]

theorem Created.reached (created : Created jobId before)
    (run : Relation.ReflTransGen (SerialStep jobId) before after) :
    ∃ phase, Orderly jobId after phase := by
  induction run with
  | refl => exact ⟨.fresh, created.orderly⟩
  | tail _ step ih =>
    obtain ⟨phase, orderly⟩ := ih
    exact orderly.step step

/-- Undisturbed starts and cancels leave no process behind. -/
theorem no_orphaned_process (created : Created jobId before)
    (run : Relation.ReflTransGen (SerialStep jobId) before after) (settled : Settled after) :
    ¬Orphaned jobId after := by
  obtain ⟨phase, orderly⟩ := created.reached run
  rintro ⟨_, pid, process, there, alive, unsignalled, unwatched⟩
  rcases orderly.watched pid with quiet | watches | ⟨call, kept⟩
  · rw [quiet process there alive] at unsignalled
    cases unsignalled
  · exact unwatched watches
  · rcases settled.starts call with rests | rests
    · simp [StartCall.keeps, rests] at kept
    · simp [StartCall.keeps, rests] at kept

end

section

def queuedJob : QueueJob := ⟨"j", .tests, .pending, "a", none, none, none, none, none, none⟩

def queuedSystem : JobSystem :=
  ⟨⟨[queuedJob], by decide⟩, fun _ => none, fun _ => .called, fun _ => .called, fun _ => .absent⟩

theorem queuedSystem_created : Created "j" queuedSystem :=
  ⟨⟨queuedJob, rfl, rfl⟩, rfl, rfl, rfl, rfl⟩

def startReads : JobSystem := queuedSystem.setStart 0 .spawning

def cancelReads : JobSystem := startReads.setCancel 0 (.finishing queuedJob)

def cancelWrites : JobSystem :=
  { cancelReads with
    table := finishQueueJob cancelReads.table "j" .cancelled none "b" }.setCancel 0 .returned

def spawnedProcess : Process := ⟨none, true, false⟩

def spawnedFrom (system : JobSystem) : JobSystem :=
  (system.setProcess 7 spawnedProcess).setStart 0 (.updating 7)

def updatedFrom (system : JobSystem) : JobSystem :=
  { system with table := markRunning system.table "j" "c" 7 }.setStart 0 (.watching 7)

def watchedFrom (system : JobSystem) : JobSystem :=
  (system.setMonitor 7 .polling).setStart 0 .returned

def lateStart : JobSystem := watchedFrom (updatedFrom (spawnedFrom cancelWrites))

def monitorPolls : JobSystem := lateStart.setMonitor 7 (.polled spawnedProcess.status)

def monitorLeaves : JobSystem := monitorPolls.setMonitor 7 .returned

def startedSystem : JobSystem := watchedFrom (updatedFrom (spawnedFrom startReads))

def runningJob : QueueJob :=
  { queuedJob with state := .running, startedAt := some "c", pid := some 7, processGroupId := some 7 }

def runningRead : JobSystem := startedSystem.setCancel 0 (.marking runningJob)

def runningMarked : JobSystem :=
  { runningRead with
    table := markQueueJobCancelling runningRead.table "j" }.setCancel 0 (.signalling runningJob)

def runningSignalled : JobSystem :=
  (runningMarked.signalled (runningJob.processGroupId.or runningJob.pid)).setCancel 0
    (.finishing runningJob)

def runningCancelled : JobSystem :=
  { runningSignalled with
    table := finishQueueJob runningSignalled.table "j" .cancelled none "d" }.setCancel 0 .returned

variable {before later : JobSystem}

theorem undisturbed_setStart {start : StartCall}
    (starts : later.starts = before.starts) (cancels : later.cancels = before.cancels)
    (moves : start ≠ .spawning)
    (stays : ∀ pid, before.starts call = .updating pid → start ≠ .returned) :
    Undisturbed before (later.setStart call start) where
  starts other called spawning := by
    by_cases hs : other = call
    · exact absurd (by simpa [JobSystem.setStart, hs] using spawning) moves
    · simp [JobSystem.setStart, hs, starts, called] at spawning
  cancels other job called finishing := by
    simp [JobSystem.setStart, cancels, called] at finishing
  updates other pid updating := by
    by_cases hs : other = call
    · subst hs
      simpa [JobSystem.setStart] using stays pid updating
    · simp [JobSystem.setStart, hs, starts, updating]

theorem undisturbed_setCancel {cancel : CancelCall}
    (starts : later.starts = before.starts) (cancels : later.cancels = before.cancels)
    (moves : before.cancels call = .called → ∀ job, cancel ≠ .finishing job) :
    Undisturbed before (later.setCancel call cancel) where
  starts other called spawning := by
    simp [JobSystem.setCancel, starts, called] at spawning
  cancels other job called finishing := by
    by_cases hs : other = call
    · subst hs
      exact absurd (by simpa [JobSystem.setCancel] using finishing) (moves called job)
    · simp [JobSystem.setCancel, hs, cancels, called] at finishing
  updates other pid updating := by
    simp [JobSystem.setCancel, starts, updating]

theorem startedSystem_reached :
    Relation.ReflTransGen (SerialStep "j") queuedSystem startedSystem := by
  have reads : SerialStep "j" queuedSystem startReads :=
    ⟨.startFinds rfl rfl rfl, fun _ _ _ _ => ⟨id, id⟩, fun _ _ _ finishing => (by cases finishing),
      fun _ _ updating => (by cases updating)⟩
  have spawned : SerialStep "j" startReads (spawnedFrom startReads) :=
    ⟨.spawns rfl rfl, undisturbed_setStart rfl rfl (by simp) (by simp)⟩
  have updated : SerialStep "j" _ (updatedFrom (spawnedFrom startReads)) :=
    ⟨.updates "c" rfl, undisturbed_setStart rfl rfl (by simp) (by simp)⟩
  have unclaimed : ∀ pid, (updatedFrom (spawnedFrom startReads)).starts 0 ≠ .updating pid := by
    simp [updatedFrom, JobSystem.setStart]
  have watched : SerialStep "j" _ startedSystem :=
    ⟨.watches rfl, undisturbed_setStart rfl rfl (by simp) fun pid updating =>
      absurd updating (unclaimed pid)⟩
  exact (((Relation.ReflTransGen.single reads).tail spawned).tail updated).tail watched

theorem no_orphaned_process_of_cancel :
    (∃ job, runningCancelled.table.find "j" = some job ∧ job.state = .cancelled) ∧
      ¬Orphaned "j" runningCancelled := by
  have reads : SerialStep "j" startedSystem runningRead :=
    ⟨.cancelFindsRunning rfl rfl rfl, undisturbed_setCancel rfl rfl (by simp)⟩
  have marked : SerialStep "j" runningRead runningMarked :=
    ⟨.marks rfl, undisturbed_setCancel rfl rfl (by simp)⟩
  have signalled : SerialStep "j" runningMarked runningSignalled :=
    ⟨.signals rfl, undisturbed_setCancel rfl rfl fun called => nomatch called⟩
  have cancelled : SerialStep "j" runningSignalled runningCancelled :=
    ⟨.cancels none "d" rfl, undisturbed_setCancel rfl rfl fun called => nomatch called⟩
  have run := (((startedSystem_reached.tail reads).tail marked).tail signalled).tail cancelled
  refine ⟨⟨_, rfl, rfl⟩, no_orphaned_process queuedSystem_created run ⟨?_, ?_⟩⟩
  · exact fun | 0 => .inr rfl | _ + 1 => .inl rfl
  · exact fun | 0 => .inr rfl | _ + 1 => .inl rfl

/-- A cancel that reads the job between the read and the statement of its start: the process runs on
under a cancelled job. -/
theorem cancelled_start_leaves_process :
    Created "j" queuedSystem ∧ Relation.ReflTransGen (ProcessStep "j") queuedSystem monitorLeaves ∧
      Settled monitorLeaves ∧ Orphaned "j" monitorLeaves := by
  have reads : ProcessStep "j" queuedSystem startReads := .startFinds rfl rfl rfl
  have cancelReads : ProcessStep "j" startReads cancelReads := .cancelFindsPending rfl rfl rfl
  have cancelled : ProcessStep "j" _ cancelWrites := .cancels none "b" rfl
  have spawned : ProcessStep "j" cancelWrites (spawnedFrom cancelWrites) := .spawns rfl rfl
  have updated : ProcessStep "j" _ (updatedFrom (spawnedFrom cancelWrites)) := .updates "c" rfl
  have watched : ProcessStep "j" _ lateStart := .watches rfl
  have polled : ProcessStep "j" lateStart monitorPolls := .polls rfl rfl
  have leaves : ProcessStep "j" _ monitorLeaves := .leaves rfl rfl rfl
  refine ⟨queuedSystem_created, ?_, ?_, ?_⟩
  · exact (((((((Relation.ReflTransGen.single reads).tail cancelReads).tail cancelled).tail
      spawned).tail updated).tail watched).tail polled).tail leaves
  · refine ⟨fun call => ?_, fun call => ?_⟩
    · cases call with
      | zero => exact .inr rfl
      | succ => exact .inl rfl
    · cases call with
      | zero => exact .inr rfl
      | succ => exact .inl rfl
  · exact ⟨⟨_, rfl, rfl⟩, 7, spawnedProcess, rfl, rfl, rfl, fun watches => watches⟩

end

end SessionManager.Jobs
