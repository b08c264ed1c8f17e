import SessionManager.Jobs.CompletionRuns
import SessionManager.Usage.Calendar

/-! Retries of announcements. A retry compares the text that it makes with the text that is stored, and
the text holds the end of the job's log. Where the logs of ended jobs stay, and jobs are finished by
calls that know when they were started, every retry succeeds; where a job's log grows after its
announcement and before the note of it, every retry fails. -/
namespace SessionManager.Jobs
open Foundation List Option KeyedTable
open Messages (Draw Database)

namespace CompletionSystem

section

variable {host : CompletionHost} {before after : CompletionSystem} {job stored : CompletionJob}

theorem queueJobCompletionText_congr {logs later : Logs}
    (hs : job.SameOrder stored) (started : stored.startedAt = job.startedAt)
    (tail : tailQueueJobLog later job.logPath 8192 =
      tailQueueJobLog logs job.logPath 8192)
    (state : JobState) (exitCode : Option Int) (finishedAt : String) :
    queueJobCompletionText host later stored state exitCode finishedAt =
      queueJobCompletionText host logs job state exitCode finishedAt := by
  unfold queueJobCompletionText
  rw [hs.id, hs.queuedAt, hs.logPath, started, tail]

/-- The message is the one that a retry for the stored job would send. -/
structure Tells (host : CompletionHost) (logs : Logs) (stored : CompletionJob)
    (message : Messages.Message) : Prop where
  ended : stored.state.isTerminal = true
  target : stored.target = some message.targetSessionId
  text : message.text = queueJobCompletionText host logs stored stored.state stored.exitCode
    (stored.finishedAt.getD stored.queuedAt)
  mode : message.deliveryMode = "sequential"
  category : message.messageCategory = some "queue-completion"

structure Settled (stored job : CompletionJob) (state : TerminalState) (exitCode : Option Int)
    (finishedAt : String) : Prop where
  order : job.SameOrder stored
  started : stored.startedAt = job.startedAt
  state : stored.state = state
  exitCode : stored.exitCode = exitCode
  finished : stored.finishedAt = some finishedAt

structure Coherent (host : CompletionHost) (system : CompletionSystem) : Prop where
  tasks : ∀ job state exitCode finishedAt,
    CompletionTask.notifying job state exitCode finishedAt ∈ system.tasks →
      ∃ stored, system.jobs.find job.id = some stored ∧
        Settled stored job state exitCode finishedAt
  messages : ∀ message ∈ system.queue.messages, ∀ jobId,
    message.id = completionMessageId jobId →
      ∃ stored, system.jobs.find jobId = some stored ∧ Tells host system.logs stored message
  finished : EveryJob system.jobs fun job =>
    job.state.isTerminal = true → job.finishedAt.isSome = true

/-- The ends of the logs of ended jobs stay. -/
def LogsKept (before after : CompletionSystem) : Prop :=
  EveryJob before.jobs fun job => job.state.isTerminal = true →
    tailQueueJobLog after.logs job.logPath 8192 =
      tailQueueJobLog before.logs job.logPath 8192

theorem LogsKept.of_same (hs : after.logs = before.logs) : LogsKept before after := by
  intro _ _ _ _
  rw [hs]

theorem Tells.later {logs logs' : Logs} {stored later : CompletionJob} {message : Messages.Message}
    (tells : Tells host logs stored message) (continues : stored.Continues later)
    (tail : tailQueueJobLog logs' stored.logPath 8192 =
      tailQueueJobLog logs stored.logPath 8192) :
    Tells host logs' later message := by
  obtain ⟨state, exit, finished, started⟩ := continues.final tells.ended
  refine ⟨state ▸ tells.ended, ?_, ?_, tells.mode, tells.category⟩
  · rw [continues.order.target, tells.target]
  · rw [tells.text, state, exit, finished, continues.order.queuedAt,
      queueJobCompletionText_congr continues.order started tail]

variable {exitCode : Option Int} {finishedAt : String} {job : CompletionJob} {jobId : String}
  {table : CompletionTable} {state : TerminalState}

theorem Settled.later {stored later job : CompletionJob}
    (hse : Settled stored job state exitCode finishedAt) (continues : stored.Continues later) :
    Settled later job state exitCode finishedAt := by
  have hen : stored.state.isTerminal := hse.state ▸ state.2
  obtain ⟨hs, exit, finished, started⟩ := continues.final hen
  exact ⟨hse.order.trans continues.order, started.trans hse.started,
    hs.trans hse.state, exit.trans hse.exitCode, finished.trans hse.finished⟩

section

variable (coherent : Coherent host before)
include coherent

theorem Coherent.next (grows : Grows before after) (logs : LogsKept before after)
    (tasks : ∀ job state exitCode finishedAt,
      CompletionTask.notifying job state exitCode finishedAt ∈ after.tasks →
        CompletionTask.notifying job state exitCode finishedAt ∈ before.tasks ∨
          ∃ stored, after.jobs.find job.id = some stored ∧
            Settled stored job state exitCode finishedAt)
    (messages : ∀ message ∈ after.queue.messages, message ∈ before.queue.messages ∨
      ∀ jobId, message.id = completionMessageId jobId →
        ∃ stored, after.jobs.find jobId = some stored ∧ Tells host after.logs stored message)
    (finished : EveryJob after.jobs fun job =>
      job.state.isTerminal → job.finishedAt.isSome) : Coherent host after where
  tasks := by
    intro job state exitCode finishedAt hm
    rcases tasks job state exitCode finishedAt hm with old | new
    · obtain ⟨stored, hf, hse⟩ := coherent.tasks job _ _ _ old
      obtain ⟨later, ht, continues⟩ := grows.jobs job.id _ hf
      exact ⟨_, ht, hse.later continues⟩
    · exact new
  messages := by
    intro message hm jobId hna
    rcases messages message hm with old | new
    · obtain ⟨stored, hf, tells⟩ := coherent.messages _ old _ hna
      obtain ⟨later, ht, continues⟩ := grows.jobs _ _ hf
      exact ⟨_, ht, tells.later continues (logs _ _ hf tells.ended)⟩
    · exact new _ hna
  finished := finished

theorem Coherent.of_jobs {jobs : CompletionTable} (evolves : Evolves before.jobs jobs)
    (finished : EveryJob jobs fun job =>
      job.state.isTerminal → job.finishedAt.isSome) :
    Coherent host { before with jobs } :=
  coherent.next (.of_jobs evolves rfl) (.of_same rfl) (fun _ _ _ _ hm => .inl hm)
    (fun _ hm => .inl hm) finished

theorem Coherent.of_tasks {tasks : List CompletionTask} (hse : ∀ job state exitCode finishedAt,
      CompletionTask.notifying job state exitCode finishedAt ∈ tasks →
        CompletionTask.notifying job state exitCode finishedAt ∈ before.tasks ∨
          ∃ stored, before.jobs.find job.id = some stored ∧
            Settled stored job state exitCode finishedAt) :
    Coherent host { before with tasks } :=
  coherent.next (.of_same rfl rfl) (.of_same rfl) hse (fun _ hm => .inl hm) coherent.finished

theorem Coherent.withoutTask (index : Nat) : Coherent host (before.withoutTask index) :=
  coherent.of_tasks fun _ _ _ _ hm => .inl (mem_of_mem_eraseIdx hm)

theorem Coherent.addTask {task : CompletionTask} (other : ∀ job state exitCode finishedAt,
      task ≠ .notifying job state exitCode finishedAt) : Coherent host (before.addTask task) := by
  refine coherent.of_tasks ?_
  intro job state exitCode finishedAt hm
  rcases mem_snoc.mp hm with old | new
  · exact .inl old
  · exact absurd new.symm (other job _ _ _)

end

theorem completionMessageId_inj {one two : String}
    (hs : completionMessageId one = completionMessageId two) : one = two := by
  unfold completionMessageId at hs
  have lists := congrArg String.toList hs
  rw [String.toList_append, String.toList_append, append_cancel_left_eq] at lists
  exact String.toList_injective lists

theorem Coherent.announced (coherent : Coherent host before) {index : Nat}
    {draw : Draw} {queueKnown : Bool}
    (ht : before.tasks[index]? = some (.notifying job state exitCode finishedAt)) :
    Coherent host (before.announced index job.id (announce host before.logs before.queue job state
      exitCode finishedAt draw queueKnown)).1 := by
  have without := coherent.withoutTask index
  have marking : ∀ {system : CompletionSystem}, Coherent host system →
      Coherent host (system.addTask (.marking job.id)) :=
    fun kept => kept.addTask fun _ _ _ _ h => nomatch h
  cases made : announce host before.logs before.queue job state exitCode finishedAt draw
      queueKnown with
  | skipped => exact without
  | untold => exact marking without
  | inserted =>
    obtain ⟨-, _, _, told, rfl, hna, session, text, mode, category⟩ :=
      announce_inserted made
    refine marking (without.next ⟨.refl _, ?_⟩ (.of_same rfl) (fun _ _ _ _ hm => .inl hm)
      ?_ coherent.finished)
    · intro old hm
      exact mem_append_left _ hm
    · intro _ hm
      rcases mem_snoc.mp hm with old | new
      · exact .inl old
      · refine .inr ?_
        intro _ hs
        rw [new, hna] at hs
        rw [new, ← completionMessageId_inj hs]
        obtain ⟨_, hf, hse⟩ :=
          coherent.tasks job _ _ _ (mem_tasks ht)
        refine ⟨_, hf, hse.state ▸ state.2, ?_, ?_, mode, category⟩
        · rw [hse.order.target, told, session]
        · rw [text, hse.state, hse.exitCode, hse.finished]
          exact (queueJobCompletionText_congr hse.order hse.started rfl _ _ _).symm
  | repeated => exact marking without
  | refused => exact without

/-- The steps after which every retry still succeeds: a job is finished by a call that knows when it
was started, and what is appended to the log of an ended job does not show in the end of the log. -/
def Calm (host : CompletionHost) (system : CompletionSystem) : CompletionEvent → Prop
  | .finish index _ _ _ => ∀ job, system.tasks[index]? = some (.holding job) →
      ∀ stored, system.jobs.find job.id = some stored → stored.state.isTerminal = false →
        stored.startedAt = job.startedAt
  | .append path bytes => LogsKept system
      (stepCompletion host system (.append path bytes)).1
  | _ => True

theorem settled_of_find (hf : before.jobs.find jobId = some job)
    (hen : job.state.isTerminal) (coherent : Coherent host before) :
    before.jobs.find job.id = some job ∧
      Settled job job ⟨job.state, hen⟩ job.exitCode (job.finishedAt.getD job.queuedAt) := by
  refine ⟨find_of_mem (find_some hf).1, .refl job, rfl, rfl, rfl, ?_⟩
  obtain ⟨_, noted⟩ :=
    isSome_iff_exists.mp (coherent.finished _ job hf hen)
  rw [noted]
  rfl

theorem find_finishJob {state : JobState} (hf : table.find job.id = some stored)
    (hna : stored.id = job.id) (active : stored.state.isTerminal = false) :
    (finishJob table job.id state exitCode finishedAt).find job.id = some { stored with
        state, holdingReason := none, finishedAt := some finishedAt, exitCode
        completionNotificationRequired := true } := by
  unfold finishJob
  rw [find_updateJobs, hf]
  simp only [map_some, hna, active, Bool.not_false, decide_true, Bool.and_self, if_true]

theorem Coherent.step (coherent : Coherent host before) (hso : before.Sound)
    (event : CompletionEvent) (calm : Calm host before event) :
    Coherent host (stepCompletion host before event).1 := by
  cases event with
  | create =>
    rw [stepCompletion]
    split
    · next hfr =>
        exact coherent.of_jobs (evolves_insert hfr)
          (everyJob_insert hfr (fun hen => by cases hen) coherent.finished)
    · exact coherent
  | hold jobId state =>
    exact coherent.of_jobs (evolves_holdJob _ _ _)
      (everyJob_updateJobs (by intro _; rfl) (fun _ _ old => old) coherent.finished)
  | start jobId _ pid =>
    exact coherent.of_jobs (evolves_startJob _ _ pid)
      (everyJob_updateJobs (by intro _; rfl) (fun _ _ _ hen => by cases hen) coherent.finished)
  | read =>
    rw [stepCompletion]
    split
    · exact coherent
    · exact coherent.addTask fun _ _ _ _ h => by cases h
  | finish index state exitCode finishedAt =>
    rw [stepCompletion]
    split
    · next job ht =>
        split
        · next active =>
            obtain ⟨stored, hf, hs⟩ : before.Knows job := hso.tasks _ (mem_tasks ht)
            rw [hf, any_some, Bool.not_eq_true'] at active
            have evolves : Evolves before.jobs
                (finishJob before.jobs job.id state exitCode finishedAt) :=
              evolves_finishJob job.id _ _ _
            refine coherent.next (.of_jobs evolves rfl) (.of_same rfl) ?_ (fun _ hm => .inl hm)
              (everyJob_updateJobs (by intro _; rfl) (fun _ _ _ _ => rfl) coherent.finished)
            intro other otherState otherExit otherEnd hm
            rcases mem_addTask hm with old | new
            · exact .inl (mem_withoutTask old)
            · cases new
              refine .inr ⟨_, find_finishJob hf hs.id active, ?_⟩
              exact ⟨⟨hs.id, hs.queuedAt, hs.notifySessionId, hs.logPath⟩,
                calm job ht stored hf active, rfl, rfl, rfl⟩
        · exact coherent.withoutTask _
    · exact coherent
  | notify =>
    rw [stepCompletion]
    split
    · next ht => exact coherent.announced ht
    · exact coherent
  | mark index =>
    rw [stepCompletion]
    split
    · next jobId ht =>
        exact (coherent.withoutTask _).of_jobs (evolves_markNotified _ _)
          (everyJob_updateJobs (by intro _; rfl) (fun _ _ old => old) coherent.finished)
    · exact coherent
  | retry =>
    rw [stepCompletion]
    split
    · exact coherent
    rename_i hf
    split
    · next hen =>
        split
        · refine coherent.of_tasks ?_
          intro other otherState otherExit otherEnd hm
          rcases mem_addTask hm with old | new
          · exact .inl old
          · cases new
            exact .inr ⟨_, settled_of_find hf hen coherent⟩
        · exact coherent
    · exact coherent
  | append =>
    exact coherent.next (.of_same rfl rfl) calm (fun _ _ _ _ hm => .inl hm)
      (fun _ hm => .inl hm) coherent.finished
  | fail index => exact coherent.withoutTask _
  | crash => exact coherent.of_tasks fun _ _ _ _ hm => by cases hm

theorem announce_of_coherent (coherent : Coherent host before)
    (hf : before.jobs.find jobId = some job)
    (unannounced : isUnannounced job) (draw : Draw) :
    announce host before.logs before.queue job job.state job.exitCode
        (job.finishedAt.getD job.queuedAt) draw true = .untold ∨
      announce host before.logs before.queue job job.state job.exitCode
        (job.finishedAt.getD job.queuedAt) draw true = .repeated ∨
      ∃ queue, announce host before.logs before.queue job job.state job.exitCode
        (job.finishedAt.getD job.queuedAt) draw true = .inserted queue := by
  simp only [isUnannounced, Bool.and_eq_true, isNone_iff_eq_none] at unannounced
  obtain ⟨⟨_, -⟩, unnoted⟩ := unannounced
  unfold announce
  rw [unnoted]
  cases told : job.target with
  | none => exact .inl rfl
  | some target =>
    refine .inr ?_
    obtain ⟨made, possible⟩ : ∃ made, Messages.messageRow draw (completionMessageId job.id) target
        (queueJobCompletionText host before.logs job job.state job.exitCode
          (job.finishedAt.getD job.queuedAt)) "sequential" completionMetadata = .ok made :=
      ⟨_, rfl⟩
    cases held : before.queue.holdsMessage (completionMessageId job.id) with
    | false =>
      refine .inr ⟨before.queue.insertMessage made, ?_⟩
      simp only [Database.enqueueMessageOnce, possible, held]
      rfl
    | true =>
      obtain ⟨row, hm, hna⟩ := any_eq_true.mp held
      obtain ⟨stored, ht, tells⟩ :=
        coherent.messages row hm job.id (of_decide_eq_true hna)
      have hs : job = stored := by
        have own : before.jobs.find job.id = some job :=
          find_of_mem (find_some hf).1
        exact Option.some.inj (own.symm.trans ht)
      subst hs
      have session : row.targetSessionId = target :=
        Option.some.inj (tells.target.symm.trans told)
      refine .inl ?_
      dsimp only
      rw [Database.enqueueMessageOnce_repeated hm (of_decide_eq_true hna) session
        tells.text tells.mode tells.category possible]
      rfl

/-- What a retry for one job does: it reads the row, announces and notes. -/
def retried (host : CompletionHost) (system : CompletionSystem) (jobId : String) (draw : Draw)
    (notifiedAt : String) : CompletionSystem :=
  reached (stepCompletion host) system [.retry jobId, .notify system.tasks.length draw true,
    .mark system.tasks.length notifiedAt]

variable (system : CompletionSystem) (task : CompletionTask)

theorem addTask_get : (system.addTask task).tasks[system.tasks.length]? = some task := by
  simp [addTask]

theorem addTask_withoutTask : (system.addTask task).withoutTask system.tasks.length = system := by
  simp [addTask, CompletionSystem.withoutTask, eraseIdx_append_of_length_le]

theorem find_markNotified {jobId notifiedAt : String}
    (hf : table.find jobId = some job) (unnoted : job.completionNotifiedAt = none) :
    (markNotified table jobId notifiedAt).find jobId =
      some { job with completionNotifiedAt := some notifiedAt } := by
  have hna : job.id = jobId := (find_some hf).2
  unfold markNotified
  rw [find_updateJobs, hf]
  simp only [map_some, hna, decide_true, if_true, unnoted, none_or]

theorem retried_notes (coherent : Coherent host before)
    (found : before.jobs.find jobId = some job) (unannounced : isUnannounced job)
    (draw : Draw) (notifiedAt : String) :
    (retried host before jobId draw notifiedAt).jobs.find jobId =
      some { job with completionNotifiedAt := some notifiedAt } := by
  have parts := unannounced
  simp only [isUnannounced, Bool.and_eq_true, isNone_iff_eq_none] at parts
  obtain ⟨⟨hen, -⟩, unnoted⟩ := parts
  have named : job.id = jobId := (find_some found).2
  have taken : (stepCompletion host before (.retry jobId)).1 = before.addTask
      (.notifying job ⟨job.state, hen⟩ job.exitCode (job.finishedAt.getD job.queuedAt)) := by
    rw [stepCompletion, found]
    simp only [hen, unannounced, if_true, dif_pos]
  have noted : ∀ system : CompletionSystem, system.jobs = before.jobs →
      system.tasks.length = before.tasks.length →
        ((stepCompletion host (system.addTask (.marking job.id))
          (.mark before.tasks.length notifiedAt)).1).jobs.find jobId =
            some { job with completionNotifiedAt := some notifiedAt } := by
    intro system same long
    rw [stepCompletion, ← long, addTask_get]
    change (markNotified system.jobs job.id notifiedAt).find jobId = _
    rw [same, named]
    exact find_markNotified found unnoted
  have announcing := announce_of_coherent coherent found unannounced draw
  unfold retried reached
  simp only [foldl_cons, foldl_nil, taken]
  have told : (stepCompletion host (before.addTask (.notifying job ⟨job.state, hen⟩ job.exitCode
      (job.finishedAt.getD job.queuedAt))) (.notify before.tasks.length draw true)).1 =
      ((before.addTask (.notifying job ⟨job.state, hen⟩ job.exitCode
        (job.finishedAt.getD job.queuedAt))).announced before.tasks.length job.id
          (announce host before.logs before.queue job job.state job.exitCode
            (job.finishedAt.getD job.queuedAt) draw true)).1 := by
    rw [stepCompletion, addTask_get]
    rfl
  rw [told]
  rcases announcing with silent | again | ⟨queue, new⟩
  · rw [silent]
    change ((stepCompletion host (CompletionSystem.addTask _ _) _).1).jobs.find jobId = _
    rw [addTask_withoutTask]
    exact noted _ rfl rfl
  · rw [again]
    change ((stepCompletion host (CompletionSystem.addTask _ _) _).1).jobs.find jobId = _
    rw [addTask_withoutTask]
    exact noted _ rfl rfl
  · rw [new]
    change ((stepCompletion host (CompletionSystem.addTask
      { CompletionSystem.withoutTask _ _ with queue } _) _).1).jobs.find jobId = _
    rw [addTask_withoutTask]
    exact noted { before with queue } rfl rfl

end

structure Fresh (system : CompletionSystem) : Prop where
  jobs : system.jobs.rows = []
  tasks : system.tasks = []
  messages : ∀ message ∈ system.queue.messages, ∀ jobId, message.id ≠ completionMessageId jobId

variable {system : CompletionSystem}

theorem Fresh.everyJob (hfr : system.Fresh)
    (holds : CompletionJob → Prop) : EveryJob system.jobs holds := by
  intro _ _ hf
  have hm := (find_some hf).1
  rw [hfr.jobs] at hm
  cases hm

theorem Fresh.sound (hfr : system.Fresh) : system.Sound where
  tasks := by
    rw [hfr.tasks]
    intro _ hm
    cases hm
  notified := hfr.everyJob _

theorem Fresh.coherent (hfr : system.Fresh) (host : CompletionHost) : Coherent host system where
  tasks := by
    rw [hfr.tasks]
    intro _ _ _ _ hm
    cases hm
  messages := fun message hm jobId hna => absurd hna (hfr.messages message hm jobId)
  finished := hfr.everyJob _

theorem Coherent.reached {host : CompletionHost} {start : CompletionSystem}
    {events : List CompletionEvent} (coherent : Coherent host start) (sound : start.Sound)
    (calm : Throughout (Calm host) (stepCompletion host) start events) :
    Coherent host (reached (stepCompletion host) start events) := by
  have hke : ∀ system event, Coherent host system ∧ system.Sound → Calm host system event →
      Coherent host (stepCompletion host system event).1 ∧
        (stepCompletion host system event).1.Sound :=
    fun _ _ both calm => ⟨both.1.step both.2 _ calm, both.2.step _⟩
  exact (@reached_of_allowed _ _ _ (stepCompletion _)
    (fun system => Coherent _ _ ∧ system.Sound) (Calm _) hke _
    ⟨coherent, sound⟩ _ calm).1

/-- Ended jobs keep their results, a job has one announcement at most, and what is noted as announced
is announced. In calm runs a retry of whatever is still to be announced succeeds. -/
theorem completion_final_and_announced (host : CompletionHost) {start : CompletionSystem}
    (fresh : start.Fresh) (earlier later : List CompletionEvent) :
    (∀ jobId job, (reached (stepCompletion host) start earlier).jobs.find jobId = some job →
        job.state.isTerminal = true →
      ∃ after, (reached (stepCompletion host) start (earlier ++ later)).jobs.find jobId =
          some after ∧
        after.state = job.state ∧ after.exitCode = job.exitCode ∧
          after.finishedAt = job.finishedAt) ∧
      (∀ jobId, (answers (stepCompletion host) start earlier).countP
        (fun outcome => decide (outcome = .inserted jobId)) ≤ 1) ∧
      (∀ jobId job, (reached (stepCompletion host) start earlier).jobs.find jobId = some job →
        job.completionNotifiedAt.isSome = true → job.target ≠ none →
          (reached (stepCompletion host) start earlier).queue.holdsMessage
            (completionMessageId jobId) = true) ∧
      (Throughout (Calm host) (stepCompletion host) start earlier →
        ∀ jobId job, (reached (stepCompletion host) start earlier).jobs.find jobId = some job →
          isUnannounced job = true → ∀ draw notifiedAt,
            (retried host (reached (stepCompletion host) start earlier) jobId draw
              notifiedAt).jobs.find jobId =
                some { job with completionNotifiedAt := some notifiedAt }) := by
  refine ⟨?_, countP_inserted_le_one earlier, ?_, ?_⟩
  · intro jobId job found ended
    rw [reached, List.foldl_append]
    obtain ⟨after, there, continues⟩ := evolves_reached later jobId job found
    obtain ⟨state, exit, finished, -⟩ := continues.final ended
    exact ⟨after, there, state, exit, finished⟩
  · intro jobId job found noted names
    have sound : (reached (stepCompletion host) start earlier).Sound := fresh.sound.reached earlier
    obtain ⟨stored, there, told⟩ := sound.notified jobId job found noted
    have named : job.id = jobId := (find_some found).2
    rw [named] at there told
    cases found.symm.trans there
    exact told.resolve_left names
  · intro calm jobId job found unannounced draw notifiedAt
    exact retried_notes ((fresh.coherent host).reached fresh.sound calm) found unannounced draw
      notifiedAt

def plainHost : CompletionHost where
  parseQueueDatetime := Usage.januaryHost.parseRfc3339

def morning (minute : String) : String := "2026-01-01T08:" ++ minute ++ ":00Z"

def vacant : CompletionSystem where
  jobs := ⟨[], List.nodup_nil⟩
  queue := ⟨[], [], [], [], []⟩
  logs := fun _ => none
  tasks := []

theorem vacant_fresh : vacant.Fresh := ⟨rfl, rfl, fun _ hm => nomatch hm⟩

/-- A job runs, succeeds and is announced; the process stops before it notes the announcement. -/
def interrupted : List CompletionEvent :=
  [.create ⟨"nightly", .tests, morning "00", "worker", "nightly.log"⟩, .start "nightly" (morning "01") 77,
    .read "nightly", .finish 0 ⟨.succeeded, rfl⟩ (some 0) (morning "02"),
    .notify 0 ⟨"m1", morning "02", 0⟩ true, .crash]

/-- Nothing is appended to the log, so the retry of the interrupted run succeeds. -/
theorem completion_final_and_announced_of_interrupted :
    Throughout (Calm plainHost) (stepCompletion plainHost) vacant interrupted ∧
      ((retried plainHost (reached (stepCompletion plainHost) vacant interrupted) "nightly"
        ⟨"m2", morning "05", 0⟩ (morning "05")).jobs.find "nightly").bind (·.completionNotifiedAt) =
          some (morning "05") := by
  have calm : Throughout (Calm plainHost) (stepCompletion plainHost) vacant interrupted := by
    refine ⟨trivial, trivial, trivial, ?_, trivial, trivial, trivial⟩
    intro job there stored found active
    cases there
    cases found
    rfl
  refine ⟨calm, ?_⟩
  have succeeds := (completion_final_and_announced plainHost vacant_fresh interrupted []).2.2.2 calm
    "nightly" _ rfl (by decide +kernel) ⟨"m2", morning "05", 0⟩ (morning "05")
  rw [succeeds]
  rfl

/-- The job's last output reaches the log after the announcement. The text of a retry then differs
from the text that is stored, and the announcement is never noted. -/
theorem retry_refused_after_output :
    (reached (stepCompletion plainHost) vacant (interrupted ++ [.append "nightly.log" [111, 107]])
        ).queue.holdsMessage (completionMessageId "nightly") = true ∧
      ((reached (stepCompletion plainHost) vacant (interrupted ++
        [.append "nightly.log" [111, 107]])).jobs.find "nightly").any isUnannounced = true ∧
      ((retried plainHost (reached (stepCompletion plainHost) vacant (interrupted ++
        [.append "nightly.log" [111, 107]])) "nightly" ⟨"m2", morning "05", 0⟩ (morning "05")).jobs.find
          "nightly").any isUnannounced = true ∧
      .refused "nightly" ∈ answers (stepCompletion plainHost) vacant (interrupted ++
        [.append "nightly.log" [111, 107], .retry "nightly",
          .notify 0 ⟨"m2", morning "05", 0⟩ true]) := by
  decide +kernel

end CompletionSystem

end SessionManager.Jobs
