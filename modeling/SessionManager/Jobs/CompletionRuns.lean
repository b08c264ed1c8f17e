import SessionManager.Jobs.Completion

/-! Runs of completions. The state, the exit code and the end of a job that has ended stay as they
are, one message is inserted for a job at most, and a job that is noted as announced has its message.
-/
namespace SessionManager.Jobs
open Foundation List KeyedTable
open Messages (Draw Database)

variable {job : CompletionJob}

section

variable {table : CompletionTable} {chosen : CompletionJob → Bool}
  {change : CompletionJob → CompletionJob} {hke : ∀ job, (change job).id = job.id}

theorem find_updateJobs (id : String) : (updateJobs table chosen change hke).find id =
      (table.find id).map fun job => if chosen job then change job else job :=
  find_update _ id

def EveryJob (table : CompletionTable) (holds : CompletionJob → Prop) : Prop :=
  ∀ id job, table.find id = some job → holds job

variable {holds : CompletionJob → Prop}

theorem everyJob_updateJobs (hke : ∀ job, (change job).id = job.id)
    (kept : ∀ job, chosen job = true → holds job → holds (change job))
    (before : EveryJob table holds) : EveryJob (updateJobs table chosen change hke) holds := by
  intro id _ hf
  rw [find_updateJobs, Option.map_eq_some_iff] at hf
  obtain ⟨job, ht, rfl⟩ := hf
  split
  · next such => exact kept job such (before id job ht)
  · exact before id job ht

theorem everyJob_insert
    (hfr : table.find job.key = none) (new : holds job) (before : EveryJob table holds) :
    EveryJob (table.insert job hfr) holds := by
  intro id _ hf
  rw [find_insert, Option.or_eq_some_iff] at hf
  rcases hf with ht | ⟨-, hh⟩
  · exact before id _ ht
  · split at hh
    · cases hh
      exact new
    · cases hh

structure CompletionJob.SameOrder (job later : CompletionJob) : Prop where
  id : later.id = job.id
  queuedAt : later.queuedAt = job.queuedAt
  notifySessionId : later.notifySessionId = job.notifySessionId
  logPath : later.logPath = job.logPath

theorem CompletionJob.SameOrder.refl (job : CompletionJob) : job.SameOrder job :=
  ⟨rfl, rfl, rfl, rfl⟩

variable {job middle later : CompletionJob}

theorem CompletionJob.SameOrder.trans
    (first : job.SameOrder middle) (second : middle.SameOrder later) : job.SameOrder later :=
  ⟨second.id.trans first.id, second.queuedAt.trans first.queuedAt,
    second.notifySessionId.trans first.notifySessionId, second.logPath.trans first.logPath⟩

theorem CompletionJob.SameOrder.target {job later : CompletionJob} (hs : job.SameOrder later) :
    later.target = job.target := by
  unfold CompletionJob.target
  rw [hs.notifySessionId]

structure CompletionJob.Continues (job later : CompletionJob) : Prop where
  order : job.SameOrder later
  final : job.state.isTerminal = true → later.state = job.state ∧ later.exitCode = job.exitCode ∧
    later.finishedAt = job.finishedAt ∧ later.startedAt = job.startedAt

theorem CompletionJob.Continues.refl (job : CompletionJob) : job.Continues job :=
  ⟨.refl job, fun _ => ⟨rfl, rfl, rfl, rfl⟩⟩

theorem CompletionJob.Continues.trans
    (first : job.Continues middle) (second : middle.Continues later) : job.Continues later := by
  refine ⟨first.order.trans second.order, ?_⟩
  intro hen
  obtain ⟨state, exit, finished, started⟩ := first.final hen
  obtain ⟨state', exit', finished', started'⟩ := second.final (state.symm ▸ hen)
  exact ⟨state'.trans state, exit'.trans exit, finished'.trans finished, started'.trans started⟩

def Evolves (before after : CompletionTable) : Prop :=
  ∀ id job, before.find id = some job → ∃ later, after.find id = some later ∧ job.Continues later

theorem Evolves.refl (table : CompletionTable) : Evolves table table :=
  fun _ job hf => ⟨job, hf, .refl job⟩

theorem Evolves.trans {before middle after : CompletionTable} (first : Evolves before middle)
    (second : Evolves middle after) : Evolves before after := by
  intro id job hf
  obtain ⟨between, ht, continues⟩ := first id job hf
  obtain ⟨_, there', again⟩ := second id between ht
  exact ⟨_, there', continues.trans again⟩

theorem evolves_updateJobs (continues : ∀ job, chosen job = true → job.Continues (change job)) :
    Evolves table (updateJobs table chosen change hke) := by
  intro _ job hf
  rw [find_updateJobs, hf]
  refine ⟨_, rfl, ?_⟩
  dsimp only
  split
  · next such => exact continues job such
  · exact .refl job

theorem evolves_insert (hfr : table.find job.key = none) :
    Evolves table (table.insert job hfr) := by
  intro _ old hf
  refine ⟨old, ?_, .refl old⟩
  rw [find_insert, hf]
  rfl

variable (jobId startedAt : String) (pid : Int)

theorem evolves_startJob : Evolves table (startJob table jobId startedAt pid) := by
  refine evolves_updateJobs ?_
  intro _ such
  simp only [Bool.and_eq_true, decide_eq_true_eq] at such
  refine ⟨⟨rfl, rfl, rfl, rfl⟩, ?_⟩
  intro hen
  rw [such.2] at hen
  cases hen

variable (jobId : String) (state : JobState)

theorem evolves_holdJob (reason : Option HoldingReason) :
    Evolves table (holdJob table jobId state reason) :=
  evolves_updateJobs fun _ _ => ⟨⟨rfl, rfl, rfl, rfl⟩, fun _ => ⟨rfl, rfl, rfl, rfl⟩⟩

variable (exitCode : Option Int) (finishedAt : String)

theorem evolves_finishJob : Evolves table (finishJob table jobId state exitCode finishedAt) := by
  refine evolves_updateJobs ?_
  intro _ such
  simp only [Bool.and_eq_true, Bool.not_eq_true'] at such
  refine ⟨⟨rfl, rfl, rfl, rfl⟩, ?_⟩
  intro hen
  rw [such.2] at hen
  cases hen

variable (jobId notifiedAt : String)

theorem evolves_markNotified : Evolves table (markNotified table jobId notifiedAt) :=
  evolves_updateJobs fun _ _ => ⟨⟨rfl, rfl, rfl, rfl⟩, fun _ => ⟨rfl, rfl, rfl, rfl⟩⟩

end

namespace CompletionSystem

variable {queueKnown : Bool} {jobId : String} {draw : Draw} {state : JobState} {index : Nat}
  {logs : Logs}

section

variable {host : CompletionHost} {before after : CompletionSystem}

/-- What every step keeps: results of ended jobs, and messages. -/
structure Grows (before after : CompletionSystem) : Prop where
  jobs : Evolves before.jobs after.jobs
  messages : ∀ message ∈ before.queue.messages, message ∈ after.queue.messages

theorem Grows.of_jobs (evolves : Evolves before.jobs after.jobs) (hs : after.queue = before.queue) :
    Grows before after :=
  ⟨evolves, fun _ hm => hs ▸ hm⟩

theorem Grows.of_same (jobs : after.jobs = before.jobs) (queue : after.queue = before.queue) :
    Grows before after :=
  .of_jobs (jobs ▸ .refl before.jobs) queue

theorem announce_inserted {queue later : Database} {exitCode : Option Int} {finishedAt : String}
    (hd : announce host logs queue job state exitCode finishedAt draw queueKnown =
      .inserted later) :
    queue.holdsMessage (completionMessageId job.id) = false ∧ ∃ target message,
      job.target = some target ∧ later = { queue with messages := queue.messages ++ [message] } ∧
      message.id = completionMessageId job.id ∧ message.targetSessionId = target ∧
      message.text = queueJobCompletionText host logs job state exitCode finishedAt ∧
      message.deliveryMode = "sequential" ∧ message.messageCategory = some "queue-completion" := by
  unfold announce at hd
  split at hd
  · cases hd
  cases told : job.target with
  | none =>
    rw [told] at hd
    cases hd
  | some target =>
    rw [told] at hd
    dsimp only at hd
    split at hd
    · cases hd
    split at hd <;> cases hd
    next enqueued =>
      obtain ⟨unheld, message, made, rfl⟩ := Database.enqueueMessageOnce_inserted enqueued
      obtain ⟨id, session, text, mode, -, -, category⟩ := Messages.messageRow_ok made
      exact ⟨unheld, _, _, rfl, rfl, id, session, text, mode, category⟩

theorem grows_announced {announcement : Announcement}
    (appended : ∀ queue, announcement = .inserted queue →
      ∀ message ∈ before.queue.messages, message ∈ queue.messages) :
    Grows before (before.announced index jobId announcement).1 := by
  cases announcement with
  | skipped | untold | repeated | refused => exact .of_same rfl rfl
  | inserted queue => exact ⟨.refl _, appended _ rfl⟩

theorem grows_stepCompletion (system : CompletionSystem) (event : CompletionEvent) :
    Grows system (stepCompletion host system event).1 := by
  cases event with
  | create =>
    rw [stepCompletion]
    split
    · next hfr => exact .of_jobs (evolves_insert hfr) rfl
    · exact .of_same rfl rfl
  | hold jobId state => exact .of_jobs (evolves_holdJob _ _ _) rfl
  | start jobId _ pid => exact .of_jobs (evolves_startJob _ _ pid) rfl
  | read =>
    rw [stepCompletion]
    split <;> exact .of_same rfl rfl
  | finish _ state =>
    rw [stepCompletion]
    split
    · split
      · exact .of_jobs (evolves_finishJob _ state.1 _ _) rfl
      · exact .of_same rfl rfl
    · exact .of_same rfl rfl
  | notify =>
    rw [stepCompletion]
    split
    · refine grows_announced ?_
      intro _ hd _ hm
      obtain ⟨-, _, _, -, rfl, -⟩ := announce_inserted hd
      exact mem_append_left _ hm
    · exact .of_same rfl rfl
  | mark =>
    rw [stepCompletion]
    split
    · exact .of_jobs (evolves_markNotified _ _) rfl
    · exact .of_same rfl rfl
  | retry =>
    rw [stepCompletion]
    split
    · exact .of_same rfl rfl
    · split
      · split <;> exact .of_same rfl rfl
      · exact .of_same rfl rfl
  | append | fail | crash => exact .of_same rfl rfl

theorem Grows.holdsMessage (grows : Grows before after) {id : String}
    (held : before.queue.holdsMessage id) : after.queue.holdsMessage id := by
  obtain ⟨_, hm, hna⟩ := any_eq_true.mp held
  exact any_eq_true.mpr ⟨_, grows.messages _ hm, hna⟩

theorem stepCompletion_inserted {system : CompletionSystem} {event : CompletionEvent}
    (hd : (stepCompletion host system event).2 = .inserted jobId) :
    system.queue.holdsMessage (completionMessageId jobId) = false ∧
      (stepCompletion host system event).1.queue.holdsMessage (completionMessageId jobId) =
        true := by
  cases event with
  | notify _ draw queueKnown =>
    rw [stepCompletion] at hd ⊢
    split at hd
    · next job state exitCode finishedAt _ =>
        cases made : announce host system.logs system.queue job state exitCode finishedAt draw
            queueKnown with
        | inserted =>
          rw [made] at hd
          cases hd
          obtain ⟨unheld, _, _, -, rfl, hna, -⟩ := announce_inserted made
          refine ⟨unheld, any_eq_true.mpr ⟨_, ?_, decide_eq_true hna⟩⟩
          exact mem_append_right _ (mem_singleton_self _)
        | skipped | untold | repeated | _ =>
          rw [made] at hd
          cases hd
    · cases hd
  | create order | read jobId | finish index state exitCode finishedAt | mark index _
  | retry =>
    rw [stepCompletion] at hd
    repeat' split at hd
    all_goals cases hd
  | hold | start | append | fail | crash =>
    cases hd

end

section

variable {host : CompletionHost} {before after : CompletionSystem}

/-- The job is there, and it has its message if it names a session. -/
def Announced (system : CompletionSystem) (jobId : String) : Prop :=
  ∃ stored, system.jobs.find jobId = some stored ∧
    (stored.target = none ∨ system.queue.holdsMessage (completionMessageId jobId) = true)

def Knows (system : CompletionSystem) (job : CompletionJob) : Prop :=
  ∃ stored, system.jobs.find job.id = some stored ∧ job.SameOrder stored

def TaskSound (system : CompletionSystem) : CompletionTask → Prop
  | .holding job | .notifying job _ _ _ => system.Knows job
  | .marking jobId => system.Announced jobId

structure Sound (system : CompletionSystem) : Prop where
  tasks : ∀ task ∈ system.tasks, system.TaskSound task
  notified : EveryJob system.jobs fun job =>
    job.completionNotifiedAt.isSome = true → system.Announced job.id

theorem Announced.mono (han : before.Announced jobId)
    (grows : Grows before after) : after.Announced jobId := by
  obtain ⟨hst, hf, told⟩ := han
  obtain ⟨_, ht, continues⟩ := grows.jobs _ hst hf
  refine ⟨_, ht, told.imp ?_ grows.holdsMessage⟩
  intro none_told
  rw [continues.order.target, none_told]

variable {job : CompletionJob} {system : CompletionSystem} {task : CompletionTask}
  {exitCode : Option Int} {finishedAt : String} {queue : Database}

theorem Knows.mono (knows : before.Knows job) (grows : Grows before after) : after.Knows job := by
  obtain ⟨hst, hf, hs⟩ := knows
  obtain ⟨_, ht, continues⟩ := grows.jobs job.id hst hf
  exact ⟨_, ht, hs.trans continues.order⟩

theorem knows_of_find (hf : system.jobs.find jobId = some job) : system.Knows job :=
  ⟨job, find_of_mem (find_some hf).1, .refl job⟩

theorem TaskSound.mono (hso : before.TaskSound task)
    (grows : Grows before after) : after.TaskSound task := by
  cases task with
  | holding | notifying => exact Knows.mono hso grows
  | marking => exact Announced.mono hso grows

theorem Sound.next (hso : before.Sound) (grows : Grows before after)
    (tasks : ∀ task ∈ after.tasks, task ∈ before.tasks ∨ after.TaskSound task)
    (notified : EveryJob after.jobs fun job =>
      job.completionNotifiedAt.isSome → before.Announced job.id) : after.Sound where
  tasks := by
    intro task hm
    rcases tasks task hm with old | new
    · exact (hso.tasks _ old).mono grows
    · exact new
  notified := by
    intro id job hf noted
    exact (notified id job hf noted).mono grows

theorem Sound.of_tasks (hso : before.Sound) (jobs : after.jobs = before.jobs)
    (queue : after.queue = before.queue)
    (tasks : ∀ task ∈ after.tasks, task ∈ before.tasks ∨ before.TaskSound task) :
    after.Sound := by
  have grows : Grows before after := .of_same jobs queue
  refine hso.next grows ?_ (jobs ▸ hso.notified)
  intro task hm
  exact (tasks _ hm).imp_right fun new => new.mono grows

theorem mem_withoutTask (hm : task ∈ (system.withoutTask index).tasks) : task ∈ system.tasks :=
  mem_of_mem_eraseIdx hm

theorem mem_addTask {task new : CompletionTask}
    (hm : task ∈ (system.addTask new).tasks) : task ∈ system.tasks ∨ task = new := by
  simpa [addTask] using hm

theorem mem_tasks (ht : system.tasks[index]? = some task) : task ∈ system.tasks :=
  mem_of_getElem? ht

theorem Sound.withoutTask (hso : before.Sound) (index : Nat) : (before.withoutTask index).Sound :=
  hso.of_tasks rfl rfl fun _ hm => .inl (mem_withoutTask hm)

theorem Sound.addTask (hso : before.Sound) (new : before.TaskSound task) :
    (before.addTask task).Sound := by
  refine hso.of_tasks rfl rfl ?_
  intro _ hm
  rcases mem_addTask hm with old | rfl
  · exact .inl old
  · exact .inr new

theorem announce_untold
    (hd : announce host logs queue job state exitCode finishedAt draw queueKnown = .untold) :
    job.target = none := by
  unfold announce at hd
  split at hd
  · cases hd
  cases told : job.target with
  | none => rfl
  | some =>
    rw [told] at hd
    dsimp only at hd
    split at hd
    · cases hd
    split at hd <;> cases hd

theorem announce_repeated
    (hd : announce host logs queue job state exitCode finishedAt draw queueKnown = .repeated) :
    queue.holdsMessage (completionMessageId job.id) := by
  unfold announce at hd
  split at hd
  · cases hd
  split at hd
  · cases hd
  split at hd
  · cases hd
  split at hd <;> cases hd
  next hk => exact Database.holdsMessage_of_repeated hk

theorem Sound.announced (hso : before.Sound) {state : TerminalState}
    (ht : before.tasks[index]? = some (.notifying job state exitCode finishedAt)) :
    (before.announced index job.id (announce host before.logs before.queue job state exitCode
      finishedAt draw queueKnown)).1.Sound := by
  obtain ⟨hst, hf, hs⟩ : before.Knows job := hso.tasks _ (mem_tasks ht)
  have without := hso.withoutTask index
  cases made : announce host before.logs before.queue job state exitCode finishedAt draw
      queueKnown with
  | skipped => exact without
  | untold =>
    refine without.addTask ⟨hst, hf, .inl ?_⟩
    rw [hs.target, announce_untold made]
  | inserted =>
    obtain ⟨-, _, message, -, rfl, hna, -⟩ := announce_inserted made
    have grows : Grows before (before.announced index job.id (.inserted
        { before.queue with messages := before.queue.messages ++ [message] })).1 := by
      refine ⟨.refl _, ?_⟩
      intro old hm
      exact mem_append_left _ hm
    refine hso.next grows ?_ hso.notified
    intro _ hm
    rcases mem_addTask hm with old | rfl
    · exact .inl (mem_withoutTask old)
    · refine .inr ⟨hst, hf, .inr (any_eq_true.mpr ⟨message, ?_, ?_⟩)⟩
      · exact mem_append_right _ (mem_singleton_self _)
      · exact decide_eq_true hna
  | repeated => exact without.addTask ⟨hst, hf, .inr (announce_repeated made)⟩
  | refused => exact without

theorem Sound.step (hso : before.Sound) (event : CompletionEvent) :
    (stepCompletion host before event).1.Sound := by
  cases event with
  | create =>
    rw [stepCompletion]
    split
    · next hfr =>
        exact hso.next (.of_jobs (evolves_insert hfr) rfl) (fun _ hm => .inl hm)
          (everyJob_insert hfr (fun noted => nomatch noted) hso.notified)
    · exact hso
  | hold jobId state =>
    exact hso.next (.of_jobs (evolves_holdJob _ _ _) rfl)
      (fun _ hm => .inl hm) (everyJob_updateJobs (by intro _; rfl) (fun _ _ old => old) hso.notified)
  | start jobId _ pid =>
    exact hso.next (.of_jobs (evolves_startJob _ _ pid) rfl)
      (fun _ hm => .inl hm) (everyJob_updateJobs (by intro _; rfl) (fun _ _ old => old) hso.notified)
  | read =>
    rw [stepCompletion]
    split
    · exact hso
    · next hf => exact hso.addTask (knows_of_find hf)
  | finish index state exitCode finishedAt =>
    rw [stepCompletion]
    split
    · next job ht =>
        split
        · have evolves : Evolves before.jobs
              (finishJob before.jobs job.id state exitCode finishedAt) :=
            evolves_finishJob job.id _ _ _
          refine hso.next (.of_jobs evolves rfl) ?_
            (everyJob_updateJobs (by intro _; rfl) (fun _ _ old => old) hso.notified)
          intro _ hm
          rcases mem_addTask hm with old | rfl
          · exact .inl (mem_withoutTask old)
          · have knows : before.Knows job := hso.tasks _ (mem_tasks ht)
            exact .inr (knows.mono (.of_jobs evolves rfl))
        · exact hso.withoutTask _
    · exact hso
  | notify =>
    rw [stepCompletion]
    split
    · next ht => exact hso.announced ht
    · exact hso
  | mark =>
    rw [stepCompletion]
    split
    · next jobId ht =>
        refine hso.next (.of_jobs (evolves_markNotified _ _) rfl)
          (fun _ hm => .inl (mem_withoutTask hm)) ?_
        refine everyJob_updateJobs (by intro _; rfl) ?_ hso.notified
        intro job such _ _
        have han : before.Announced jobId := hso.tasks _ (mem_tasks ht)
        exact of_decide_eq_true such ▸ han
    · exact hso
  | retry =>
    rw [stepCompletion]
    split
    · exact hso
    rename_i hf
    split
    · split
      · exact hso.addTask (knows_of_find hf)
      · exact hso
    · exact hso
  | append => exact hso.of_tasks rfl rfl fun _ hm => .inl hm
  | fail index => exact hso.withoutTask _
  | crash => exact hso.of_tasks rfl rfl fun _ hm => nomatch hm

end

section

variable {host : CompletionHost} {start : CompletionSystem}

theorem Sound.reached (sound : start.Sound) (events : List CompletionEvent) :
    (reached (stepCompletion host) start events).Sound :=
  @reached_of_invariant _ _ _ (stepCompletion host) Sound (fun _ event holds => holds.step event)
    start sound events

variable (events : List CompletionEvent)

theorem evolves_reached : Evolves start.jobs (reached (stepCompletion host) start events).jobs := by
  have hke : ∀ system event, Evolves start.jobs system.jobs →
      Evolves start.jobs (stepCompletion host system event).1.jobs :=
    fun _ _ holds => holds.trans (grows_stepCompletion _ _).jobs
  exact @reached_of_invariant _ _ _ (stepCompletion _)
    (fun system => Evolves start.jobs system.jobs) hke _ (.refl _) _

/-- The first insertion leaves a message that excludes every later one. -/
theorem countP_inserted_le_one (jobId : String) :
    (answers (stepCompletion host) start events).countP
      (fun outcome => decide (outcome = .inserted jobId)) ≤ 1 := by
  refine countP_le_one ?_
  refine @pairwise_answers _ _ _ (stepCompletion _) (fun _ => True)
    (fun outcome system => outcome = .inserted jobId →
      system.queue.holdsMessage (completionMessageId jobId))
    _ (fun _ _ _ => trivial) ?_ ?_ ?_ _ trivial _
  · intro system event _ hd
    exact (stepCompletion_inserted hd).2
  · intro outcome system event _ held such
    exact (grows_stepCompletion _ _).holdsMessage (held such)
  · intro outcome system event _ held such
    refine decide_eq_false ?_
    intro again
    have unheld := (stepCompletion_inserted again).1
    rw [held (of_decide_eq_true such)] at unheld
    cases unheld

end

end CompletionSystem

end SessionManager.Jobs
