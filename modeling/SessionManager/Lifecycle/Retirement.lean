import SessionManager.Foundation.Sha256
import SessionManager.Lifecycle.Runs

/-! A retired session stays down: no later step but a restore of the session runs it or starts a
runtime for it, provided that nothing was starting it when it was retired. A retire call that finds
the session stopped answers that it is retired without looking for a launch, and a session that is
being created is stored as stopped. One that tmux gives no answer takes the runtime to be gone. -/
namespace SessionManager.Lifecycle
open Foundation Operation Sessions List

namespace System

/-- Nothing of the session runs, and nothing is about to run it. -/
structure Settled (system : System) (sessionId : String) : Prop where
  known : ∃ session ∈ system.world.store.sessions, session.id = sessionId
  stopped : ∀ session ∈ system.world.store.sessions, session.id = sessionId →
    session.status = .stopped
  idle : ∀ launch ∈ system.world.store.launches, launch.sessionId = sessionId →
    launch.isUnderWay = false
  alone : ∀ task ∈ system.tasks, ∀ creation ∈ task.creation, creation.record.id ≠ sessionId
  down : ∀ runtime ∈ system.world.up, runtime.sessionId ≠ sessionId

variable {host : Host} {system : System} {sessionId : String}

theorem Settled.not_may (hse : system.Settled sessionId) {event : Event}
    (other : ¬ Event.restores sessionId event) : ¬ system.May event sessionId := by
  rintro (⟨_, hm, hru, hs⟩ | ⟨session, hm, hru, hs⟩ |
    ⟨_, hm, _, creates, hs⟩ | hfr | restores)
  · rw [hse.idle _ hm hs] at hru
    cases hru
  · exact (isStopped_eq_false.mp hru).1 (hse.stopped _ hm hs)
  · exact hse.alone _ hm _ creates hs
  · obtain ⟨session, hm, hs⟩ := hse.known
    exact hfr _ hm hs
  · exact other restores

theorem Settled.stepped {may : String → Prop} {after : System}
    (hse : system.Settled sessionId) (unlicensed : ¬ may sessionId)
    (hsp : Stepped may system after) : after.Settled sessionId where
  known := by
    obtain ⟨session, hm, hs⟩ := hse.known
    rcases hsp.within.store.present session hm with hlc | ⟨new, ht, hna⟩
    · exact absurd (hs ▸ hlc) unlicensed
    · exact ⟨new, ht, hna.trans hs⟩
  stopped := by
    intro session hm hs
    rcases hsp.within.store.stopped session hm with hlc | ⟨old, ht, hna, how⟩
    · exact absurd (hs ▸ hlc) unlicensed
    · rcases how with ends | kept
      · exact ends
      · rw [kept]
        exact hse.stopped old ht (hna.trans hs)
  idle := by
    intro launch hm hs
    by_contra hru
    rw [Bool.not_eq_false] at hru
    rcases hsp.within.store.launching launch hm hru with
      hlc | ⟨old, ht, under, hna⟩
    · exact unlicensed (hs ▸ hlc)
    · rw [hse.idle old ht (hna.trans hs)] at under
      cases under
  alone := by
    intro _ hm _ creates hs
    exact unlicensed (hs ▸ (hsp.tasks _ hm).1 _ creates)
  down := by
    intro runtime hm hs
    rcases hsp.within.up runtime hm with hlc | hk
    · exact unlicensed (hs ▸ hlc)
    · exact hse.down runtime hk hs

structure StaysDown (before after : System) (sessionId : String) : Prop where
  stopped : ∀ session ∈ after.world.store.sessions, session.id = sessionId →
    normalizedStatus session.status ≠ .running
  down : ∀ runtime ∈ after.world.up, runtime.sessionId ≠ sessionId
  unstarted : after.world.started.count sessionId = before.world.started.count sessionId

theorem Settled.run (hse : system.Settled sessionId) (hso : system.Sound)
    (events : List (List Fate × Event))
    (others : ∀ event ∈ events, ¬ Event.restores sessionId event.2) :
    system.StaysDown (system.run host events) sessionId := by
  induction events generalizing system with
  | nil =>
    refine ⟨?_, hse.down, rfl⟩
    intro _ hm hs
    rw [hse.stopped _ hm hs]
    intro hru
    cases hru
  | cons event _ ih =>
    have unlicensed := hse.not_may (others _ mem_cons_self)
    have hsp : Stepped (system.May event.2) system (system.step host event.1 event.2) :=
      step_stepped hso event.1 event.2
    have after := ih (hse.stepped unlicensed hsp) (hso.stepped hsp)
      fun _ hm => others _ (mem_cons_of_mem _ hm)
    exact ⟨after.stopped, after.down,
      after.unstarted.trans (hsp.within.started _ unlicensed)⟩

/-- No create call for the session and no launch of it is under way, and a runtime of it is the one
that its live record names. -/
structure Quiet (system : System) (sessionId : String) : Prop where
  alone : ∀ task ∈ system.tasks, ∀ creation ∈ task.creation, creation.record.id ≠ sessionId
  idle : ∀ launch ∈ system.world.store.launches, launch.sessionId = sessionId →
    launch.isUnderWay = false
  named : ∀ runtime ∈ system.world.up, runtime.sessionId = sessionId →
    ∃ session ∈ system.world.store.sessions, session.id = sessionId ∧
      session.isStopped = false ∧ runtime.target = session.target

end System

variable {call : RetireCall}

section

variable {start : World} {session : SessionRecord}

structure Ended (before : World) (session : SessionRecord) (after : World) : Prop where
  stored : ∃ ended, after.store.session session.id = some ended ∧ ended.status = .stopped
  killed : after.unanswered = before.unanswered →
    ∀ runtime ∈ after.up, runtime ∈ before.up ∧ runtime.target ≠ session.target

variable (target : Target)

theorem ends_sessionExists : Ends start (sessionExists target)
    (fun ht after => after = start ∧ ht = start.isUp target ∨
      after = start.leaveUnanswered target ∧ ht = false) fun _ => True := by
  have asked : Ends start (attempt (call "tmux has-session failed" id))
      (fun _ after => after = start) fun _ => True :=
    ends_attempt (ends_call ⟨fun _ => rfl, trivial⟩ rfl)
  refine ends_call_bind trivial (ends_bind asked ?_)
  rintro _ _ rfl
  split
  · exact ends_observe (.inl ⟨rfl, rfl⟩)
  · exact ends_record_bind (ends_pure (.inr ⟨rfl, rfl⟩))

/-- A kill that ends has left no runtime of the target, if `has-session` was answered. -/
theorem ends_killSession : Ends start (killSession target)
    (fun _ after => after.unanswered = start.unanswered →
      ∀ runtime ∈ after.up, runtime ∈ start.up ∧ runtime.target ≠ target) fun _ => True := by
  refine ends_bind (ends_sessionExists _) ?_
  rintro _ _ (⟨rfl, rfl⟩ | ⟨rfl, rfl⟩)
  · split
    · refine ends_call_bind trivial (ends_pure ?_)
      intro _ runtime hm
      obtain ⟨hk, other⟩ := mem_filter.mp hm
      exact ⟨hk, by simpa using other⟩
    · next hab =>
        refine ends_pure ?_
        intro _ runtime hm
        refine ⟨hm, ?_⟩
        intro hs
        exact hab (any_eq_true.mpr ⟨runtime, hm, by simpa using hs⟩)
  · refine ends_pure ?_
    intro answered
    exact absurd answered (cons_ne_self _ _)

theorem ends_attempt_killSession : Ends start (attempt (killSession target))
    (fun result after => ∀ killed, result = .ok killed → after.unanswered = start.unanswered →
      ∀ runtime ∈ after.up, runtime ∈ start.up ∧ runtime.target ≠ target) fun _ => True := by
  refine ends_attempt (ends_mono (ends_killSession _) ?_ ?_)
  · intro _ after facts _ _
    exact facts
  · intro after _
    refine ⟨?_, trivial⟩
    intro _ _ h
    cases h

theorem session_retired {state : Store} (hf : state.session call.sessionId = some session)
    (intent : Option TerminalProvenance) (disposition : Option TmuxDisposition) :
    ∃ ended, (noteRetirementIntent (retireRecord (noteRetirementIntent state call.sessionId intent)
      call disposition) call.sessionId none).session call.sessionId = some ended ∧
      ended.status = .stopped := by
  have noted : (noteRetirementIntent state call.sessionId intent).session call.sessionId =
      some { session with retirementIntent := intent } := by
    rw [noteRetirementIntent, Store.session_modifySession_self _ (by intro _; rfl), hf]
    rfl
  have retired : (retireRecord (noteRetirementIntent state call.sessionId intent) call
      disposition).session call.sessionId =
      some (markSessionRetired (.explicitRetire call.authority disposition)
        { session with retirementIntent := intent }.stop) := by
    rw [retireRecord, Store.session_modifySession_self _ (by intro _; rfl)]
    exact congrArg _ noted
  have forgotten : (noteRetirementIntent (retireRecord (noteRetirementIntent state call.sessionId
      intent) call disposition) call.sessionId none).session call.sessionId =
      some { markSessionRetired (.explicitRetire call.authority disposition)
        { session with retirementIntent := intent }.stop with retirementIntent := none } := by
    rw [noteRetirementIntent, Store.session_modifySession_self _ (by intro _; rfl), retired]
    rfl
  exact ⟨_, forgotten, rfl⟩

theorem ends_retireRuntime (call : RetireCall)
    (hf : start.store.session call.sessionId = some session) :
    Ends start (retireRuntime call start.store session) (fun _ after => Ended start session after)
      fun _ => True := by
  obtain ⟨_, hna⟩ := Store.session_some hf
  refine ends_call_bind trivial (ends_bind (ends_attempt_killSession session.target) ?_)
  intro _ _ facts
  split
  · exact ends_call_bind trivial (ends_fail trivial)
  · next killed =>
      refine ends_call_bind trivial (ends_call_bind trivial (ends_pure ⟨?_, facts killed rfl⟩))
      rw [hna]
      exact session_retired hf _ _

/-- A retire call that answers `retired` either found the session stopped and did nothing, or ended
it and its runtime. -/
theorem ends_retire (host : Host) (call : RetireCall) :
    Ends start (retireCoreSessionWithRuntimeAuthorized host call)
      (fun outcome after => outcome = .retired →
        ∃ session, start.store.session call.sessionId = some session ∧
          (session.isStopped ∧ after = start ∨
            session.isStopped = false ∧ Ended start session after)) fun _ => True := by
  refine ends_observe_bind ?_
  have fenced : Ends start (ensureSessionNotReparentFenced call.seen call.sessionId)
      (fun _ after => after = start) fun _ => True := by
    unfold ensureSessionNotReparentFenced
    split
    · exact ends_fail trivial
    · exact ends_pure rfl
  refine ends_bind fenced ?_
  rintro _ _ rfl
  split
  · refine ends_pure ?_
    intro h
    cases h
  split
  · refine ends_pure ?_
    intro h
    cases h
  rename_i session hf
  split
  · refine ends_pure ?_
    intro rejected
    cases authority : call.authority <;>
      simp only [authority, RetireAuthority.rejectionOutcome] at rejected
    · cases rejected
    · split at rejected <;> cases rejected
    · cases rejected
  · split
    · next hsd => exact ends_pure fun _ => ⟨session, hf, .inl ⟨hsd, rfl⟩⟩
    rename_i hru
    dsimp only
    split
    · exact ends_fail trivial
    split
    · refine ends_pure ?_
      intro h
      cases h
    · refine ends_mono (ends_retireRuntime _ hf) ?_ fun _ _ => trivial
      intro _ after hen _
      exact ⟨_, hf, .inr ⟨(Bool.not_eq_true _).mp hru, hen⟩⟩

end

namespace System

variable {host : Host} {system : System} {fates : List Fate}

theorem retireOutcome_retired (retired : system.retireOutcome host fates call = some .retired) :
    ∃ after, system.step host fates (.retire call) = ⟨after, true, system.tasks⟩ ∧
      Within (fun _ => False) system.world after ∧
      ∃ session, system.world.store.session call.sessionId = some session ∧
        (session.isStopped ∧ after = system.world ∨
          session.isStopped = false ∧ Ended system.world session after) := by
  -- A retirement needs no licence at all.
  have hwi : Licensed (fun _ => False) system.world
      (retireCoreSessionWithRuntimeAuthorized host call) fun _ => True :=
    licensed_retireCoreSessionWithRuntimeAuthorized _ _
  have hwi := hwi fates
  have hen := @ends_retire system.world host call fates
  unfold retireOutcome at retired
  split at retired
  · next serving =>
      unfold step
      rw [if_pos serving, serve, execute]
      rcases result : retireCoreSessionWithRuntimeAuthorized host call ⟨system.world, fates⟩ with
        ⟨_, after⟩ | ⟨halt, after⟩
      · rw [result] at retired hwi hen
        cases retired
        exact ⟨after.world, rfl, hwi.2, hen rfl⟩
      · rw [result] at retired
        cases retired
  · cases retired

theorem settled_of_retired (hso : system.Sound)
    (retired : system.retireOutcome host fates call = some .retired)
    (answered : (system.step host fates (.retire call)).world.unanswered = system.world.unanswered)
    (quiet : system.Quiet call.sessionId) :
    (system.step host fates (.retire call)).Settled call.sessionId := by
  obtain ⟨_, hsp, hwi, session, hf, how⟩ := retireOutcome_retired retired
  obtain ⟨hm, hna⟩ := Store.session_some hf
  have hc := hwi.store.consistent hso.consistent
  rw [hsp] at answered ⊢
  refine ⟨?_, ?_, ?_, quiet.alone, ?_⟩
  · rcases hwi.store.present session hm with h | ⟨new, ht, hs⟩
    · cases h
    · exact ⟨new, ht, hs.trans hna⟩
  · intro _ ht hs
    rcases how with ⟨hsd, rfl⟩ | ⟨_, hen⟩
    · rw [hc.eq_of_session_id ht hm (hs.trans hna.symm)]
      unfold SessionRecord.isStopped Sessions.isStopped at hsd
      rw [Bool.or_eq_true, decide_eq_true_eq, normalizedStatus_eq_stopped] at hsd
      rcases hsd with status | hmk
      · exact status
      · exact hc.terminal _ hm hmk
    · obtain ⟨_, hst, status⟩ := hen.stored
      obtain ⟨hi, id⟩ := Store.session_some hst
      rw [hc.eq_of_session_id ht hi (hs.trans (hna.symm.trans id.symm))]
      exact status
  · intro launch ht hs
    by_contra hru
    rw [Bool.not_eq_false] at hru
    rcases hwi.store.launching launch ht hru with h | ⟨old, hk, under, id⟩
    · cases h
    · rw [quiet.idle old hk (id.trans hs)] at under
      cases under
  · intro runtime ht hs
    rcases hwi.up runtime ht with h | hk
    · cases h
    · obtain ⟨_, hi, id, hru, target⟩ := quiet.named runtime hk hs
      have only := hso.consistent.eq_of_session_id hi hm (id.trans hna.symm)
      rcases how with ⟨hsd, _⟩ | ⟨_, hen⟩
      · rw [only, hsd] at hru
        cases hru
      · exact (hen.killed answered runtime ht).2 (only ▸ target)

/-- A server that starts on a state file with what it has found running. -/
def boot (store : Store) (up : List Runtime) : System := down ⟨store, up, [], []⟩

theorem sound_boot {store : Store} (hc : store.Consistent) (up : List Runtime) :
    (boot store up).Sound := by
  refine ⟨hc, ?_⟩
  intro _ h
  cases h

/-- Whatever came before, a session whose retirement was answered while nothing was starting it, and
while tmux was answering, does not run and has no runtime in any state up to a restore of it. -/
theorem retirement_is_durable {store : Store} (consistent : store.Consistent) (up : List Runtime)
    (earlier : List (List Fate × Event)) (fates : List Fate) (call : RetireCall)
    (retired : ((boot store up).run host earlier).retireOutcome host fates call = some .retired)
    (answered : (((boot store up).run host earlier).step host fates (.retire call)).world.unanswered =
      ((boot store up).run host earlier).world.unanswered)
    (quiet : ((boot store up).run host earlier).Quiet call.sessionId)
    (later : List (List Fate × Event))
    (unrestored : ∀ event ∈ later, ¬ Event.restores call.sessionId event.2) :
    StaysDown (((boot store up).run host earlier).step host fates (.retire call))
      ((boot store up).run host (earlier ++ (fates, .retire call) :: later)) call.sessionId := by
  have sound : ((boot store up).run host earlier).Sound := (sound_boot consistent up).run earlier
  have split : (boot store up).run host (earlier ++ (fates, .retire call) :: later) =
      (((boot store up).run host earlier).step host fates (.retire call)).run host later := by
    unfold run
    rw [foldl_append, foldl_cons]
  rw [split]
  exact (settled_of_retired sound retired answered quiet).run (sound.step fates _) later unrestored

section

def sampleHost : Host where
  socketName := none
  deliveryRuntime := true
  customRuntimeCommand := false
  sha256Text
  coreLogFilePath := fun sessionId => "logs/" ++ sessionId

def emptyStore : Store := ⟨[], [], []⟩

theorem emptyStore_consistent : emptyStore.Consistent := by
  constructor <;> simp [emptyStore]

/-- The server starts, and a create call stores its provisional session. -/
def provisional : List (List Fate × Event) :=
  [([], .recover {}),
    ([], .create ⟨some "seat", none, none, none, false⟩ { drawnLaunches := ["launch"] })]

/-- The create call starts the runtime, hears from it and makes its final write. -/
def completion : List (List Fate × Event) :=
  [([], .advance 0 {}), ([], .advance 0 {}), ([], .advance 0 {})]

def retireSeat : RetireCall := ⟨"seat", .operator "api_access", none, {}⟩

theorem retirement_is_durable_of_seat :
    StaysDown
      (((boot emptyStore []).run sampleHost (provisional ++ completion)).step sampleHost []
        (.retire retireSeat))
      ((boot emptyStore []).run sampleHost
        (provisional ++ completion ++ ([], .retire retireSeat) :: [([], .crash), ([], .recover {})]))
      "seat" := by
  refine retirement_is_durable emptyStore_consistent [] (provisional ++ completion) [] retireSeat
    (by decide +kernel) (by decide +kernel)
    ⟨by decide +kernel, by decide +kernel, by decide +kernel⟩
    [([], .crash), ([], .recover {})] ?_
  intro event member
  simp only [mem_cons, not_mem_nil, or_false] at member
  rcases member with rfl | rfl <;> exact id

/-- A session that is retired between the first and the last write of the call that creates it runs
all the same. The runtime of a retired session also stays up where `has-session` gets no answer. -/
theorem retired_session_runs :
    ((boot emptyStore []).run sampleHost provisional).retireOutcome sampleHost [] retireSeat =
        some .retired ∧
      ¬ StaysDown
        (((boot emptyStore []).run sampleHost provisional).step sampleHost [] (.retire retireSeat))
        ((boot emptyStore []).run sampleHost (provisional ++ ([], .retire retireSeat) :: completion))
        "seat" ∧
      ((boot emptyStore []).run sampleHost (provisional ++ completion)).retireOutcome sampleHost
        [.done, .done, .failed] retireSeat = some .retired ∧
      ((((boot emptyStore []).run sampleHost (provisional ++ completion)).step sampleHost
        [.done, .done, .failed] (.retire retireSeat)).world.up.map Runtime.sessionId) = ["seat"] := by
  refine ⟨by decide +kernel, ?_, by decide +kernel, by decide +kernel⟩
  intro promised
  have running : ∃ runtime ∈ ((boot emptyStore []).run sampleHost
      (provisional ++ ([], .retire retireSeat) :: completion)).world.up,
      runtime.sessionId = "seat" := by decide +kernel
  obtain ⟨runtime, member, same⟩ := running
  exact promised.down runtime member same

end

end System

end SessionManager.Lifecycle
