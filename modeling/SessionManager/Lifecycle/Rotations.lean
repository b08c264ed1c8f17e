import SessionManager.Lifecycle.Retirement

/-! Credential rotations and launches in every durable state of a run. A process may die before any
of its writes, so the states between two writes of an operation are states of runs too. -/
namespace SessionManager.Lifecycle
open Foundation Operation Sessions List Bool

variable {launch : SessionRuntimeLaunchRecord}

section

variable {before : World}

theorem keeps_started_saveOrFail {started : List String} (result : Except String Store) :
    Keeps (fun world => world.started = started) (saveOrFail result) fun _ => True :=
  keeps_bind (keeps_ofExcept fun _ _ => trivial : Keeps _ (ofExcept result) fun _ => True)
    fun _ _ => keeps_call fun _ hs => hs

theorem recover_retired_starts_nothing (host : Host) (seen : Seen) {launchId : String}
    (hf : before.store.launch launchId = some launch)
    (retired : (before.store.session launch.sessionId).any SessionRecord.isRetired)
    (unauthorized : launch.isAuthorizedRestoreIntent = false) :
    Ends before (recoverSessionRuntimeLaunch host seen launchId)
      (fun _ after => True ∧ after.started = before.started)
      fun after => after.started = before.started := by
  refine ends_observe_bind ?_
  rw [hf]
  dsimp only
  split
  · exact ends_pure ⟨trivial, rfl⟩
  · split
    · exact keeps_started_saveOrFail _ _ rfl
    · rw [if_pos (by rw [retired, unauthorized]; rfl)]
      exact keeps_started_saveOrFail _ _ rfl

theorem recover_other_starts_nothing (host : Host) (seen : Seen) {launchId sessionId : String}
    (other : ∀ launch, before.store.launch launchId = some launch → launch.sessionId ≠ sessionId) :
    Ends before (recoverSessionRuntimeLaunch host seen launchId)
      (fun _ after => after.started.count sessionId = before.started.count sessionId)
      fun after => after.started.count sessionId = before.started.count sessionId := by
  have hlc : Licensed (fun licensee => licensee ≠ sessionId) before
      (recoverSessionRuntimeLaunch host seen launchId) fun _ => True :=
    licensed_recoverSessionRuntimeLaunch _ _ _ fun _ hf _ => other _ hf
  refine ends_mono hlc ?_ ?_
  · rintro _ after ⟨_, hwi⟩
    exact hwi.started _ fun hne => hne rfl
  · intro after hwi
    exact hwi.started _ fun hne => hne rfl

end

namespace Store

def activeRotations (state : Store) (sessionId : String) : List SessionCredentialRotationRecord :=
  state.rotations.filter fun rotation =>
    decide (rotation.sessionId = sessionId) && rotation.isActive

section

variable {state : Store} (consistent : state.Consistent)
include consistent

variable {session : SessionRecord}

theorem Consistent.session_of_mem (hm : session ∈ state.sessions) :
    state.session session.id = some session := by
  obtain ⟨other, hf⟩ : ∃ other, state.session session.id = some other :=
    Option.isSome_iff_exists.mp (find?_isSome.mpr ⟨_, hm, decide_eq_true rfl⟩)
  obtain ⟨hst, hs⟩ := session_some hf
  rw [hf, consistent.eq_of_session_id hst hm hs]

theorem Consistent.activeRotations_length
    (sessionId : String) : (state.activeRotations sessionId).length ≤ 1 := by
  have hn : (state.activeRotations sessionId).Nodup :=
    (List.Nodup.of_map _ consistent.rotationIds).filter _
  have only : ∀ one ∈ state.activeRotations sessionId, ∀ two ∈ state.activeRotations sessionId,
      one = two := by
    intro one first two second
    obtain ⟨oneStored, one⟩ := mem_filter.mp first
    obtain ⟨twoStored, two⟩ := mem_filter.mp second
    simp only [and_eq_true, decide_eq_true_eq] at one two
    exact consistent.single _ oneStored _ twoStored one.2 two.2 (one.1.trans two.1.symm)
  rcases rotations : state.activeRotations sessionId with _ | ⟨one, _ | ⟨two, _⟩⟩
  · exact Nat.zero_le 1
  · exact Nat.le_refl 1
  · rw [rotations] at hn only
    have hs := only one mem_cons_self two (mem_cons_of_mem _ mem_cons_self)
    exact absurd (hs ▸ mem_cons_self) (nodup_cons.mp hn).1

/-- A rotation launch that is under way belongs to a session that is not retired. -/
theorem Consistent.rotationLaunch_ended (hm : session ∈ state.sessions)
    (retired : session.isRetired)
    (hst : launch ∈ state.launches) (hs : launch.sessionId = session.id)
    (hcr : launch.credentialRotationId.isSome) : launch.isUnderWay = false := by
  by_contra hru
  rw [not_eq_false] at hru
  obtain ⟨_, hca⟩ := Option.isSome_iff_exists.mp hcr
  obtain ⟨rotation, ht, _, relaunching, _, owner⟩ :=
    consistent.carried _ hst hru _ hca
  have hen := consistent.ended _ hm retired _ ht (owner.trans hs)
  rw [SessionCredentialRotationRecord.isActive_of_relaunching relaunching] at hen
  cases hen

end

end Store

namespace System

variable {host : Host} {system : System}

structure Orderly (host : Host) (world : World) : Prop where
  single : ∀ sessionId, (world.store.activeRotations sessionId).length ≤ 1
  named : ∀ rotation ∈ world.store.rotations, rotation.status = .relaunching →
    ∃ launch ∈ world.store.launches, rotation.runtimeLaunchId = some launch.id ∧
      launch.sessionId = rotation.sessionId ∧ launch.credentialRotationId = some rotation.id
  inactive : ∀ session ∈ world.store.sessions, session.isRetired = true →
    world.store.activeRotations session.id = []
  ended : ∀ session ∈ world.store.sessions, session.isRetired = true →
    ∀ launch ∈ world.store.launches, launch.sessionId = session.id →
      launch.credentialRotationId.isSome = true → launch.isUnderWay = false
  authorized : ∀ session ∈ world.store.sessions, session.isRetired = true →
    ∀ seen launchId fates,
      ((recoverSessionRuntimeLaunch host seen launchId).perform world fates).1.started.count
          session.id ≠ world.started.count session.id →
        ∃ launch, world.store.launch launchId = some launch ∧ launch.sessionId = session.id ∧
          launch.isAuthorizedRestoreIntent = true

theorem Sound.orderly (hso : system.Sound) : Orderly host system.world where
  single := hso.consistent.activeRotations_length
  named := hso.consistent.named
  inactive := by
    intro session hm retired
    refine filter_eq_nil_iff.mpr ?_
    intro _ hst active
    simp only [and_eq_true, decide_eq_true_eq] at active
    rw [hso.consistent.ended _ hm retired _ hst active.1] at active
    cases active.2
  ended := by
    intro session hm retired launch hst hs hcr
    exact hso.consistent.rotationLaunch_ended hm retired hst hs hcr
  authorized := by
    intro session hm retired seen launchId _ starts
    by_contra refused
    refine starts ?_
    -- Either the launch is of another session, or it is one that recovery refuses.
    by_cases own : ∃ launch, system.world.store.launch launchId = some launch ∧
        launch.sessionId = session.id
    · obtain ⟨launch, hf, hs⟩ := own
      have unauthorized : launch.isAuthorizedRestoreIntent = false := by
        by_contra authorized
        rw [not_eq_false] at authorized
        exact refused ⟨_, hf, hs, authorized⟩
      have held : (system.world.store.session launch.sessionId).any SessionRecord.isRetired =
          true := by
        rw [hs, hso.consistent.session_of_mem hm]
        exact retired
      have hun := ends_mono (recover_retired_starts_nothing host seen hf held unauthorized)
        (fun _ _ kept => kept.2) fun _ kept => kept
      rw [perform_left hun _]
    · refine perform_left (recover_other_starts_nothing _ _ ?_) _
      intro launch hf hs
      exact own ⟨_, hf, hs⟩

/-- From a consistent state file on, every durable state of every run is orderly. -/
theorem rotations_and_launches_agree {store : Store} (consistent : store.Consistent)
    (up : List Runtime) (events : List (List Fate × Event)) :
    Orderly host ((boot store up).run host events).world :=
  ((sound_boot consistent up).run events).orderly

/-- What the worker of a rotation does for a seat: it inspects, examines and relaunches. -/
def worker (sessionId : String) (fates : List Fate) : List (List Fate × Event) :=
  [([], .rotate sessionId { drawn := ["rotation-" ++ sessionId] }), ([], .inspect sessionId),
    ([], .advance 0 {}),
    (fates, .advance 0 { drawnLaunches := ["relaunch-" ++ sessionId], credential := "secret" })]

/-- A Claude seat is relaunched after its Stop hook. The relaunch of a Codex seat dies between the kill
of the old runtime and the start of the new one. -/
def rotatedSeats : List (List Fate × Event) :=
  provisional ++ completion ++
    ([], .hook "seat" (.stop false false (some (some "transcript")))) :: worker "seat" [] ++
    [([], .create ⟨some "desk", some "codex", none, none, false⟩ { drawnLaunches := ["launch-desk"] }),
      ([], .advance 0 {}), ([], .advance 0 { cliResumeId := some "thread" }), ([], .advance 0 {})] ++
    worker "desk" (List.replicate 12 .done ++ [.crashed])

/-- The next process takes the relaunch up, and both seats are retired. -/
def recoveredSeats : List (List Fate × Event) :=
  rotatedSeats ++ [([], .recover {}), ([], .recover {}), ([], .retire retireSeat),
    ([], .retire { retireSeat with sessionId := "desk" })]

def rotationStatuses (events : List (List Fate × Event)) : List RotationStatus :=
  ((boot emptyStore []).run sampleHost events).world.store.rotations.map (·.status)

theorem rotations_and_launches_agree_of_seat :
    rotationStatuses rotatedSeats = [.applied, .relaunching] ∧
      Orderly sampleHost ((boot emptyStore []).run sampleHost rotatedSeats).world ∧
      rotationStatuses recoveredSeats = [.applied, .applied] ∧
      (∀ session ∈ ((boot emptyStore []).run sampleHost recoveredSeats).world.store.sessions,
        session.isRetired = true) ∧
      Orderly sampleHost ((boot emptyStore []).run sampleHost recoveredSeats).world :=
  ⟨by decide +kernel, rotations_and_launches_agree emptyStore_consistent [] rotatedSeats,
    by decide +kernel, by decide +kernel,
    rotations_and_launches_agree emptyStore_consistent [] recoveredSeats⟩

end System

end SessionManager.Lifecycle
