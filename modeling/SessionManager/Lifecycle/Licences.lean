import SessionManager.Lifecycle.Changes
import SessionManager.Lifecycle.System

/-! What each operation needs a licence for: where it ends, and also where it stops half way, the
state file has only changed as allowed and runtimes were started only for licensed sessions. -/
namespace SessionManager.Lifecycle
open Foundation Operation Sessions List Fallible

structure Within (may : String → Prop) (before after : World) : Prop where
  store : Allowed may before.store after.store
  up : ∀ runtime ∈ after.up, may runtime.sessionId ∨ runtime ∈ before.up
  started : ∀ sessionId, ¬ may sessionId →
    after.started.count sessionId = before.started.count sessionId

variable {sessionId : String} {state : Store} {prepared : Store} {host : Host}

namespace Within

variable {may : String → Prop} {before : World} {world : World}

theorem refl (world : World) : Within may world world where
  store := Allowed.refl world.store
  up := fun _ hm => .inr hm
  started := fun _ _ => rfl

theorem kill (hwi : Within may before world) (target : Target) :
    Within may before (world.kill target) where
  store := hwi.store
  up := fun runtime hm => hwi.up runtime (mem_of_mem_filter hm)
  started := hwi.started

theorem start (hwi : Within may before world) (target : Target) (hlc : may sessionId) :
    Within may before (world.start target sessionId) where
  store := hwi.store
  up := by
    intro runtime hm
    rcases mem_cons.mp hm with rfl | hk
    · exact .inl hlc
    · exact hwi.up runtime hk
  started := by
    intro other unlicensed
    have hne : sessionId ≠ other := fun hs => unlicensed (hs ▸ hlc)
    change (sessionId :: world.started).count other = _
    rw [count_cons_of_ne hne]
    exact hwi.started _ unlicensed

end Within

variable (seen : Seen)

section

variable {may : String → Prop} {before : World} {α : Type} (reason : String)

theorem keeps_call_id : Keeps (Within may before) (call reason id) fun _ => True :=
  keeps_call fun _ hwi => hwi

theorem keeps_save (allowed : Allowed may before.store state) :
    Keeps (Within may before) (save state) fun _ => True :=
  keeps_call fun _ hwi => ⟨allowed, hwi.up, hwi.started⟩

theorem keeps_saveOrFail {result : Except String Store}
    (allowed : ∀ state, result = .ok state → Allowed may before.store state) :
    Keeps (Within may before) (saveOrFail result) fun _ => True :=
  keeps_bind (keeps_ofExcept allowed) fun _ holds => keeps_save holds

section

variable (target : Target)
include target

theorem keeps_sessionExists : Keeps (Within may before) (sessionExists target) fun _ => True := by
  refine keeps_bind (keeps_call_id _) fun _ _ => ?_
  refine keeps_bind (keeps_attempt (keeps_call_id _)) ?_
  intro _ _
  split
  · exact keeps_observe fun _ _ => trivial
  · refine keeps_bind (keeps_record fun _ hwi => ⟨hwi.store, hwi.up, hwi.started⟩) ?_
    intro _ _
    exact keeps_pure trivial

theorem keeps_killSession : Keeps (Within may before) (killSession target) fun _ => True := by
  refine keeps_bind (keeps_sessionExists _) ?_
  intro _ _
  split
  · refine keeps_bind (keeps_call fun _ hwi => hwi.kill _) ?_
    intro _ _
    exact keeps_pure trivial
  · exact keeps_pure trivial

theorem keeps_createSession (hlc : may sessionId) :
    Keeps (Within may before) (createSession target sessionId) fun _ => True := by
  refine keeps_bind (keeps_sessionExists _) ?_
  intro _ _
  split
  · exact keeps_fail
  refine keeps_bind (keeps_call_id _) fun _ _ => ?_
  refine keeps_bind (keeps_call fun _ hwi => hwi.start _ hlc) fun _ _ => ?_
  refine keeps_bind (keeps_attempt (keeps_call_id _)) ?_
  intro _ _
  split
  · exact keeps_pure trivial
  · refine keeps_bind (keeps_attempt (keeps_killSession _)) fun _ _ => ?_
    exact keeps_fail

theorem keeps_replaceRuntime (hlc : may sessionId) :
    Keeps (Within may before) (replaceRuntime target sessionId) fun _ => True := by
  refine keeps_bind (keeps_sessionExists _) ?_
  intro _ _
  split
  · refine keeps_bind (keeps_killSession _) fun _ _ => ?_
    exact keeps_createSession _ hlc
  · exact keeps_createSession _ hlc

theorem keeps_teardownSessionForRestore :
    Keeps (Within may before) (teardownSessionForRestore target) fun _ => True := by
  have observed : Keeps (Within may before) (observe (World.isUp target)) fun _ => True :=
    keeps_observe fun _ _ => trivial
  refine keeps_bind observed fun ht _ => ?_
  refine keeps_bind (keeps_attempt (keeps_call fun _ hwi => hwi.kill _)) ?_
  intro _ _
  split <;> exact keeps_pure trivial

end

variable (provider : Provider)

theorem keeps_forkCall : Keeps (Within may before) (forkCall reason provider) fun _ => True := by
  unfold forkCall
  split
  · exact keeps_call_id _
  · exact keeps_pure trivial

theorem keeps_ensureSessionNotReparentFenced (sessionId : String) :
    Keeps (Within may before) (ensureSessionNotReparentFenced seen sessionId) fun _ => True := by
  unfold ensureSessionNotReparentFenced
  split
  · exact keeps_fail
  · exact keeps_pure trivial

theorem keeps_awaitProviderResumeId (stored : Option String) :
    Keeps (Within may before) (awaitProviderResumeId seen provider stored) fun _ => True := by
  unfold awaitProviderResumeId
  split
  · exact keeps_pure trivial
  · refine keeps_bind (keeps_call_id _) fun _ _ => ?_
    exact keeps_pure trivial
  · exact keeps_pure trivial
  · exact keeps_pure trivial

/-- An operation that is within its licences wherever it ends, and whose value has a property. -/
def Licensed {α : Type} (may : String → Prop) (before : World) (operation : Operation World α)
    (property : α → Prop) : Prop :=
  Ends before operation (fun value after => property value ∧ Within may before after)
    (Within may before)

theorem Licensed.of_keeps {operation : Operation World α} {property : α → Prop}
    (hke : Keeps (Within may before) operation property) :
    Licensed may before operation property :=
  hke before (Within.refl before)

theorem licensed_load {next : Store → Operation World α} {property : α → Prop}
    (hke : Keeps (Within may before) (next before.store) property) :
    Licensed may before (load >>= next) property :=
  ends_observe_bind (Licensed.of_keeps hke)

end

section

variable {may : String → Prop} {before : World}

theorem licensed_retireUnlessStopped {call : RetireCall}
    {act : Store → SessionRecord → Operation World CoreRetireOutcome}
    (acts : ∀ session, before.store.session call.sessionId = some session →
      session.isStopped = false → Keeps (Within may before) (act before.store session)
        fun _ => True) :
    Licensed may before (retireUnlessStopped host call act) fun _ => True := by
  refine licensed_load (keeps_bind (keeps_ensureSessionNotReparentFenced _ _) fun _ _ => ?_)
  split
  · exact keeps_pure trivial
  split
  · exact keeps_pure trivial
  rename_i session hf
  split
  · exact keeps_pure trivial
  · split
    · exact keeps_pure trivial
    · next hru => exact acts session hf (by simpa using hru)

theorem licensed_retireCoreSessionAuthorized (host : Host) (call : RetireCall) :
    Licensed may before (retireCoreSessionAuthorized host call) fun _ => True := by
  refine licensed_retireUnlessStopped fun _ _ _ => ?_
  refine keeps_bind (keeps_call_id _) fun _ _ => ?_
  refine keeps_bind (keeps_save (Allowed.retire _ none)) fun _ _ => ?_
  exact keeps_pure trivial

theorem keeps_retireRuntime (call : RetireCall) (session : SessionRecord) :
    Keeps (Within may before) (retireRuntime call before.store session) fun _ => True := by
  have noted : ∀ (state : Store) (intent : Option TerminalProvenance),
      Allowed may state (noteRetirementIntent state call.sessionId intent) :=
    fun _ _ => Allowed.note fun _ => ⟨rfl, rfl, rfl⟩
  have intended := noted before.store (some (.explicitRetire call.authority none))
  refine keeps_bind (keeps_save intended) fun _ _ => ?_
  refine keeps_bind (keeps_attempt (keeps_killSession session.target)) ?_
  intro _ _
  split
  · refine keeps_bind (keeps_save (intended.trans (noted _ none))) fun _ _ => ?_
    exact keeps_fail
  · refine keeps_bind (keeps_call_id _) fun _ _ => ?_
    refine keeps_bind (keeps_save ?_) fun _ _ => keeps_pure trivial
    exact (intended.trans (Allowed.retire _ _)).trans (noted _ none)

theorem licensed_retireCoreSessionWithRuntimeAuthorized (host : Host) (call : RetireCall) :
    Licensed may before (retireCoreSessionWithRuntimeAuthorized host call) fun _ => True := by
  refine licensed_retireUnlessStopped fun _ _ _ => ?_
  split
  · exact keeps_fail
  · split
    · exact keeps_pure trivial
    · exact keeps_retireRuntime _ _

end

section

variable {may : String → Prop} {before : World} {drawn : List String}

theorem buildCoreSessionRecord_ok {seen : Seen} {sessions : List SessionRecord}
    {request : CreateCoreSessionRequest} {record : SessionRecord}
    (built : buildCoreSessionRecord host seen sessions request = .ok record) :
    (∀ session ∈ sessions, session.id ≠ record.id) ∧ record.completionStatus = none := by
  obtain ⟨_, _, built⟩ := bind_eq_ok.mp built
  split at built
  · cases built
  rename_i hfr
  cases built
  refine ⟨?_, rfl⟩
  intro session hm hs
  exact hfr (any_eq_true.mpr ⟨_, hm, by simpa using hs⟩)

theorem generateUnique_ok {taken : String → Bool} {reason id : String}
    (hge : generateUnique drawn taken reason = .ok id) : taken id = false := by
  unfold generateUnique at hge
  split at hge
  · next hf =>
      cases hge
      simpa using find?_some hf
  · cases hge

theorem launch_none_of_generated {id : String}
    (hge : generateUniqueRuntimeLaunchId drawn state = .ok id) : state.launch id = none := by
  simpa using generateUnique_ok hge

theorem licensed_persistProvisionalSession (host : Host) (seen : Seen)
    (request : CreateCoreSessionRequest)
    (licence : ∀ sessionId, (∀ session ∈ before.store.sessions, session.id ≠ sessionId) →
      may sessionId) :
    Licensed may before (persistProvisionalSession host seen request) fun creation =>
      may creation.record.id := by
  refine licensed_load (keeps_bind (keeps_ensureSessionNotReparentFenced _ _) fun _ _ => ?_)
  refine keeps_bind (keeps_ofExcept fun _ built => buildCoreSessionRecord_ok built) ?_
  rintro built ⟨hfr, unmarked⟩
  have hlc := licence built.id hfr
  split
  · exact keeps_fail
  refine keeps_bind (keeps_forkCall _ _) fun _ _ => ?_
  refine keeps_bind (keeps_ofExcept fun _ made => launch_none_of_generated made) ?_
  intro _ unused
  refine keeps_bind (keeps_call_id _) fun _ _ => ?_
  refine keeps_bind (keeps_save ?_) fun _ _ => keeps_pure hlc
  refine Allowed.insertProvisional ?_ hfr unused rfl hlc rfl
  simp [SessionRecord.isRetired, provisionalRecord, unmarked, completionStatusIsRetired]

variable (creation : Creation)

theorem licensed_failCreation (reason : String) (hlc : may creation.record.id) :
    Licensed may before (failCreation creation reason) fun _ => True := by
  refine licensed_load (keeps_bind (keeps_saveOrFail ?_) fun _ _ => keeps_fail)
  exact fun _ hmk => Allowed.markFailed hmk fun _ => hlc

theorem licensed_finishCreation (hlc : may creation.record.id) :
    Licensed may before (finishCreation creation) fun _ => True := by
  have failed : ∀ reason, ∀ state, markRuntimeLaunchFailed before.store creation.launchId
      creation.record.id false reason = .ok state → Allowed may before.store state :=
    fun _ _ hmk => Allowed.markFailed hmk (by intro h; cases h)
  refine licensed_load ?_
  split
  · refine keeps_bind (keeps_attempt (keeps_killSession _)) fun _ _ => ?_
    exact keeps_bind (keeps_saveOrFail (failed _)) fun _ _ => keeps_fail
  rename_i session hf
  split
  · refine keeps_bind (keeps_attempt (keeps_killSession _)) fun _ _ => ?_
    exact keeps_bind (keeps_saveOrFail (failed _)) fun _ _ => keeps_fail
  rename_i unmarked
  have hru : Allowed may before.store (before.store.modifySession creation.record.id
      fun session =>
        { session with
          providerResumeId := creation.record.providerResumeId
          status := .running }) := by
    refine Allowed.revive hlc (fun _ => rfl) ?_
    intro _ hs
    rw [hf] at hs
    cases hs
    exact (Bool.not_eq_true _).mp unmarked
  refine keeps_bind (keeps_ofExcept fun _ hmk =>
    hru.trans (Allowed.markApplied hmk)) ?_
  intro _ allowed
  refine keeps_bind (keeps_attempt (keeps_save allowed)) ?_
  intro _ _
  split
  · exact keeps_forkCall _ _
  · refine keeps_bind (keeps_attempt (keeps_killSession _)) fun _ _ => ?_
    exact keeps_fail

end

section

variable {may : String → Prop} {before : World}

variable {launch : SessionRuntimeLaunchRecord}

theorem keeps_reconcileForkRestore (host : Host) (hlc : may launch.sessionId) :
    Keeps (Within may before) (reconcileForkRestore host before.store launch) fun _ => True := by
  unfold reconcileForkRestore
  split
  · exact keeps_saveOrFail fun _ hmk => Allowed.markInconclusive hmk hlc
  refine keeps_bind (keeps_teardownSessionForRestore _) ?_
  intro _ _
  have reconciled : ∀ reason, ∀ state,
      (markRuntimeLaunchFailed before.store launch.id launch.sessionId false reason).map
        (fun failed => failed.modifySession launch.sessionId fun session =>
          { session with
            errorMessage := some ("codex_fork_restore_recovery_failed: " ++ reason) }) =
          .ok state → Allowed may before.store state := by
    intro reason state hd
    obtain ⟨failed, hmk, rfl⟩ := map_eq_ok.mp hd
    exact (Allowed.markFailed hmk (by intro h; cases h)).trans
      (Allowed.note fun _ => ⟨rfl, rfl, rfl⟩)
  split
  · exact keeps_saveOrFail (reconciled _)
  · exact keeps_saveOrFail (reconciled _)
  · exact keeps_saveOrFail fun _ hmk => Allowed.markInconclusive hmk hlc

theorem keeps_relaunchPrepared
    (allowed : Allowed may before.store prepared) (hlc : may launch.sessionId)
    (live : ∀ session, prepared.session launch.sessionId = some session →
      session.isRetired → launch.operationKind = .restore) :
    Keeps (Within may before) (relaunchPrepared seen prepared launch) fun _ => True := by
  refine keeps_bind (keeps_save allowed) fun _ _ => ?_
  refine keeps_bind (keeps_forkCall _ _) fun _ _ => ?_
  refine keeps_bind (keeps_attempt (keeps_replaceRuntime _ hlc)) ?_
  intro replaced _
  split
  · refine keeps_saveOrFail fun _ hmk => allowed.trans ?_
    exact Allowed.markFailed hmk fun _ => hlc
  have awaits : Keeps (Within may before) (if launch.operationKind = .create then
      awaitProviderResumeId seen launch.provider launch.providerResumeId
    else pure launch.providerResumeId) fun _ => True := by
    split
    · exact keeps_awaitProviderResumeId _ _ _
    · exact keeps_pure trivial
  refine keeps_bind (keeps_attempt awaits) ?_
  intro awaited answered
  split
  · refine keeps_bind (keeps_attempt (keeps_killSession _)) fun _ _ => ?_
    refine keeps_saveOrFail fun _ hmk => allowed.trans ?_
    exact Allowed.markFailed hmk fun _ => hlc
  rename_i resumeId
  have hru : Allowed may prepared
      (prepared.modifySession launch.sessionId (revive launch resumeId)) := by
    refine Allowed.revive hlc ?_ ?_
    · intro session
      unfold revive
      split <;> rfl
    · intro session hf
      unfold revive
      split
      · rfl
      · next other =>
          by_contra retired
          rw [Bool.not_eq_false] at retired
          exact other (live _ hf retired)
  refine keeps_bind (keeps_saveOrFail ?_) fun _ _ => keeps_forkCall _ _
  exact fun _ hmk => (allowed.trans hru).trans (Allowed.markApplied hmk)

theorem keeps_relaunchRecovered (host : Host) (seen : Seen)
    (hm : launch ∈ before.store.launches) (hru : launch.isUnderWay)
    (hlc : may launch.sessionId)
    (live : ∀ session, before.store.session launch.sessionId = some session →
      session.isRetired → launch.operationKind = .restore) :
    Keeps (Within may before) (relaunchRecovered host seen before.store launch) fun _ => True := by
  have armed : Allowed may before.store (before.store.modifyLaunch launch.id fun _ =>
      { launch with
        credentialSha256 := host.sha256Text seen.credential
        status := .launching
        failureReason := none }) :=
    Allowed.rearmLaunch hm hru rfl rfl rfl
  unfold relaunchRecovered
  dsimp only
  split
  · refine keeps_saveOrFail fun _ hmk => armed.trans ?_
    exact Allowed.markFailed hmk (by intro h; cases h)
  refine keeps_relaunchPrepared _ (armed.trans ?_) hlc ?_
  · exact Allowed.stop (fun _ => ⟨rfl, rfl⟩) fun _ => rfl
  · intro session hf retired
    rw [Store.session_modifySession_self _ (by intro _; rfl)] at hf
    obtain ⟨old, hk, rfl⟩ := Option.map_eq_some_iff.mp hf
    exact live old hk retired

theorem licensed_recoverSessionRuntimeLaunch (host : Host) (seen : Seen) (launchId : String)
    (licence : ∀ launch, before.store.launch launchId = some launch → launch.isUnderWay →
      may launch.sessionId) :
    Licensed may before (recoverSessionRuntimeLaunch host seen launchId) fun _ => True := by
  refine licensed_load ?_
  split
  · exact keeps_pure trivial
  rename_i launch hf
  obtain ⟨hm, rfl⟩ := Store.launch_some hf
  split
  · exact keeps_pure trivial
  rename_i underWay
  have hru : launch.isUnderWay = true := by simpa using underWay
  have hlc := licence _ hf hru
  have failed : ∀ remove reason, ∀ state, markRuntimeLaunchFailed before.store launch.id
      launch.sessionId remove reason = .ok state → Allowed may before.store state :=
    fun _ _ _ hmk => Allowed.markFailed hmk fun _ => hlc
  split
  · exact keeps_saveOrFail (failed _ _)
  split
  · refine keeps_saveOrFail fun _ hmk => (Allowed.finalize launch.sessionId).trans ?_
    exact Allowed.markFailed hmk fun _ => hlc
  rename_i continued
  split
  · exact keeps_reconcileForkRestore _ hlc
  split
  · exact keeps_saveOrFail (failed _ _)
  refine keeps_relaunchRecovered _ _ hm hru hlc ?_
  intro _ ht retired
  by_contra other
  refine continued ?_
  simp [ht, retired, SessionRuntimeLaunchRecord.isAuthorizedRestoreIntent, other]

end

section

variable {may : String → Prop} {before : World} {session : SessionRecord}

theorem allowed_rotation {sessionId id resumeId : String}
    (hf : state.session sessionId = some session) (hru : session.isStopped = false)
    (alone : (state.rotations.reverse.find? fun rotation =>
      decide (rotation.sessionId = sessionId) &&
        (rotation.isActive || decide (rotation.status = .applied))) = none)
    (unused : state.rotation id = none) :
    Allowed may state
      { state with rotations := state.rotations ++ [rotationOf session id resumeId] } := by
  obtain ⟨hm, rfl⟩ := Store.session_some hf
  refine Allowed.insertRotation unused rfl ?_ ?_
  · intro other ht hs
    have free := find?_eq_none.mp alone _ (mem_reverse.mpr ht)
    have hna : other.sessionId = session.id := hs
    rw [hna] at free
    by_contra active
    simp [(Bool.not_eq_false _).mp active] at free
  · intro hc other ht hs
    rw [hc.eq_of_session_id ht hm hs]
    exact (isStopped_eq_false.mp hru).2

theorem licensed_createSessionCredentialRotation (host : Host) (seen : Seen) (sessionId : String) :
    Licensed may before (createSessionCredentialRotation host seen sessionId) fun _ => True := by
  unfold createSessionCredentialRotation
  split
  · exact Licensed.of_keeps (keeps_pure trivial)
  refine licensed_load ?_
  split
  · exact keeps_pure trivial
  split
  · exact keeps_pure trivial
  rename_i _ hf
  split
  · refine keeps_bind (keeps_save (Allowed.finalize _)) fun _ _ => ?_
    exact keeps_pure trivial
  rename_i hru
  split
  · exact keeps_pure trivial
  split
  · exact keeps_pure trivial
  refine keeps_bind (keeps_sessionExists _) fun _ _ => ?_
  split
  · refine keeps_bind (keeps_save (Allowed.missing _)) fun _ _ => ?_
    exact keeps_pure trivial
  split
  · exact keeps_pure trivial
  rename_i alone
  refine keeps_bind (keeps_ofExcept fun _ made => generateUnique_ok made) ?_
  intro _ unused
  refine keeps_bind (keeps_save ?_) fun _ _ => keeps_pure trivial
  exact allowed_rotation hf (by simpa using hru) alone (by simpa using unused)

theorem keeps_relaunchRotated {rotation : SessionCredentialRotationRecord}
    {launchId : String} (allowed : Allowed may before.store prepared)
    (hna : session.id = rotation.sessionId) (hlc : may session.id)
    (live : ∀ other, prepared.session rotation.sessionId = some other → other.isRetired = false) :
    Keeps (Within may before) (relaunchRotated prepared rotation session launchId)
      fun _ => True := by
  have failed : ∀ reason, ∀ state, markRuntimeLaunchFailed prepared launchId rotation.sessionId
      false reason = .ok state → Allowed may before.store state :=
    fun _ _ hmk => allowed.trans (Allowed.markFailed hmk (by intro h; cases h))
  refine keeps_bind (keeps_save allowed) fun _ _ => ?_
  refine keeps_bind (keeps_attempt (keeps_replaceRuntime _ hlc)) ?_
  intro _ _
  split
  · exact keeps_saveOrFail (failed _)
  refine keeps_bind (keeps_sessionExists _) fun _ _ => ?_
  split
  · exact keeps_saveOrFail (failed _)
  split
  · exact keeps_pure trivial
  have hru : Allowed may prepared (prepared.modifySession rotation.sessionId fun session =>
      { session with status := .running }) :=
    Allowed.revive (hna ▸ hlc) (fun _ => rfl) live
  refine keeps_bind (keeps_saveOrFail ?_) fun _ _ => keeps_forkCall _ _
  exact fun _ hmk => (allowed.trans hru).trans (Allowed.markApplied hmk)

theorem licensed_applyWaitingCredentialRotation (host : Host) (seen : Seen)
    {rotation stored : SessionCredentialRotationRecord} (read : stored ∈ before.store.rotations)
    (readId : stored.id = rotation.id) (readSession : stored.sessionId = rotation.sessionId)
    (licence : ∀ session ∈ before.store.sessions, session.isStopped = false → may session.id) :
    Licensed may before (applyWaitingCredentialRotation host seen rotation) fun _ => True := by
  refine licensed_load (keeps_bind (keeps_call_id _) fun _ _ => ?_)
  split
  · exact keeps_pure trivial
  rename_i hli
  have waits : ∃ waiting ∈ before.store.rotations, waiting.id = rotation.id ∧
      waiting.status = .waitingIdle := by
    simpa using hli
  obtain ⟨waiting, hm, hna, waits⟩ := waits
  have failed : ∀ reason, Allowed may before.store
      (failRotation before.store rotation.id reason) :=
    fun _ => hna ▸ Allowed.failRotation hm waits
  refine keeps_bind (keeps_sessionExists _) fun _ _ => ?_
  split
  · exact keeps_save (Allowed.missing rotation.sessionId)
  split
  · exact keeps_save (failed _)
  rename_i session hf
  split
  · exact keeps_save (Allowed.finalize rotation.sessionId)
  rename_i hsd
  have hru : session.isStopped = false := (Bool.not_eq_true _).mp hsd
  obtain ⟨hi, sessionNamed⟩ := Store.session_some hf
  have hlc := licence _ hi hru
  split
  · exact keeps_save (failed _)
  split
  · exact keeps_pure trivial
  split
  · exact keeps_save (failed _)
  refine keeps_bind (keeps_forkCall _ _) fun _ _ => ?_
  refine keeps_bind
    (keeps_ofExcept fun _ made => launch_none_of_generated made) ?_
  intro _ unused
  refine keeps_relaunchRotated (Allowed.prepareRotation unused hf read readId
    readSession hm hna waits hlc) sessionNamed hlc ?_
  intro _ ht
  obtain ⟨_, hk, rfl⟩ := Option.map_eq_some_iff.mp
    ((Store.session_modifySession_self _ (by intro _; rfl)).symm.trans ht)
  rw [hk] at hf
  cases hf
  exact (isStopped_eq_false.mp hru).2

end

section

variable {may : String → Prop} {before : World} {prepared : Store} {session : SessionRecord}
  {launchId : String} {resumeId : Option String}

theorem keeps_rejectRestore {reason : String} (allowed : Allowed may before.store prepared)
    (hlc : may session.id) :
    Keeps (Within may before) (rejectRestore prepared session launchId reason) fun _ => True := by
  have rejected : ∀ state, (markRuntimeLaunchFailed prepared launchId session.id false reason).map
      (fun failed => failed.modifySession session.id fun session =>
        { session with errorMessage := some ("codex_fork_restore_rejected: " ++ reason) }) =
        .ok state → Allowed may before.store state := by
    intro state hd
    obtain ⟨failed, hmk, rfl⟩ := map_eq_ok.mp hd
    refine (allowed.trans ?_).trans (Allowed.note fun _ => ⟨rfl, rfl, rfl⟩)
    exact Allowed.markFailed hmk fun _ => hlc
  refine keeps_bind (keeps_teardownSessionForRestore _) ?_
  intro _ _
  split
  · exact keeps_bind (keeps_saveOrFail rejected) fun _ _ => keeps_fail
  · exact keeps_bind (keeps_saveOrFail rejected) fun _ _ => keeps_fail
  · refine keeps_bind (keeps_saveOrFail fun _ hmk => allowed.trans ?_) fun _ _ => keeps_fail
    exact Allowed.markInconclusive hmk hlc

theorem keeps_finishRestore (allowed : Allowed may before.store prepared) (hlc : may session.id) :
    Keeps (Within may before) (finishRestore prepared session launchId resumeId) fun _ => True := by
  refine keeps_bind (keeps_attempt (keeps_createSession _ hlc)) ?_
  intro _ _
  split
  · refine keeps_bind (keeps_saveOrFail fun _ hmk => allowed.trans ?_) fun _ _ => keeps_fail
    exact Allowed.markFailed hmk fun _ => hlc
  refine keeps_bind (keeps_attempt (keeps_forkCall _ _)) ?_
  intro _ _
  split
  · exact keeps_bind (keeps_rejectRestore allowed hlc) fun _ _ => keeps_fail
  have hru : Allowed may prepared
      (prepared.modifySession session.id (restoreSession resumeId)) :=
    Allowed.revive hlc (fun _ => rfl) fun _ _ => rfl
  refine keeps_bind (keeps_saveOrFail fun _ hmk =>
    (allowed.trans hru).trans (Allowed.markApplied hmk)) fun _ _ => ?_
  refine keeps_bind (keeps_forkCall _ _) fun _ _ => ?_
  exact keeps_pure trivial

theorem keeps_replaceForRestore {credentialSha256 : String}
    (allowed : Allowed may before.store prepared) (hlc : may session.id) :
    Keeps (Within may before)
      (replaceForRestore prepared session launchId resumeId credentialSha256) fun _ => True := by
  refine keeps_bind (keeps_save allowed) fun _ _ => ?_
  split
  · have committed : Allowed may before.store (prepared.modifySession session.id fun session =>
        { session with sessionCredentialSha256 := some credentialSha256 }) :=
      allowed.trans (Allowed.note fun _ => ⟨rfl, rfl, rfl⟩)
    refine keeps_bind (keeps_teardownSessionForRestore _) ?_
    intro _ _
    split
    · exact keeps_bind (keeps_save committed) fun _ _ => keeps_finishRestore committed hlc
    · exact keeps_bind (keeps_save committed) fun _ _ => keeps_finishRestore committed hlc
    · refine keeps_bind (keeps_saveOrFail fun _ hmk => allowed.trans ?_) fun _ _ => keeps_fail
      exact Allowed.markInconclusive hmk hlc
  · refine keeps_bind (keeps_sessionExists _) fun _ _ => ?_
    split
    · refine keeps_bind (keeps_attempt (keeps_killSession _)) ?_
      intro _ _
      split
      · refine keeps_bind (keeps_saveOrFail fun _ hmk => allowed.trans ?_) fun _ _ => keeps_fail
        exact Allowed.markFailed hmk fun _ => hlc
      · exact keeps_finishRestore allowed hlc
    · exact keeps_finishRestore allowed hlc

theorem discoverResumeId_id (session : SessionRecord) :
    (discoverResumeId seen session).id = session.id := by
  unfold discoverResumeId
  split <;> rfl

theorem licensed_restoreCoreSessionWithRuntime (host : Host) (seen : Seen) (hlc : may sessionId) :
    Licensed may before (restoreCoreSessionWithRuntime host seen sessionId) fun _ => True := by
  refine licensed_load (keeps_bind (keeps_ensureSessionNotReparentFenced _ _) fun _ _ => ?_)
  split
  · exact keeps_pure trivial
  rename_i _ hf
  obtain ⟨_, rfl⟩ := Store.session_some hf
  split
  · exact keeps_pure trivial
  split
  · exact keeps_pure trivial
  split
  · exact keeps_pure trivial
  dsimp only
  split
  · exact keeps_pure trivial
  split
  · exact keeps_fail
  refine keeps_bind (keeps_forkCall _ _) fun _ _ => ?_
  refine keeps_bind (keeps_ofExcept fun _ made => launch_none_of_generated made) ?_
  intro _ unused
  refine keeps_replaceForRestore ?_ hlc
  exact Allowed.prepareRestore unused (by rw [discoverResumeId_id]; exact hlc)

end

section

variable {may : String → Prop} {before : World}

theorem licensed_ingestCodexForkStatus (sessionId : String) (status : SessionStatus)
    (licence : ∀ session ∈ before.store.sessions, session.isStopped = false → may session.id) :
    Licensed may before (ingestCodexForkStatus sessionId status) fun _ => True := by
  refine licensed_load ?_
  split
  · exact keeps_pure trivial
  rename_i session hf
  split
  · exact keeps_pure trivial
  rename_i watched
  have hru : session.isStopped = false := by
    simp only [Bool.or_eq_true, not_or] at watched
    exact (Bool.not_eq_true _).mp watched.2
  split
  · refine keeps_save (Allowed.trans ?_ (Allowed.finalize _))
    exact Allowed.stop (fun _ => ⟨rfl, rfl⟩) fun _ => rfl
  obtain ⟨hm, rfl⟩ := Store.session_some hf
  refine keeps_save (Allowed.revive (licence _ hm hru) (fun _ => rfl) ?_)
  intro _ hs
  rw [hf] at hs
  cases hs
  exact (isStopped_eq_false.mp hru).2

theorem licensed_applyClaudeHook (sessionId : String) (hook : ClaudeHook)
    (licence : ∀ session ∈ before.store.sessions, session.isStopped = false → may session.id) :
    Licensed may before (applyClaudeHook sessionId hook) fun _ => True := by
  refine licensed_load ?_
  split
  · exact keeps_pure trivial
  rename_i session hf
  obtain ⟨hf, -⟩ := Option.filter_eq_some_iff.mp hf
  split
  · exact keeps_pure trivial
  rename_i heard
  have hru : session.isStopped = false := by
    simp only [Bool.or_eq_true, not_or] at heard
    exact (Bool.not_eq_true _).mp heard.1
  obtain ⟨hm, hna⟩ := Store.session_some hf
  refine keeps_save (Allowed.revive (hna ▸ licence _ hm hru) hook.id_apply ?_)
  intro _ hs
  rw [hf] at hs
  cases hs
  exact (hook.isRetired_apply session).trans (isStopped_eq_false.mp hru).2

theorem licensed_deliverRuntimeText (reasonCode : String) (seen : Seen) (sessionId : String) :
    Licensed may before (deliverRuntimeText reasonCode seen sessionId) fun _ => True := by
  refine licensed_load ?_
  split
  · exact keeps_fail
  split
  · exact keeps_fail
  split
  · exact keeps_pure trivial
  split
  · exact keeps_save (Allowed.refl _)
  refine keeps_bind (keeps_sessionExists _) fun _ _ => ?_
  split
  · exact keeps_bind (keeps_call_id _) fun _ _ => keeps_save (Allowed.refl _)
  · refine keeps_save ((Allowed.finalize sessionId).trans ?_)
    exact Allowed.stop (fun _ => ⟨rfl, rfl⟩) fun _ => rfl

end

end SessionManager.Lifecycle
