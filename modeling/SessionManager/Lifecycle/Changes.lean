import SessionManager.Lifecycle.Consistency

/-! What an operation may do to the state file. A session may be made to run, be given a launch, be
added or removed only if the operation has a licence for it; any other session may at most be
stopped. -/
namespace SessionManager.Lifecycle
open Foundation Sessions List
open Reparent (modifyFirst mem_modifyFirst modifyFirst_eq_map map_modifyFirst)

structure Allowed (may : String → Prop) (before after : Store) : Prop where
  launching : ∀ launch ∈ after.launches, launch.isUnderWay = true → may launch.sessionId ∨
    ∃ old ∈ before.launches, old.isUnderWay = true ∧ old.sessionId = launch.sessionId
  present : ∀ old ∈ before.sessions, may old.id ∨ ∃ new ∈ after.sessions, new.id = old.id
  stopped : ∀ new ∈ after.sessions, may new.id ∨ ∃ old ∈ before.sessions, old.id = new.id ∧
    (new.status = .stopped ∨ new.status = old.status)
  rotations : ∀ old ∈ before.rotations, ∃ new ∈ after.rotations, new.id = old.id ∧
    new.sessionId = old.sessionId
  consistent : before.Consistent → after.Consistent

namespace Allowed

variable {may : String → Prop}

theorem refl (state : Store) : Allowed may state state where
  launching := fun launch hm hru => .inr ⟨launch, hm, hru, rfl⟩
  present := fun old hm => .inr ⟨old, hm, rfl⟩
  stopped := fun new hm => .inr ⟨new, hm, rfl, .inr rfl⟩
  rotations := fun old hm => ⟨old, hm, rfl, rfl⟩
  consistent := id

theorem trans {first second third : Store} (earlier : Allowed may first second)
    (later : Allowed may second third) : Allowed may first third where
  launching := by
    intro launch hm hru
    rcases later.launching launch hm hru with hlc | ⟨middle, ht, under, hs⟩
    · exact .inl hlc
    · rw [← hs]
      exact earlier.launching _ ht under
  present := by
    intro old hm
    rcases earlier.present old hm with hlc | ⟨middle, ht, hs⟩
    · exact .inl hlc
    · rw [← hs]
      exact later.present _ ht
  stopped := by
    intro new hm
    rcases later.stopped new hm with hlc | ⟨middle, ht, hs, how⟩
    · exact .inl hlc
    · rw [← hs]
      rcases earlier.stopped middle ht with hlc | ⟨old, hk, hna, before⟩
      · exact .inl hlc
      · refine .inr ⟨old, hk, hna, ?_⟩
        rcases how with ends | kept
        · exact .inl ends
        · rw [kept]
          exact before
  rotations := by
    intro old hm
    obtain ⟨middle, ht, id, session⟩ := earlier.rotations old hm
    obtain ⟨new, hk, newId, newSession⟩ := later.rotations _ ht
    exact ⟨new, hk, newId.trans id, newSession.trans session⟩
  consistent := fun before => later.consistent (earlier.consistent before)

variable {state : Store}

theorem withSessions {sessions : List SessionRecord}
    (present : ∀ old ∈ state.sessions, may old.id ∨ ∃ new ∈ sessions, new.id = old.id)
    (hsd : ∀ new ∈ sessions, may new.id ∨ ∃ old ∈ state.sessions, old.id = new.id ∧
      (new.status = .stopped ∨ new.status = old.status))
    (hc : state.Consistent → Store.Consistent { state with sessions }) :
    Allowed may state { state with sessions } where
  launching := (refl state).launching
  present := present
  stopped := hsd
  rotations := fun old hm => ⟨old, hm, rfl, rfl⟩
  consistent := hc

variable {sessionId : String} {change : SessionRecord → SessionRecord} {rotationId : String}
  {launch : SessionRuntimeLaunchRecord} {after : Store} {rotation : SessionCredentialRotationRecord}
  {launchId : String} {launchId credentialSha256 : String} {session : SessionRecord}
  {resumeId : Option String}

theorem modifySession (ids : ∀ session, (change session).id = session.id)
    (statuses : may sessionId ∨ ∀ session,
      (change session).status = .stopped ∨ (change session).status = session.status)
    (hc : state.Consistent → (state.modifySession sessionId change).Consistent) :
    Allowed may state (state.modifySession sessionId change) := by
  refine withSessions ?_ ?_ hc
  · intro old hm
    right
    have kept : (state.modifySession sessionId change).sessions.map SessionRecord.id =
        state.sessions.map SessionRecord.id := map_modifyFirst ids state.sessions
    have ht : old.id ∈ state.sessions.map SessionRecord.id := mem_map_of_mem hm
    rw [← kept] at ht
    exact mem_map.mp ht
  · intro new hm
    rcases mem_modifyFirst hm with hk | ⟨old, hf, rfl⟩
    · exact .inr ⟨new, hk, rfl, .inr rfl⟩
    · obtain ⟨ht, hna⟩ := Store.session_some hf
      rw [ids]
      rcases statuses with hlc | statuses
      · exact .inl (hna ▸ hlc)
      · exact .inr ⟨old, ht, rfl, statuses old⟩

/-- A change of fields that decide neither whether the session runs nor whether it is terminal. -/
theorem note
    (kept : ∀ session, (change session).id = session.id ∧ (change session).status = session.status ∧
      (change session).completionStatus = session.completionStatus) :
    Allowed may state (state.modifySession sessionId change) := by
  refine modifySession (fun _ => (kept _).1)
    (.inr fun _ => .inr (kept _).2.1) ?_
  intro hc
  refine hc.amend (fun _ => (kept _).1) ?_ ?_
  · intro session retired
    unfold SessionRecord.isRetired at retired ⊢
    rwa [(kept session).2.2] at retired
  · intro session _ _ _ ends
    exact (kept _).2.1.trans ends

theorem stop (kept : ∀ session, (change session).id = session.id ∧
      (change session).completionStatus = session.completionStatus)
    (ends : ∀ session, (change session).status = .stopped) :
    Allowed may state (state.modifySession sessionId change) := by
  refine modifySession (fun _ => (kept _).1) (.inr fun _ => .inl (ends _)) ?_
  intro hc
  refine hc.amend (fun _ => (kept _).1) ?_ (fun _ _ _ _ _ => ends _)
  intro session retired
  unfold SessionRecord.isRetired at retired ⊢
  rwa [(kept session).2] at retired

theorem revive (hlc : may sessionId) (ids : ∀ session, (change session).id = session.id)
    (live : ∀ session, state.session sessionId = some session →
      (change session).isRetired = false) :
    Allowed may state (state.modifySession sessionId change) := by
  refine modifySession ids (.inl hlc) ?_
  intro hc
  refine hc.modifySession ids ?_
  intro session hf retired
  rw [live _ hf] at retired
  cases retired

theorem endLaunch {change : SessionRuntimeLaunchRecord → SessionRuntimeLaunchRecord}
    (kept : ∀ launch, (change launch).id = launch.id ∧
      (change launch).sessionId = launch.sessionId ∧
      (change launch).credentialRotationId = launch.credentialRotationId)
    (ends : ∀ launch, (change launch).isUnderWay = false) :
    Allowed may state (state.modifyLaunch launchId change) where
  launching := by
    intro launch hm hru
    rcases mem_modifyFirst hm with hk | ⟨old, _, rfl⟩
    · exact .inr ⟨_, hk, hru, rfl⟩
    · rw [ends] at hru
      cases hru
  present := (refl state).present
  stopped := (refl state).stopped
  rotations := fun old hm => ⟨old, hm, rfl, rfl⟩
  consistent := fun hc => hc.endLaunch kept ends

theorem rearmLaunch {launch again : SessionRuntimeLaunchRecord} (hm : launch ∈ state.launches)
    (hru : launch.isUnderWay) (id : again.id = launch.id)
    (session : again.sessionId = launch.sessionId)
    (rotation : again.credentialRotationId = launch.credentialRotationId) :
    Allowed may state (state.modifyLaunch launch.id fun _ => again) where
  launching := by
    intro _ ht underWay
    rcases mem_modifyFirst ht with hk | ⟨_, _, rfl⟩
    · exact .inr ⟨_, hk, underWay, rfl⟩
    · exact .inr ⟨_, hm, hru, session.symm⟩
  present := (refl _).present
  stopped := (refl _).stopped
  rotations := fun old hm => ⟨old, hm, rfl, rfl⟩
  consistent := fun hc => hc.rearmLaunch hm hru id session rotation

section

variable {change : SessionCredentialRotationRecord → SessionCredentialRotationRecord}
  (kept : ∀ rotation, (change rotation).id = rotation.id ∧ (change rotation).sessionId = rotation.sessionId)
include kept

theorem rotations_modifyRotation :
    ∀ old ∈ state.rotations, ∃ new ∈ (state.modifyRotation rotationId change).rotations,
      new.id = old.id ∧ new.sessionId = old.sessionId := by
  intro old hm
  let identity := fun rotation : SessionCredentialRotationRecord => (rotation.id, rotation.sessionId)
  have hs : (state.modifyRotation rotationId change).rotations.map identity =
      state.rotations.map identity :=
    map_modifyFirst (fun _ => Prod.ext (kept _).1 (kept _).2) state.rotations
  have ht : identity old ∈ state.rotations.map identity := mem_map_of_mem hm
  rw [← hs] at ht
  obtain ⟨new, hk, heq⟩ := mem_map.mp ht
  exact ⟨new, hk, congrArg Prod.fst heq, congrArg Prod.snd heq⟩

theorem modifyRotation
    (hc : state.Consistent → (state.modifyRotation rotationId change).Consistent) :
    Allowed may state (state.modifyRotation rotationId change) where
  launching := (refl state).launching
  present := (refl state).present
  stopped := (refl state).stopped
  rotations := rotations_modifyRotation kept
  consistent := hc

end

theorem finalize (sessionId : String) :
    Allowed may state (finalizeActiveCredentialRotationsForTerminalSession state sessionId) where
  launching := by
    intro _ hm hru
    obtain ⟨old, ht, rfl⟩ := mem_map.mp hm
    split at hru
    · cases hru
    · next spared =>
        rw [if_neg spared]
        exact .inr ⟨old, ht, hru, rfl⟩
  present := (refl _).present
  stopped := (refl _).stopped
  rotations := by
    intro old hm
    refine ⟨_, mem_map_of_mem hm, ?_⟩
    split <;> exact ⟨rfl, rfl⟩
  consistent := fun hc => hc.finalize sessionId

theorem missing (sessionId : String) :
    Allowed may state (markSessionRuntimeMissingTerminal state sessionId) := by
  refine (finalize _).trans (modifySession ?_ (.inr ?_) ?_)
  · intro session
    split <;> rfl
  · intro session
    split
    · exact .inr rfl
    · exact .inl rfl
  · intro hc
    refine hc.amend ?_ ?_ ?_
    · intro session
      split <;> rfl
    · intro session retired
      split at retired <;> exact retired
    · intro session _ _ _ ends
      split
      · exact ends
      · rfl

theorem close {onLaunch : SessionRuntimeLaunchRecord → SessionRuntimeLaunchRecord}
    {onRotation : SessionCredentialRotationRecord → SessionCredentialRotationRecord}
    (hf : state.launch launchId = some launch)
    (launchKept : ∀ launch, (onLaunch launch).id = launch.id ∧
      (onLaunch launch).sessionId = launch.sessionId ∧
      (onLaunch launch).credentialRotationId = launch.credentialRotationId)
    (launchEnds : ∀ launch, (onLaunch launch).isUnderWay = false)
    (rotationKept : ∀ rotation, (onRotation rotation).id = rotation.id ∧
      (onRotation rotation).sessionId = rotation.sessionId)
    (rotationEnds : ∀ rotation, (onRotation rotation).isActive = false)
    (hcr : launch.credentialRotationId = some rotationId) :
    Allowed may state
      ((state.modifyLaunch launchId onLaunch).modifyRotation rotationId onRotation) := by
  have hen : Allowed may state (state.modifyLaunch launchId onLaunch) :=
    endLaunch launchKept launchEnds
  refine ⟨hen.launching, hen.present, hen.stopped, ?_, ?_⟩
  · exact @rotations_modifyRotation (state.modifyLaunch _ _) _ _ rotationKept
  · intro hc
    exact (hen.consistent hc).endRotation rotationKept rotationEnds
      (hc.free_of_endLaunch hf hcr launchEnds)

theorem markApplied (hmk : markRuntimeLaunchApplied state launchId resumeId = .ok after) :
    Allowed may state after := by
  unfold markRuntimeLaunchApplied at hmk
  cases hf : state.launch launchId with
  | none =>
    rw [hf] at hmk
    cases hmk
  | some launch =>
    rw [hf] at hmk
    dsimp only at hmk
    cases hcr : launch.credentialRotationId with
    | none =>
      rw [hcr] at hmk
      cases hmk
      exact endLaunch (fun _ => ⟨rfl, rfl, rfl⟩) fun _ => rfl
    | some =>
      rw [hcr] at hmk
      dsimp only at hmk
      split at hmk
      · cases hmk
      cases hmk
      refine close hf ?_ ?_ ?_ ?_ hcr
      · exact fun _ => ⟨rfl, rfl, rfl⟩
      · exact fun _ => rfl
      · exact fun _ => ⟨rfl, rfl⟩
      · exact fun _ => rfl

theorem failLaunch_ok {launchId reason : String}
    (failed : failLaunch state launchId reason = .ok (launch, after)) :
    state.launch launchId = some launch ∧ after = state.modifyLaunch launchId fun launch =>
      { launch with status := .failed, failureReason := some reason } := by
  unfold failLaunch at failed
  cases hf : state.launch launchId with
  | none =>
    rw [hf] at failed
    cases failed
  | some =>
    rw [hf] at failed
    cases failed
    exact ⟨rfl, rfl⟩

theorem markFailed {launchId sessionId reason : String} {remove : Bool}
    (hmk : markRuntimeLaunchFailed state launchId sessionId remove reason = .ok after)
    (hlc : remove → may sessionId) : Allowed may state after := by
  obtain ⟨⟨launch, _⟩, hd, rfl⟩ := Fallible.map_eq_ok.mp hmk
  obtain ⟨hf, rfl⟩ := failLaunch_ok hd
  have hen : Allowed may state (failCarriedRotation launch reason
      (state.modifyLaunch launchId fun launch =>
        { launch with status := .failed, failureReason := some reason })) := by
    unfold failCarriedRotation
    split
    · exact endLaunch (fun _ => ⟨rfl, rfl, rfl⟩) fun _ => rfl
    rename_i _ hcr
    refine close hf ?_ ?_ ?_ ?_ hcr
    · exact fun _ => ⟨rfl, rfl, rfl⟩
    · exact fun _ => rfl
    · exact fun _ => ⟨rfl, rfl⟩
    · exact fun _ => rfl
  refine hen.trans ?_
  dsimp only
  split
  · next removing =>
      refine withSessions ?_ ?_ ?_
      · intro old hm
        by_cases hs : old.id = sessionId
        · exact .inl (hs ▸ hlc removing)
        · exact .inr ⟨old, mem_filter.mpr ⟨hm, by simpa using hs⟩, rfl⟩
      · intro new hm
        exact .inr ⟨new, mem_of_mem_filter hm, rfl, .inr rfl⟩
      · intro hc
        refine hc.withSessions (hc.sessionIds.sublist (filter_sublist.map _)) ?_
        intro _ hm retired
        have hk := mem_of_mem_filter hm
        exact ⟨hc.terminal _ hk retired, hc.ended _ hk retired⟩
  · exact (finalize _).trans (stop (fun _ => ⟨rfl, rfl⟩) fun _ => rfl)

theorem markInconclusive {code launchId sessionId reason : String}
    (hmk : markRuntimeLaunchRestoreInconclusive code state launchId sessionId reason = .ok after)
    (hlc : may sessionId) : Allowed may state after := by
  obtain ⟨⟨launch, _⟩, hd, rfl⟩ := Fallible.map_eq_ok.mp hmk
  obtain ⟨_, rfl⟩ := failLaunch_ok hd
  have hen : Allowed may state (state.modifyLaunch launchId fun launch =>
      { launch with status := .failed, failureReason := some reason }) :=
    endLaunch (fun _ => ⟨rfl, rfl, rfl⟩) fun _ => rfl
  exact hen.trans (revive hlc (fun _ => rfl) fun _ _ => rfl)

theorem failRotation {reason : String}
    (hm : rotation ∈ state.rotations) (waiting : rotation.status = .waitingIdle) :
    Allowed may state (failRotation state rotation.id reason) := by
  refine modifyRotation (fun _ => ⟨rfl, rfl⟩) ?_
  intro hc
  refine hc.endRotation (fun _ => ⟨rfl, rfl⟩) (fun _ => rfl) ?_
  intro _ ht _ hcr
  obtain ⟨_, hk, hna, begun⟩ := hc.known _ ht rotation.id hcr
  exact begun (inj_on_of_nodup_map hc.rotationIds hk hm hna ▸ waiting)

theorem retire (call : RetireCall) (disposition : Option TmuxDisposition) :
    Allowed may state (retireRecord state call disposition) := by
  refine (finalize call.sessionId).trans ?_
  refine modifySession (fun _ => rfl) (.inr fun _ => .inl rfl) ?_
  intro hc
  refine hc.modifySession (fun _ => rfl) ?_
  intro _ hf _
  refine ⟨rfl, ?_⟩
  intro _ hm hs
  exact Store.finalize_ended hm (hs.trans (Store.session_some hf).2)

theorem insertLaunch (hfr : state.launch launch.id = none)
    (hcr : launch.credentialRotationId = none) (hlc : may launch.sessionId) :
    Allowed may state { state with launches := state.launches ++ [launch] } where
  launching := by
    intro _ hm hru
    rcases mem_snoc.mp hm with hk | new
    · exact .inr ⟨_, hk, hru, rfl⟩
    · exact .inl (new ▸ hlc)
  present := (refl _).present
  stopped := (refl _).stopped
  rotations := fun old hm => ⟨old, hm, rfl, rfl⟩
  consistent := fun hc => hc.insertLaunch hfr hcr

theorem insertSession (live : session.isRetired = false)
    (hfr : ∀ other ∈ state.sessions, other.id ≠ session.id) (hlc : may session.id) :
    Allowed may state { state with sessions := state.sessions ++ [session] } := by
  refine withSessions ?_ ?_ ?_
  · intro old hm
    exact .inr ⟨old, mem_append_left _ hm, rfl⟩
  · intro new hm
    rcases mem_snoc.mp hm with hk | added
    · exact .inr ⟨new, hk, rfl, .inr rfl⟩
    · exact .inl (added ▸ hlc)
  · intro hc
    refine hc.withSessions ?_ ?_
    · exact nodup_map_snoc hc.sessionIds hfr
    intro other hm retired
    rcases mem_snoc.mp hm with hk | added
    · exact ⟨hc.terminal _ hk retired, hc.ended _ hk retired⟩
    · rw [added, live] at retired
      cases retired

theorem insertProvisional {record : SessionRecord}
    (live : record.isRetired = false) (hfr : ∀ other ∈ state.sessions, other.id ≠ record.id)
    (unused : state.launch launch.id = none) (hcr : launch.credentialRotationId = none) (hlc : may record.id)
    (hs : launch.sessionId = record.id) :
    Allowed may state (insertProvisional state record launch) := by
  have added : Allowed may state { state with sessions := state.sessions ++ [record] } :=
    insertSession live hfr hlc
  refine added.trans ?_
  exact @insertLaunch may { state with sessions := state.sessions ++ [record] } _ unused
    hcr (hs ▸ hlc)

theorem insertRotation
    (hfr : state.rotation rotation.id = none) (waiting : rotation.status = .waitingIdle)
    (alone : ∀ other ∈ state.rotations, other.sessionId = rotation.sessionId →
      other.isActive = false)
    (live : state.Consistent → ∀ session ∈ state.sessions, session.id = rotation.sessionId →
      session.isRetired = false) :
    Allowed may state { state with rotations := state.rotations ++ [rotation] } where
  launching := (refl state).launching
  present := (refl state).present
  stopped := (refl state).stopped
  rotations := fun old hm => ⟨old, mem_append_left _ hm, rfl, rfl⟩
  consistent := fun hc =>
    hc.insertRotation hfr waiting alone (live hc)

/-- A licensed session stops, and its waiting rotation is put under way with a launch. The task that
does so may have read the rotation earlier, but not another one under its id. -/
theorem prepareRotation {rotation stored waiting : SessionCredentialRotationRecord}
    (unused : state.launch launchId = none) (hf : state.session rotation.sessionId = some session)
    (read : stored ∈ state.rotations) (readId : stored.id = rotation.id)
    (readSession : stored.sessionId = rotation.sessionId) (hm : waiting ∈ state.rotations)
    (hna : waiting.id = rotation.id) (waits : waiting.status = .waitingIdle)
    (hlc : may session.id) :
    Allowed may state (prepareRotation state rotation session launchId credentialSha256) := by
  have stops : Allowed may state (state.modifySession rotation.sessionId fun session =>
      { session.stop with sessionCredentialSha256 := some credentialSha256 }) :=
    stop (fun _ => ⟨rfl, rfl⟩) fun _ => rfl
  refine ⟨?_, stops.present, stops.stopped, ?_, ?_⟩
  · intro launch ht hru
    rcases mem_snoc.mp ht with hk | rfl
    · exact .inr ⟨_, hk, hru, rfl⟩
    · exact .inl hlc
  · exact @rotations_modifyRotation _ rotation.id _ fun _ => ⟨rfl, rfl⟩
  · intro hc
    have hs := inj_on_of_nodup_map hc.rotationIds read hm (readId.trans hna.symm)
    have hfr : (state.modifySession rotation.sessionId fun session =>
        { session.stop with sessionCredentialSha256 := some credentialSha256 }).launch
          (rotationLaunch rotation session _ credentialSha256).id = none := unused
    have launched := (stops.consistent hc).launchRotation hfr hm waits
      (by rw [hna]; rfl) (by rw [← hs, readSession]; exact (Store.session_some hf).2)
    rw [hna] at launched
    exact launched

theorem prepareRestore {found : SessionRecord}
    (unused : state.launch launchId = none) (hlc : may found.id) :
    Allowed may state (prepareRestore state found launchId credentialSha256 resumeId) := by
  have admitted : Allowed may state (state.modifySession found.id fun session =>
      { session with
        sessionCredentialSha256 :=
          if session.provider = .codexFork then session.sessionCredentialSha256
          else some credentialSha256
        providerResumeId := resumeId.or session.providerResumeId
        transcriptResumeId := found.transcriptResumeId.or session.transcriptResumeId }) :=
    note fun _ => ⟨rfl, rfl, rfl⟩
  refine admitted.trans ?_
  exact @insertLaunch may (state.modifySession found.id _)
    (restoreLaunch found _ _ _) unused rfl hlc

end Allowed

end SessionManager.Lifecycle
