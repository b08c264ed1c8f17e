import SessionManager.Foundation.KeyedTable
import SessionManager.Lifecycle.Operations
import SessionManager.Reparent.Moves

/-! What holds between the sessions, the launches and the rotations of a state file, and the changes
of the file that keep it. -/
namespace SessionManager.Lifecycle
open Foundation Sessions List
open Reparent (modifyFirst mem_modifyFirst modifyFirst_eq_map find?_modifyFirst map_modifyFirst)

structure Store.Consistent (state : Store) : Prop where
  sessionIds : (state.sessions.map SessionRecord.id).Nodup
  launchIds : (state.launches.map SessionRuntimeLaunchRecord.id).Nodup
  rotationIds : (state.rotations.map SessionCredentialRotationRecord.id).Nodup
  terminal : ∀ session ∈ state.sessions, session.isRetired = true → session.status = .stopped
  single : ∀ one ∈ state.rotations, ∀ two ∈ state.rotations, one.isActive = true →
    two.isActive = true → one.sessionId = two.sessionId → one = two
  named : ∀ rotation ∈ state.rotations, rotation.status = .relaunching →
    ∃ launch ∈ state.launches, rotation.runtimeLaunchId = some launch.id ∧
      launch.sessionId = rotation.sessionId ∧ launch.credentialRotationId = some rotation.id
  known : ∀ launch ∈ state.launches, ∀ rotationId, launch.credentialRotationId = some rotationId →
    ∃ rotation ∈ state.rotations, rotation.id = rotationId ∧ rotation.status ≠ .waitingIdle
  once : ∀ one ∈ state.launches, ∀ two ∈ state.launches, ∀ rotationId,
    one.credentialRotationId = some rotationId → two.credentialRotationId = some rotationId →
    one = two
  carried : ∀ launch ∈ state.launches, launch.isUnderWay = true →
    ∀ rotationId, launch.credentialRotationId = some rotationId →
      ∃ rotation ∈ state.rotations, rotation.id = rotationId ∧ rotation.status = .relaunching ∧
        rotation.runtimeLaunchId = some launch.id ∧ rotation.sessionId = launch.sessionId
  ended : ∀ session ∈ state.sessions, session.isRetired = true →
    ∀ rotation ∈ state.rotations, rotation.sessionId = session.id → rotation.isActive = false

theorem mem_modifyFirst_key {α : Type} {key : α → String} {values : List α} {old : α}
    (hn : (values.map key).Nodup) (hm : old ∈ values) (change : α → α) (new : α) :
    new ∈ modifyFirst (fun a => key a = key old) change values ↔
      new ∈ values ∧ key new ≠ key old ∨ new = change old := by
  rw [modifyFirst_eq_map _ hn, mem_map]
  constructor
  · rintro ⟨_, hk, rfl⟩
    split
    · next hs => exact .inr (by rw [inj_on_of_nodup_map hn hk hm hs])
    · next hne => exact .inl ⟨hk, hne⟩
  · rintro (⟨hk, hne⟩ | rfl)
    · exact ⟨new, hk, if_neg hne⟩
    · exact ⟨old, hm, if_pos rfl⟩

variable {rotation : SessionCredentialRotationRecord} {launchId : String}

theorem SessionCredentialRotationRecord.isActive_of_relaunching
    (status : rotation.status = .relaunching) :
    rotation.isActive := by
  simp [isActive, status]

namespace Store

variable {state : Store} {sessionId : String}

theorem session_some {session : SessionRecord} (hf : state.session sessionId = some session) :
    session ∈ state.sessions ∧ session.id = sessionId :=
  ⟨mem_of_find?_eq_some hf, by simpa using find?_some hf⟩

theorem session_modifySession_self (sessionId : String) {change : SessionRecord → SessionRecord}
    (ids : ∀ session, (change session).id = session.id) :
    (state.modifySession sessionId change).session sessionId =
      (state.session sessionId).map change := by
  unfold session modifySession
  rw [find?_modifyFirst ids, if_pos rfl]

theorem launch_some {launch : SessionRuntimeLaunchRecord}
    (hf : state.launch launchId = some launch) :
    launch ∈ state.launches ∧ launch.id = launchId :=
  ⟨mem_of_find?_eq_some hf, by simpa using find?_some hf⟩

theorem finalize_ended (hm : rotation ∈
      (finalizeActiveCredentialRotationsForTerminalSession state sessionId).rotations)
    (hs : rotation.sessionId = sessionId) : rotation.isActive = false := by
  obtain ⟨rotation, ht, rfl⟩ := mem_map.mp hm
  split
  · rfl
  rename_i spared
  rw [if_neg spared] at hs
  by_contra hru
  rw [Bool.not_eq_false] at hru
  refine spared (mem_map.mpr ⟨_, mem_filter.mpr ⟨ht, ?_⟩, rfl⟩)
  rw [hru, decide_eq_true hs]
  rfl

end Store

namespace Store.Consistent

variable {state : Store} (hc : state.Consistent)
include hc

theorem eq_of_session_id {one two : SessionRecord} (first : one ∈ state.sessions)
    (second : two ∈ state.sessions) (hs : one.id = two.id) : one = two :=
  inj_on_of_nodup_map hc.sessionIds first second hs

/-- Launches and rotations only come to their end, and a rotation that does has no launch under way
left. -/
theorem shrink {onLaunch : SessionRuntimeLaunchRecord → SessionRuntimeLaunchRecord}
    {onRotation : SessionCredentialRotationRecord → SessionCredentialRotationRecord}
    (launchKept : ∀ launch ∈ state.launches, (onLaunch launch).id = launch.id ∧
      (onLaunch launch).sessionId = launch.sessionId ∧
      (onLaunch launch).credentialRotationId = launch.credentialRotationId)
    (underWay : ∀ launch ∈ state.launches, (onLaunch launch).isUnderWay →
      launch.isUnderWay ∧ ∀ rotation ∈ state.rotations,
        launch.credentialRotationId = some rotation.id → onRotation rotation = rotation)
    (rotationKept : ∀ rotation, (onRotation rotation).id = rotation.id ∧
      (onRotation rotation).sessionId = rotation.sessionId)
    (active : ∀ rotation, (onRotation rotation).isActive → onRotation rotation = rotation) :
    Consistent { state with
      launches := state.launches.map onLaunch
      rotations := state.rotations.map onRotation } := by
  have stays {rotation : SessionCredentialRotationRecord}
      (hm : rotation ∈ state.rotations.map onRotation) (hru : rotation.isActive) :
      rotation ∈ state.rotations := by
    obtain ⟨old, hk, rfl⟩ := mem_map.mp hm
    rw [active old hru]
    exact hk
  refine { hc with
    launchIds := ?_
    rotationIds := ?_
    single := ?_
    named := ?_
    known := ?_
    once := ?_
    carried := ?_
    ended := ?_ }
  · rw [map_map]
    refine (map_congr_left ?_).symm ▸ hc.launchIds
    exact fun _ hm => (launchKept _ hm).1
  · rw [map_map]
    refine (map_congr_left ?_).symm ▸ hc.rotationIds
    exact fun _ _ => (rotationKept _).1
  · intro one first two second oneActive twoActive
    exact hc.single one (stays first oneActive) two (stays second twoActive) oneActive twoActive
  · intro rotation hm status
    have hru := SessionCredentialRotationRecord.isActive_of_relaunching status
    obtain ⟨launch, ht, names, session, hcr⟩ := hc.named _ (stays hm hru) status
    obtain ⟨id, ofSession, ofRotation⟩ := launchKept _ ht
    exact ⟨onLaunch _, mem_map_of_mem ht, by rw [names, id], by rw [ofSession, session],
      by rw [ofRotation, hcr]⟩
  · intro launch hm rotationId hcr
    obtain ⟨launch, hk, rfl⟩ := mem_map.mp hm
    rw [(launchKept _ hk).2.2] at hcr
    obtain ⟨rotation, ht, hna, begun⟩ := hc.known _ hk _ hcr
    refine ⟨onRotation _, mem_map_of_mem ht, (rotationKept _).1.trans hna, ?_⟩
    intro waiting
    have hun := active rotation (by simp [SessionCredentialRotationRecord.isActive, waiting])
    exact begun (hun ▸ waiting)
  · intro one first two second rotationId oneCarries twoCarries
    obtain ⟨one, oneIn, rfl⟩ := mem_map.mp first
    obtain ⟨two, twoIn, rfl⟩ := mem_map.mp second
    rw [(launchKept one oneIn).2.2] at oneCarries
    rw [(launchKept two twoIn).2.2] at twoCarries
    rw [hc.once one oneIn two twoIn _ oneCarries twoCarries]
  · intro launch hm hru rotationId hcr
    obtain ⟨launch, hk, rfl⟩ := mem_map.mp hm
    obtain ⟨id, ofSession, ofRotation⟩ := launchKept _ hk
    obtain ⟨before, spared⟩ := underWay _ hk hru
    rw [ofRotation] at hcr
    obtain ⟨rotation, ht, hna, status, names, session⟩ :=
      hc.carried _ hk before _ hcr
    have hun := spared _ ht (hna ▸ hcr)
    exact ⟨_, mem_map.mpr ⟨_, ht, hun⟩, hna, status, by rw [names, id],
      by rw [session, ofSession]⟩
  · intro session hm retired rotation ht hs
    by_contra hru
    rw [Bool.not_eq_false] at hru
    rw [hc.ended _ hm retired _ (stays ht hru) hs] at hru
    cases hru

theorem finalize (sessionId : String) :
    (finalizeActiveCredentialRotationsForTerminalSession state sessionId).Consistent := by
  refine hc.shrink ?_ ?_ ?_ ?_
  · intro launch _
    split <;> exact ⟨rfl, rfl, rfl⟩
  · intro launch _ hru
    split at hru
    · cases hru
    rename_i spared
    refine ⟨hru, ?_⟩
    intro rotation _ hcr
    rw [if_neg]
    intro active
    rw [hcr, hru] at spared
    simp [active] at spared
  · intro rotation
    split <;> exact ⟨rfl, rfl⟩
  · intro rotation hru
    split at hru
    · cases hru
    · next spared => rw [if_neg spared]

theorem withSessions {sessions : List SessionRecord} (hn : (sessions.map SessionRecord.id).Nodup)
    (allowed : ∀ session ∈ sessions, session.isRetired → session.status = .stopped ∧
      ∀ rotation ∈ state.rotations, rotation.sessionId = session.id → rotation.isActive = false) :
    Consistent { state with sessions } :=
  { hc with
    sessionIds := hn
    terminal := fun session hm retired => (allowed session hm retired).1
    ended := fun session hm retired => (allowed session hm retired).2 }

section

variable {sessionId : String} {change : SessionRecord → SessionRecord}
  (ids : ∀ session, (change session).id = session.id)
include ids

theorem modifySession (allowed : ∀ session, state.session sessionId = some session →
      (change session).isRetired = true → (change session).status = .stopped ∧
      ∀ rotation ∈ state.rotations, rotation.sessionId = (change session).id →
        rotation.isActive = false) :
    (state.modifySession sessionId change).Consistent := by
  refine hc.withSessions ?_ ?_
  · rw [map_modifyFirst ids]
    exact hc.sessionIds
  intro session hm retired
  rcases mem_modifyFirst hm with hk | ⟨old, hf, rfl⟩
  · exact ⟨hc.terminal _ hk retired, hc.ended _ hk retired⟩
  · exact allowed old hf retired

theorem amend (marks : ∀ session, (change session).isRetired = true → session.isRetired = true)
    (statuses : ∀ session, state.session sessionId = some session → session.isRetired →
      (change session).isRetired = true → session.status = .stopped →
      (change session).status = .stopped) :
    (state.modifySession sessionId change).Consistent := by
  refine hc.modifySession ids ?_
  intro session hf retired
  have hm := (session_some hf).1
  have before := marks _ retired
  refine ⟨statuses _ hf before retired (hc.terminal _ hm before), ?_⟩
  rw [ids]
  exact hc.ended _ hm before

end

variable {change : SessionRuntimeLaunchRecord → SessionRuntimeLaunchRecord} {rotationId : String}

theorem modifyLaunch
    (kept : ∀ launch ∈ state.launches, launch.id = launchId → (change launch).id = launch.id ∧
      (change launch).sessionId = launch.sessionId ∧
      (change launch).credentialRotationId = launch.credentialRotationId)
    (hsd : ∀ launch ∈ state.launches, launch.id = launchId →
      (change launch).isUnderWay = true → launch.isUnderWay = true) :
    (state.modifyLaunch launchId change).Consistent := by
  have shrunk := @shrink _ hc
    (fun launch => if launch.id = _ then change _ else _) id
    (by
      intro launch hm
      split
      · next hs => exact kept launch hm hs
      · exact ⟨rfl, rfl, rfl⟩)
    (by
      intro launch hm hru
      refine ⟨?_, fun _ _ _ => rfl⟩
      split at hru
      · next hs => exact hsd launch hm hs hru
      · exact hru)
    (fun _ => ⟨rfl, rfl⟩) (fun _ _ => rfl)
  rw [map_id] at shrunk
  unfold Store.modifyLaunch
  rw [modifyFirst_eq_map _ hc.launchIds]
  exact shrunk

theorem endLaunch (kept : ∀ launch, (change launch).id = launch.id ∧
      (change launch).sessionId = launch.sessionId ∧
      (change launch).credentialRotationId = launch.credentialRotationId)
    (hsd : ∀ launch, (change launch).isUnderWay = false) :
    (state.modifyLaunch launchId change).Consistent := by
  refine hc.modifyLaunch (fun _ _ _ => kept _) ?_
  intro launch _ _ hru
  rw [hsd] at hru
  cases hru

theorem rearmLaunch {launch again : SessionRuntimeLaunchRecord} (hm : launch ∈ state.launches)
    (hru : launch.isUnderWay) (id : again.id = launch.id)
    (session : again.sessionId = launch.sessionId)
    (rotation : again.credentialRotationId = launch.credentialRotationId) :
    (state.modifyLaunch launch.id fun _ => again).Consistent := by
  refine hc.modifyLaunch ?_ ?_
  · intro other ht hs
    rw [inj_on_of_nodup_map hc.launchIds ht hm hs]
    exact ⟨id, session, rotation⟩
  · intro other ht hs _
    rw [inj_on_of_nodup_map hc.launchIds ht hm hs]
    exact hru

theorem endRotation {change : SessionCredentialRotationRecord → SessionCredentialRotationRecord}
    (kept : ∀ rotation, (change rotation).id = rotation.id ∧
      (change rotation).sessionId = rotation.sessionId)
    (hsd : ∀ rotation, (change rotation).isActive = false)
    (free : ∀ launch ∈ state.launches, launch.isUnderWay →
      launch.credentialRotationId ≠ some rotationId) :
    (state.modifyRotation rotationId change).Consistent := by
  have shrunk := @shrink _ hc id
    (fun rotation => if rotation.id = rotationId then change _ else _)
    (fun _ _ => ⟨rfl, rfl, rfl⟩)
    (by
      intro launch hm hru
      refine ⟨hru, ?_⟩
      intro rotation _ hcr
      rw [if_neg]
      intro hs
      exact free _ hm hru (hs ▸ hcr))
    (by
      intro rotation
      split
      · exact kept _
      · exact ⟨rfl, rfl⟩)
    (by
      intro rotation hru
      split at hru
      · rw [hsd] at hru
        cases hru
      · next other => rw [if_neg other])
  rw [map_id] at shrunk
  unfold Store.modifyRotation
  rw [modifyFirst_eq_map _ hc.rotationIds]
  exact shrunk

variable {launch : SessionRuntimeLaunchRecord}

theorem free_of_endLaunch {launchId rotationId : String} (hf : state.launch launchId = some launch)
    (hcr : launch.credentialRotationId = some rotationId)
    (hsd : ∀ launch, (change launch).isUnderWay = false) :
    ∀ other ∈ (state.modifyLaunch launchId change).launches, other.isUnderWay →
      other.credentialRotationId ≠ some rotationId := by
  intro other hm otherRunning otherCarries
  obtain ⟨ht, rfl⟩ := launch_some hf
  rcases (mem_modifyFirst_key hc.launchIds ht change other).mp hm with ⟨hk, hne⟩ | rfl
  · exact hne (congrArg _ (hc.once _ hk _ ht _ otherCarries hcr))
  · rw [hsd] at otherRunning
    cases otherRunning

theorem launchIds_insert (hfr : state.launch launch.id = none) :
    ((state.launches ++ [launch]).map SessionRuntimeLaunchRecord.id).Nodup :=
  nodup_map_snoc hc.launchIds fun old hm => by
    simpa using find?_eq_none.mp hfr old hm

omit hc in
theorem old_of_carried {launch old : SessionRuntimeLaunchRecord}
    (hm : old ∈ state.launches ++ [launch]) (hca : old.credentialRotationId = some rotationId)
    (hcr : launch.credentialRotationId = none) : old ∈ state.launches := by
  rcases mem_snoc.mp hm with hk | new
  · exact hk
  · rw [new, hcr] at hca
    cases hca

theorem insertLaunch (hfr : state.launch launch.id = none)
    (hcr : launch.credentialRotationId = none) :
    Consistent { state with launches := state.launches ++ [launch] } :=
  { hc with
    launchIds := hc.launchIds_insert hfr
    named := by
      intro _ hm status
      obtain ⟨old, ht, facts⟩ := hc.named _ hm status
      exact ⟨old, mem_append_left _ ht, facts⟩
    known := by
      intro old hm rotationId hca
      exact hc.known old (old_of_carried hm hca hcr) _ hca
    once := by
      intro one first two second rotationId oneCarries twoCarries
      exact hc.once one (old_of_carried first oneCarries hcr) two
        (old_of_carried second twoCarries hcr) _ oneCarries twoCarries
    carried := by
      intro old hm hru rotationId hca
      exact hc.carried old (old_of_carried hm hca hcr) hru _ hca }

theorem insertRotation
    (hfr : state.rotation rotation.id = none) (waiting : rotation.status = .waitingIdle)
    (alone : ∀ other ∈ state.rotations, other.sessionId = rotation.sessionId →
      other.isActive = false)
    (live : ∀ session ∈ state.sessions, session.id = rotation.sessionId →
      session.isRetired = false) :
    Consistent { state with rotations := state.rotations ++ [rotation] } :=
  { hc with
    rotationIds := nodup_map_snoc hc.rotationIds fun old hm => by
      simpa using find?_eq_none.mp hfr old hm
    single := by
      intro one first two second firstActive secondActive hs
      rcases mem_snoc.mp first with oneKnown | rfl <;> rcases mem_snoc.mp second with twoKnown | rfl
      · exact hc.single one oneKnown two twoKnown firstActive secondActive hs
      · rw [alone one oneKnown hs] at firstActive
        cases firstActive
      · rw [alone two twoKnown hs.symm] at secondActive
        cases secondActive
      · rfl
    named := by
      intro other hm status
      rcases mem_snoc.mp hm with hk | rfl
      · exact hc.named _ hk status
      · rw [waiting] at status
        cases status
    known := by
      intro launch hm rotationId hcr
      obtain ⟨old, ht, facts⟩ := hc.known _ hm _ hcr
      exact ⟨old, mem_append_left _ ht, facts⟩
    carried := by
      intro launch hm hru rotationId hcr
      obtain ⟨old, ht, facts⟩ := hc.carried _ hm hru _ hcr
      exact ⟨old, mem_append_left _ ht, facts⟩
    ended := by
      intro session hm retired other ht hs
      rcases mem_snoc.mp ht with hk | rfl
      · exact hc.ended _ hm retired _ hk hs
      · rw [live _ hm hs.symm] at retired
        cases retired }

theorem launchRotation (hfr : state.launch launch.id = none)
    (hm : rotation ∈ state.rotations) (waiting : rotation.status = .waitingIdle)
    (hcr : launch.credentialRotationId = some rotation.id)
    (session : launch.sessionId = rotation.sessionId) :
    Consistent { state with
      launches := state.launches ++ [launch]
      rotations := (state.modifyRotation rotation.id fun rotation =>
        { rotation with
          status := .relaunching
          runtimeLaunchId := some launch.id }).rotations } := by
  have unlaunched : ∀ old ∈ state.launches, old.credentialRotationId ≠ some rotation.id := by
    intro old ht hca
    obtain ⟨other, hi, hna, begun⟩ := hc.known old ht rotation.id hca
    exact begun (inj_on_of_nodup_map hc.rotationIds hi hm hna ▸ waiting)
  have hru : rotation.isActive := by
    simp [SessionCredentialRotationRecord.isActive, waiting]
  unfold Store.modifyRotation
  have rows {change new} := mem_modifyFirst_key hc.rotationIds hm change new
  refine { hc with
    launchIds := hc.launchIds_insert hfr
    rotationIds := by
      rw [map_modifyFirst (by intro _; rfl)]
      exact hc.rotationIds
    single := ?_
    named := ?_
    known := ?_
    once := ?_
    carried := ?_
    ended := ?_ }
  · intro one first two second firstActive secondActive hs
    rcases rows.mp first with ⟨oneIn, oneOther⟩ | rfl <;>
      rcases rows.mp second with ⟨twoIn, twoOther⟩ | rfl
    · exact hc.single one oneIn two twoIn firstActive secondActive hs
    · exact absurd (congrArg _ (hc.single one oneIn _ hm firstActive hru hs)) oneOther
    · exact absurd (congrArg _ (hc.single two twoIn _ hm secondActive hru hs.symm)) twoOther
    · rfl
  · intro other ht status
    rcases rows.mp ht with ⟨hk, _⟩ | rfl
    · obtain ⟨old, hi, facts⟩ := hc.named _ hk status
      exact ⟨old, mem_append_left _ hi, facts⟩
    · exact ⟨_, mem_append_right _ mem_cons_self, rfl, session, hcr⟩
  · intro old ht rotationId hca
    rcases mem_snoc.mp ht with hi | new
    · obtain ⟨other, hk, hna, notWaiting⟩ := hc.known old hi _ hca
      refine ⟨_, rows.mpr (.inl ⟨hk, ?_⟩), hna, notWaiting⟩
      intro hs
      exact unlaunched old hi (by rw [hca, ← hna, hs])
    · rw [new, hcr] at hca
      exact ⟨_, rows.mpr (.inr rfl), Option.some.inj hca, by simp⟩
  · intro one first two second rotationId oneCarries twoCarries
    rcases mem_snoc.mp first with oneIn | rfl <;> rcases mem_snoc.mp second with twoIn | rfl
    · exact hc.once one oneIn two twoIn _ oneCarries twoCarries
    · rw [hcr] at twoCarries
      exact absurd (oneCarries.trans twoCarries.symm) (unlaunched one oneIn)
    · rw [hcr] at oneCarries
      exact absurd (twoCarries.trans oneCarries.symm) (unlaunched two twoIn)
    · rfl
  · intro old ht underWay rotationId hca
    rcases mem_snoc.mp ht with hi | rfl
    · obtain ⟨other, hk, hna, facts⟩ :=
        hc.carried old hi underWay _ hca
      refine ⟨_, rows.mpr (.inl ⟨hk, ?_⟩), hna, facts⟩
      intro hs
      exact unlaunched old hi (by rw [hca, ← hna, hs])
    · rw [hcr] at hca
      exact ⟨_, rows.mpr (.inr rfl), Option.some.inj hca, rfl, rfl, session.symm⟩
  · intro owner ht retired other hi hs
    rcases rows.mp hi with ⟨hk, _⟩ | rfl
    · exact hc.ended _ ht retired _ hk hs
    · rw [hc.ended _ ht retired _ hm hs] at hru
      cases hru

end Store.Consistent

end SessionManager.Lifecycle
