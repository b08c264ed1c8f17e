import SessionManager.Lifecycle.Licences

/-! What one step of the session server may do, and what every run of it keeps. -/
namespace SessionManager.Lifecycle
open Foundation Operation Sessions List

def Store.Holds (state : Store) (rotation : SessionCredentialRotationRecord) : Prop :=
  ∃ stored ∈ state.rotations, stored.id = rotation.id ∧ stored.sessionId = rotation.sessionId

/-- The task creates only licensed sessions and knows only stored rotations. -/
def Task.Founded (may : String → Prop) (state : Store) (task : Task) : Prop :=
  (∀ creation ∈ task.creation, may creation.record.id) ∧
    ∀ rotation ∈ task.rotation, state.Holds rotation

section

variable {may : String → Prop} {before : World}

variable {task : Task} {state : Store}

theorem Task.founded_of_none (creates : task.creation = none)
    (reads : task.rotation = none) : task.Founded may state := by
  refine ⟨?_, ?_⟩
  · rw [creates]
    intro _ h
    cases h
  · rw [reads]
    intro _ h
    cases h

theorem Task.founded_of_creation {creation : Creation}
    (creates : task.creation = some creation) (reads : task.rotation = none)
    (hlc : may creation.record.id) : task.Founded may state := by
  refine ⟨?_, ?_⟩
  · rw [creates]
    rintro _ ⟨⟩
    exact hlc
  · rw [reads]
    intro _ h
    cases h

theorem Task.founded_of_rotation
    {rotation : SessionCredentialRotationRecord} (creates : task.creation = none)
    (reads : task.rotation = some rotation) (holds : state.Holds rotation) :
    task.Founded may state := by
  refine ⟨?_, ?_⟩
  · rw [creates]
    intro _ h
    cases h
  · rw [reads]
    rintro _ ⟨⟩
    exact holds

theorem licensed_then_none {operation : Operation World Unit} {property : Option Task → Prop}
    (hlc : Licensed may before operation fun _ => True) (nothing : property none) :
    Licensed may before (do operation; return none) property := by
  refine ends_bind hlc ?_
  intro _ _ ran
  exact ends_pure ⟨nothing, ran.2⟩

theorem Task.licensed_run (host : Host) (seen : Seen) (founded : task.Founded may before.store)
    (launches : ∀ launch ∈ before.store.launches, launch.isUnderWay → may launch.sessionId)
    (sessions : ∀ session ∈ before.store.sessions, session.isStopped = false → may session.id) :
    Licensed may before (task.run host seen) fun next =>
      ∀ later ∈ next, later.Founded may before.store := by
  have nothing : ∀ later ∈ (none : Option Task), later.Founded may before.store := by
    intro later h
    cases h
  cases task with
  | starting creation =>
    have hlc : may creation.record.id := founded.1 _ rfl
    refine Licensed.of_keeps (keeps_bind (keeps_attempt (keeps_createSession _ hlc)) ?_)
    intro _ _
    split
    · refine keeps_pure ?_
      rintro _ ⟨⟩
      exact Task.founded_of_creation rfl rfl hlc
    · refine keeps_pure ?_
      rintro _ ⟨⟩
      exact Task.founded_of_creation rfl rfl hlc
  | acknowledging creation =>
    have hlc : may creation.record.id := founded.1 _ rfl
    refine Licensed.of_keeps (keeps_bind (keeps_attempt (keeps_awaitProviderResumeId _ _ _)) ?_)
    intro _ _
    split
    · refine keeps_pure ?_
      rintro _ ⟨⟩
      exact Task.founded_of_creation rfl rfl hlc
    · refine keeps_bind (keeps_attempt (keeps_killSession _)) fun _ _ => keeps_pure ?_
      rintro _ ⟨⟩
      exact Task.founded_of_creation rfl rfl hlc
  | failing creation =>
    exact licensed_then_none (licensed_failCreation _ _ (founded.1 _ rfl))
      nothing
  | finishing creation =>
    exact licensed_then_none (licensed_finishCreation _ (founded.1 _ rfl)) nothing
  | recovering =>
    refine licensed_then_none (licensed_recoverSessionRuntimeLaunch _ _ _ ?_) nothing
    intro launch hf
    exact launches _ (Store.launch_some hf).1
  | examining rotation =>
    have holds : before.store.Holds rotation := founded.2 _ rfl
    rw [Task.run]
    split
    · refine Licensed.of_keeps (keeps_pure ?_)
      rintro _ ⟨⟩
      exact Task.founded_of_none rfl rfl
    split
    · exact Licensed.of_keeps (keeps_pure nothing)
    refine Licensed.of_keeps (keeps_bind (keeps_sessionExists _) fun _ _ => ?_)
    split
    · refine keeps_pure ?_
      rintro _ ⟨⟩
      exact Task.founded_of_none rfl rfl
    split
    · refine keeps_pure ?_
      rintro _ ⟨⟩
      exact Task.founded_of_rotation rfl rfl holds
    · exact keeps_pure nothing
  | finalizing sessionId =>
    refine licensed_load (keeps_bind (keeps_save (Allowed.finalize _)) fun _ _ => ?_)
    exact keeps_pure nothing
  | missing sessionId =>
    refine licensed_load (keeps_bind (keeps_save (Allowed.missing _)) fun _ _ => ?_)
    exact keeps_pure nothing
  | relaunching rotation =>
    obtain ⟨_, read, readId, readSession⟩ := founded.2 _ rfl
    exact licensed_then_none
      (licensed_applyWaitingCredentialRotation _ _ read readId readSession sessions) nothing

theorem licensed_inspectRotations (sessionId : String) :
    Licensed may before (inspectRotations sessionId) fun next =>
      ∀ later ∈ next, later.Founded may before.store := by
  refine licensed_load ?_
  split
  · split
    · refine keeps_pure ?_
      rintro _ ⟨⟩
      exact Task.founded_of_none rfl rfl
    · exact keeps_fail
  · split
    · next _ _ hf _ =>
        refine keeps_pure ?_
        rintro _ ⟨⟩
        exact Task.founded_of_rotation rfl rfl ⟨_, mem_of_find?_eq_some hf, rfl, rfl⟩
    · refine keeps_pure ?_
      intro later h
      cases h

end

namespace System

variable {host : Host} {system : System}

def Event.restores (sessionId : String) : Event → Prop
  | .restore restored _ => restored = sessionId
  | _ => False

/-- A step may run, launch, add or remove a session that has a launch under way, that is live, that
is being created, that does not exist yet, or that the step is asked to restore. -/
def May (system : System) (event : Event) (sessionId : String) : Prop :=
  (∃ launch ∈ system.world.store.launches, launch.isUnderWay = true ∧
      launch.sessionId = sessionId) ∨
    (∃ session ∈ system.world.store.sessions, session.isStopped = false ∧ session.id = sessionId) ∨
    (∃ task ∈ system.tasks, ∃ creation ∈ task.creation, creation.record.id = sessionId) ∨
    (∀ session ∈ system.world.store.sessions, session.id ≠ sessionId) ∨
    Event.restores sessionId event

structure Sound (system : System) : Prop where
  consistent : system.world.store.Consistent
  reads : ∀ task ∈ system.tasks, ∀ rotation ∈ task.rotation, system.world.store.Holds rotation

structure Stepped (may : String → Prop) (before after : System) : Prop where
  within : Within may before.world after.world
  tasks : ∀ task ∈ after.tasks, task.Founded may before.world.store

variable {may : String → Prop}

theorem Sound.stepped {before after : System} (hso : before.Sound)
    (hsp : Stepped may before after) : after.Sound where
  consistent := hsp.within.store.consistent hso.consistent
  reads := by
    intro _ hm _ read
    obtain ⟨hst, ht, id, session⟩ := (hsp.tasks _ hm).2 _ read
    obtain ⟨new, hk, newId, newSession⟩ := hsp.within.store.rotations hst ht
    exact ⟨new, hk, newId.trans id, newSession.trans session⟩

theorem execute_stepped {α : Type} {operation : Operation World α}
    {property : α → Prop} (hlc : Licensed may system.world operation property)
    (fates : List Fate) {tasks : Option α → List Task}
    (hen : ∀ value, property value → ∀ task ∈ tasks (some value),
      task.Founded may system.world.store)
    (failed : ∀ task ∈ tasks none, task.Founded may system.world.store) :
    Stepped may system (system.execute operation fates tasks) := by
  have ran := hlc fates
  unfold execute
  rcases result : operation ⟨system.world, fates⟩ with ⟨value, after⟩ | ⟨_ | _, after⟩
  · rw [result] at ran
    exact ⟨ran.2, hen _ ran.1⟩
  · rw [result] at ran
    exact ⟨ran, failed⟩
  · rw [result] at ran
    refine ⟨ran, ?_⟩
    intro task h
    cases h

theorem stepped_kill (target : Target)
    (founded : ∀ task ∈ system.tasks, task.Founded may system.world.store) :
    Stepped may system { system with world := system.world.kill target } :=
  ⟨(Within.refl system.world).kill target, founded⟩

theorem Sound.founded (hso : system.Sound) (event : Event) :
    ∀ task ∈ system.tasks, task.Founded (system.May event) system.world.store := by
  intro task hm
  refine ⟨?_, hso.reads _ hm⟩
  intro _ creates
  exact .inr (.inr (.inl ⟨_, hm, _, creates, rfl⟩))

theorem may_of_launch {event : Event} : ∀ launch ∈ system.world.store.launches,
    launch.isUnderWay → system.May event launch.sessionId :=
  fun launch hm hru => .inl ⟨launch, hm, hru, rfl⟩

theorem may_of_live {event : Event} : ∀ session ∈ system.world.store.sessions,
    session.isStopped = false → system.May event session.id :=
  fun session hm hru => .inr (.inl ⟨session, hm, hru, rfl⟩)

section

variable (hso : system.Sound) (fates : List Fate) (event : Event)
include hso fates event

theorem serve_stepped : Stepped (system.May event) system (system.serve host fates event) := by
  have founded := hso.founded event
  cases event with
  | create _ seen =>
    refine execute_stepped (licensed_persistProvisionalSession _ _ _ ?_) _ ?_ ?_
    · intro sessionId hfr
      exact .inr (.inr (.inr (.inl hfr)))
    · intro _ hlc task hm
      rcases mem_snoc.mp hm with old | rfl
      · exact founded _ old
      · exact Task.founded_of_creation rfl rfl hlc
    · intro task hm
      exact founded _ (by simpa using hm)
  | retire call =>
    exact execute_stepped (licensed_retireCoreSessionWithRuntimeAuthorized _ _) _
      (fun _ _ => founded) founded
  | retireFixture call =>
    exact execute_stepped (licensed_retireCoreSessionAuthorized _ _) _
      (fun _ _ => founded) founded
  | rotate sessionId seen =>
    exact execute_stepped (licensed_createSessionCredentialRotation _ _ _) _
      (fun _ _ => founded) founded
  | inspect sessionId =>
    refine execute_stepped (licensed_inspectRotations _) _ ?_ ?_
    · intro next later task hm
      rcases mem_append.mp hm with old | new
      · exact founded _ old
      · exact later _ (by simpa using new)
    · intro task hm
      exact founded _ (by simpa using hm)
  | advance _ seen =>
    rw [serve]
    split
    · exact ⟨Within.refl _, founded⟩
    rename_i task hf
    have hm := mem_of_getElem? hf
    refine execute_stepped
      (Task.licensed_run _ _ (founded _ hm) may_of_launch may_of_live) _ ?_ ?_
    · intro next later other hi
      rcases mem_append.mp hi with old | new
      · exact founded _ (mem_of_mem_eraseIdx old)
      · exact later _ (by simpa using new)
    · intro other hi
      exact founded _ (mem_of_mem_eraseIdx (by simpa using hi))
  | restore _ seen =>
    refine execute_stepped (licensed_restoreCoreSessionWithRuntime _ _ ?_) _
      (fun _ _ => founded) founded
    exact .inr (.inr (.inr (.inr rfl)))
  | report sessionId =>
    exact execute_stepped (licensed_ingestCodexForkStatus _ _ may_of_live) _
      (fun _ _ => founded) founded
  | hook sessionId =>
    exact execute_stepped (licensed_applyClaudeHook _ _ may_of_live) _
      (fun _ _ => founded) founded
  | deliver _ sessionId seen =>
    exact execute_stepped (licensed_deliverRuntimeText _ _ _) _
      (fun _ _ => founded) founded
  | recover => exact ⟨Within.refl _, founded⟩
  | exit => exact stepped_kill _ founded
  | crash =>
    refine ⟨Within.refl _, ?_⟩
    intro task h
    cases h

theorem step_stepped : Stepped (system.May event) system (system.step host fates event) := by
  have founded := hso.founded event
  unfold step
  split
  · exact serve_stepped hso _ _
  split
  · next seen =>
      unfold recoverNext
      split
      · exact ⟨Within.refl _, founded⟩
      rename_i launch _
      have idle : ∀ task ∈ ([] : List Task),
          task.Founded (system.May (.recover seen)) system.world.store := by
        intro task h
        cases h
      have recovered : Stepped (system.May (.recover seen)) system (system.execute
          (recoverSessionRuntimeLaunch host seen launch.id) fates fun _ => []) :=
        execute_stepped
          (licensed_recoverSessionRuntimeLaunch _ _ launch.id fun _ hf =>
            may_of_launch _ (Store.launch_some hf).1) _
          (fun _ _ => idle) idle
      exact ⟨recovered.within, recovered.tasks⟩
  · exact stepped_kill _ founded
  · exact ⟨Within.refl _, founded⟩

theorem Sound.step : (system.step host fates event).Sound :=
  hso.stepped (step_stepped hso fates event)

end

theorem Sound.run (hso : system.Sound) (events : List (List Fate × Event)) :
    (system.run host events).Sound := by
  induction events generalizing system with
  | nil => exact hso
  | cons event _ ih => exact ih (hso.step event.1 event.2)

end System

end SessionManager.Lifecycle
