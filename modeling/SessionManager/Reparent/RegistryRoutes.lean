import SessionManager.Reparent.Moves

/-! The routes of a plan that the registry holds, seen as records of one shape. A pass over the routes
changes the chosen route and no other; routes that still stand where the plan found them, active as
before or fenced, can be restored. -/
namespace SessionManager.Reparent
open Foundation Queue Fallible Option

structure JsonRoute where
  target : Option String
  active : Bool
  /-- The target follows the parent. -/
  derived : Bool
  deriving DecidableEq, Repr

def RetainedWake.route (entry : RetainedWake) : JsonRoute :=
  ⟨entry.parentSessionId, entry.isActive, true⟩

def SessionRecord.monitorRoute (session : SessionRecord) : JsonRoute :=
  ⟨session.contextMonitorNotify, session.contextMonitorEnabled,
    session.contextMonitorNotifySource = some "parent_derived"⟩

def jsonRoute (registry : Registry) (change : RoutingChange) : Option JsonRoute :=
  match change.recordKind with
  | .parentWake => (findRetainedWake registry change.recordId).map RetainedWake.route
  | .contextMonitor =>
    (findSession registry change.childSessionId).map SessionRecord.monitorRoute
  | .message => none

/-- Two planned routes that are one record of the registry. -/
def SameRoute (first second : RoutingChange) : Prop :=
  first.recordKind = second.recordKind ∧
    match first.recordKind with
    | .parentWake => first.recordId = second.recordId
    | .contextMonitor => first.childSessionId = second.childSessionId
    | .message => False

variable {route : JsonRoute}

section

variable {registry after : Registry} {change other : RoutingChange} {id : String}

structure Rewrites (setWake : RoutingChange → RetainedWake → RetainedWake)
    (setMonitor : RoutingChange → SessionRecord → SessionRecord)
    (rewrite : RoutingChange → JsonRoute → JsonRoute) : Prop where
  wakeId : ∀ change entry, (setWake change entry).id = entry.id
  sessionId : ∀ change session, (setMonitor change session).id = session.id
  wake : ∀ change entry, (setWake change entry).route = rewrite change entry.route
  monitor : ∀ change session,
    (setMonitor change session).monitorRoute = rewrite change session.monitorRoute

variable {checkWake : RoutingChange → RetainedWake → Except String Unit}
  {checkMonitor : RoutingChange → SessionRecord → Except String Unit}
  {setWake : RoutingChange → RetainedWake → RetainedWake}
  {setMonitor : RoutingChange → SessionRecord → SessionRecord}
  {rewrite : RoutingChange → JsonRoute → JsonRoute}

theorem overJsonRoute_ok (hf : jsonRoute registry change = some route)
    (wakes : ∀ entry : RetainedWake, change.recordKind = .parentWake →
      entry.route = route → checkWake change entry = .ok ())
    (monitors : ∀ session : SessionRecord, change.recordKind = .contextMonitor →
      session.monitorRoute = route → checkMonitor change session = .ok ()) :
    ∃ after, overJsonRoute checkWake checkMonitor setWake setMonitor registry change =
      .ok after := by
  unfold jsonRoute at hf
  unfold overJsonRoute
  cases kind : change.recordKind with
  | parentWake =>
    simp only [kind] at hf
    obtain ⟨entry, ht, hs⟩ := map_eq_some_iff.mp hf
    simp only [ht]
    exact ⟨_, bind_eq_ok.mpr ⟨(), wakes _ kind hs, rfl⟩⟩
  | contextMonitor =>
    simp only [kind] at hf
    obtain ⟨session, ht, hs⟩ := map_eq_some_iff.mp hf
    simp only [ht]
    exact ⟨_, bind_eq_ok.mpr ⟨(), monitors _ kind hs, rfl⟩⟩
  | message =>
    rw [kind] at hf
    cases hf

section

variable (rewrites : Rewrites setWake setMonitor rewrite)
  (hd : overJsonRoute checkWake checkMonitor setWake setMonitor registry change = .ok after)
include rewrites hd

theorem jsonRoute_overJsonRoute :
    jsonRoute after change = (jsonRoute registry change).map (rewrite change) := by
  rcases overJsonRoute_cases hd with ⟨kind, _, hf, _, result⟩ |
    ⟨kind, _, hf, _, result⟩
  · rw [result]
    simp only [jsonRoute, kind, findRetainedWake, updateRetainedWake]
    rw [find?_modifyFirst (rewrites.wakeId change), if_pos rfl, ← findRetainedWake, hf]
    exact congrArg some (rewrites.wake change _)
  · rw [result]
    simp only [jsonRoute, kind, findSession, updateSession]
    rw [find?_modifyFirst (rewrites.sessionId change), if_pos rfl, ← findSession, hf]
    exact congrArg some (rewrites.monitor change _)

theorem jsonRoute_overJsonRoute_other
    (hne : ¬SameRoute other change) : jsonRoute after other = jsonRoute registry other := by
  rcases overJsonRoute_cases hd with ⟨kind, _, _, _, result⟩ | ⟨kind, _, _, _, result⟩
  · rw [result]
    unfold jsonRoute
    split
    · rename_i otherKind
      unfold findRetainedWake updateRetainedWake
      rw [find?_modifyFirst (rewrites.wakeId change), if_neg]
      intro hs
      exact hne ⟨otherKind.trans kind.symm, by rw [otherKind]; exact hs⟩
    · rfl
    · rfl
  · rw [result]
    unfold jsonRoute
    split
    · rfl
    · rename_i otherKind
      unfold findSession updateSession
      rw [find?_modifyFirst (rewrites.sessionId change), if_neg]
      intro hs
      exact hne ⟨otherKind.trans kind.symm, by rw [otherKind]; exact hs⟩
    · rfl

end

end

section

variable {registry after : Registry} {plan : ApplyPlan} {change : RoutingChange}

/-- No record of the registry is planned twice. -/
def JsonFits (plan : ApplyPlan) : Prop :=
  ∀ first ∈ plan.jsonRoutingChanges, ∀ second ∈ plan.jsonRoutingChanges,
    SameRoute first second → first = second

/-- The route stands where the plan found it, active as before or fenced. -/
structure Restorable (change : RoutingChange) (route : JsonRoute) : Prop where
  target : route.target = change.expectedTargetSessionId
  planned : change.expectedTargetSessionId.isSome
  active : route.active = change.priorActive.getD false ∨ route.active = false
  derived : route.derived = true

def RoutesRestorable (registry : Registry) (plan : ApplyPlan) : Prop :=
  ∀ change ∈ plan.jsonRoutingChanges, ∃ route, jsonRoute registry change = some route ∧
    Restorable change route

def sessionParent (registry : Registry) (id : String) : Option (Option String) :=
  (findSession registry id).map SessionRecord.parentSessionId

/-- The edges of a plan as they were when it was made. -/
def OldEdges (registry : Registry) (plan : ApplyPlan) : Prop :=
  ∀ edge ∈ plan.edgeChanges,
    sessionParent registry edge.sessionId = some edge.expectedParentSessionId

theorem sessionParent_eq_hierarchy (registry : Registry) (id : String) : sessionParent registry id =
      ((hierarchy registry).find? fun entry => entry.1 = id).map Prod.snd := by
  simp only [sessionParent, findSession, hierarchy, List.find?_map, map_map]
  rfl

theorem sessionParent_congr {before after : Registry} (hs : hierarchy after = hierarchy before) :
    sessionParent after = sessionParent before := by
  funext id
  rw [sessionParent_eq_hierarchy, sessionParent_eq_hierarchy, hs]

def restoredRoute (change : RoutingChange) (route : JsonRoute) : JsonRoute :=
  { route with
    target := change.expectedTargetSessionId, active := change.priorActive.getD false }

theorem restore_rewrites {oldParent : String}
    (expected : change.expectedTargetSessionId = some oldParent) :
    Rewrites (fun _ entry =>
        { entry with parentSessionId := some oldParent, isActive := change.priorActive.getD false })
      (fun _ session =>
        { session with
          contextMonitorNotify := some oldParent
          contextMonitorEnabled := change.priorActive.getD false })
      (fun _ => restoredRoute change) where
  wakeId _ _ := rfl
  sessionId _ _ := rfl
  wake _ _ := by simp [RetainedWake.route, restoredRoute, expected]
  monitor _ _ := by simp [SessionRecord.monitorRoute, restoredRoute, expected]

theorem restoreJsonRoute_ok (hf : jsonRoute registry change = some route)
    (restorable : Restorable change route) :
    ∃ after, restoreJsonRoute registry change = .ok after := by
  obtain ⟨_, expected⟩ := isSome_iff_exists.mp restorable.planned
  have target := restorable.target
  rw [expected] at target
  have checks : ∀ source, (change.recordKind = .contextMonitor → source = some "parent_derived") →
      route.active = false →
      validateJsonParentRoute change route.target route.active source false = .ok () := by
    intro source derived inactive
    have passes : ¬(change.recordKind = .contextMonitor ∧ source ≠ some "parent_derived") :=
      fun both => both.2 (derived both.1)
    simp only [validateJsonParentRoute, restorable.target, inactive]
    simp [passes]
  unfold restoreJsonRoute
  rw [expected]
  refine overJsonRoute_ok hf ?_ ?_
  · intro _ kind hs
    split
    · rfl
    rename_i hne
    have inactive : route.active = false := by
      rcases restorable.active with prior | inactive
      · exact absurd ⟨by rw [← target, ← hs]; rfl, by rw [← prior, ← hs]; rfl⟩ hne
      · exact inactive
    have checked := checks none (fun monitor => by rw [kind] at monitor; cases monitor) inactive
    rw [← hs] at checked
    exact checked
  · intro session kind hs
    split
    · rfl
    rename_i hne
    have inactive : route.active = false := by
      rcases restorable.active with prior | inactive
      · exact absurd ⟨by rw [← target, ← hs]; rfl, by rw [← prior, ← hs]; rfl⟩ hne
      · exact inactive
    have source : session.contextMonitorNotifySource = some "parent_derived" := by
      have derived := restorable.derived
      rw [← hs] at derived
      simpa [SessionRecord.monitorRoute] using derived
    have checked := checks session.contextMonitorNotifySource (fun _ => source) inactive
    rw [← hs] at checked
    exact checked

theorem restoreJsonRoute_routes (hd : restoreJsonRoute registry change = .ok after) :
    jsonRoute after change = (jsonRoute registry change).map (restoredRoute change) ∧
      ∀ other, ¬SameRoute other change → jsonRoute after other = jsonRoute registry other := by
  unfold restoreJsonRoute at hd
  split at hd
  · cases hd
  · rename_i expected
    have hh := jsonRoute_overJsonRoute (restore_rewrites expected) hd
    exact ⟨hh, fun _ => jsonRoute_overJsonRoute_other (restore_rewrites expected) hd⟩

theorem Restorable.restored (restorable : Restorable change route) :
    Restorable change (restoredRoute change route) :=
  ⟨rfl, restorable.planned, .inl rfl, restorable.derived⟩

section

variable (fits : JsonFits plan) (restorable : RoutesRestorable registry plan)
include fits restorable

theorem RoutesRestorable.rewrite
    (hm : change ∈ plan.jsonRoutingChanges) {rewrite : JsonRoute → JsonRoute}
    (hh : jsonRoute after change = (jsonRoute registry change).map rewrite)
    (elsewhere : ∀ other, ¬SameRoute other change → jsonRoute after other = jsonRoute registry other)
    (hke : ∀ route, Restorable change route → Restorable change (rewrite route)) :
    RoutesRestorable after plan := by
  intro other hi
  by_cases hs : SameRoute other change
  · rw [fits _ hi change hm hs]
    obtain ⟨route, hf, hrd⟩ := restorable change hm
    exact ⟨rewrite _, by rw [hh, hf]; rfl, hke _ hrd⟩
  · rw [elsewhere _ hs]
    exact restorable _ hi

theorem RoutesRestorable.restoreJsonRoute (hm : change ∈ plan.jsonRoutingChanges)
    (hd : restoreJsonRoute registry change = .ok after) : RoutesRestorable after plan := by
  obtain ⟨hh, elsewhere⟩ := restoreJsonRoute_routes hd
  exact restorable.rewrite fits hm hh elsewhere fun _ hrd => hrd.restored

theorem restoreJsonReparentRoutes_ok :
    ∃ after, restoreJsonReparentRoutes registry plan = .ok after := by
  have steps : ∀ change ∈ plan.jsonRoutingChanges, ∀ before, RoutesRestorable before plan →
      ∃ after, restoreJsonRoute before change = .ok after ∧ RoutesRestorable after plan := by
    intro change hm before hrd
    obtain ⟨_, hf, restorable⟩ := hrd change hm
    obtain ⟨after, hd⟩ := restoreJsonRoute_ok hf restorable
    exact ⟨_, hd, hrd.restoreJsonRoute fits hm hd⟩
  obtain ⟨after, hd, _⟩ :=
    foldlM_succeeds (fun _ => RoutesRestorable _ _) steps restorable
  exact ⟨_, hd⟩

end

theorem overJsonRoute_messages {checkWake : RoutingChange → RetainedWake → Except String Unit}
    {checkMonitor : RoutingChange → SessionRecord → Except String Unit}
    {setWake : RoutingChange → RetainedWake → RetainedWake}
    {setMonitor : RoutingChange → SessionRecord → SessionRecord}
    (hd : overJsonRoute checkWake checkMonitor setWake setMonitor registry change = .ok after) :
    after.retainedPendingMessages = registry.retainedPendingMessages := by
  rcases overJsonRoute_cases hd with ⟨_, _, _, _, result⟩ | ⟨_, _, _, _, result⟩ <;>
    rw [result] <;> rfl

theorem restoreJsonReparentRoutes_messages
    (hd : restoreJsonReparentRoutes registry plan = .ok after) :
    after.retainedPendingMessages = registry.retainedPendingMessages := by
  apply foldlM_keeps
    (fun other => other.retainedPendingMessages = registry.retainedPendingMessages) hd
  · intro _ _ _ _ hsp held
    unfold restoreJsonRoute at hsp
    split at hsp
    · cases hsp
    · exact (overJsonRoute_messages hsp).trans held
  · rfl

theorem verifyOldReparentEdges_ok (old : OldEdges registry plan) :
    verifyOldReparentEdges registry plan = .ok () := by
  have each : ∀ edge ∈ plan.edgeChanges, verifyOldReparentEdge registry edge = .ok () := by
    intro edge hm
    obtain ⟨_, hf, parent⟩ := map_eq_some_iff.mp (old _ hm)
    unfold verifyOldReparentEdge
    rw [hf]
    exact if_neg (by simpa using parent)
  unfold verifyOldReparentEdges
  generalize plan.edgeChanges = edges at each
  induction edges with
  | nil => rfl
  | cons edge _ ih =>
    refine bind_eq_ok.mpr ⟨(), each _ List.mem_cons_self, ih ?_⟩
    intro _ hm
    exact each _ (List.mem_cons_of_mem _ hm)

theorem restoreReparentRouting_ok {requestId : String} {record : RequestRecord}
    (hl : leasedReparentRequest registry requestId = .ok record) (fits : JsonFits plan)
    (restorable : RoutesRestorable registry plan) (old : OldEdges registry plan) :
    ∃ after, restoreReparentRouting registry requestId plan = .ok after ∧ SameFrame registry after ∧
      after.retainedPendingMessages = registry.retainedPendingMessages := by
  obtain ⟨after, hd⟩ := restoreJsonReparentRoutes_ok fits restorable
  have hfm := restoreJsonReparentRoutes_frame hd
  have hs : OldEdges after plan := by
    intro _ hm
    rw [sessionParent_congr hfm.hierarchy]
    exact old _ hm
  refine ⟨_, ?_, hfm, restoreJsonReparentRoutes_messages hd⟩
  exact bind_eq_ok.mpr ⟨_, hl, bind_eq_ok.mpr ⟨_, hd,
    bind_eq_ok.mpr ⟨(), verifyOldReparentEdges_ok hs, rfl⟩⟩⟩

end

end SessionManager.Reparent
