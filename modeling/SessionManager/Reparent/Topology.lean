import SessionManager.Foundation.ParentGraph
import SessionManager.Foundation.Text
import SessionManager.Reparent.Records

/-! What a reparent request would do to the session hierarchy, and when it may still do it: the edge
changes of single and tree requests, the two cycle checks, the approvals, the comparison of a request
with the present sessions, and the refresh that retires requests which can no longer be applied. -/
namespace SessionManager.Reparent
open Foundation Sessions Queue List Function ParentGraph

section

def isPrimaryNode (node : String) : Bool := trim node = "" || trim node = "primary"

def sessionSupportsReparentConsent (session : SessionRecord) : Bool :=
  isPrimaryNode session.node && ["claude", "codex", "codex-fork"].contains session.provider &&
    (session.sessionCredentialSha256.isSome || session.providerResumeId.isSome)

def stoppedRootRecoverySourceEligible (source : SessionRecord) : Bool :=
  isStopped source.status source.completionStatus && source.parentSessionId.isNone

def approvalsSatisfied (requiredAgentApprovals : List String) (requiredHumanApproval : Bool)
    (approvals : List ApprovalRecord) : Bool :=
  (requiredAgentApprovals.all fun required => approvals.any fun approval =>
    approval.actorKind = .agent && approval.actorId = required && approval.decision = .approved) &&
  (!requiredHumanApproval || approvals.any fun approval =>
    approval.actorKind = .human && approval.decision = .approved)

end

section

def treeReparentEdgeChanges (sourceSessionId targetSessionId : String)
    (expectedSourceParentSessionId targetParentSessionId expectedTargetParentSessionId :
      Option String)
    (frozenLiveChildIds : List String) (peerRootSuccession stoppedRootRecovery : Bool) :
    List EdgeChange :=
  (if stoppedRootRecovery then [⟨targetSessionId, expectedTargetParentSessionId, none⟩]
    else if peerRootSuccession then []
    else [⟨targetSessionId, some sourceSessionId, targetParentSessionId⟩]) ++
  ⟨sourceSessionId, expectedSourceParentSessionId, some targetSessionId⟩ ::
  (frozenLiveChildIds.filter fun child => child ≠ targetSessionId).map fun child =>
    ⟨child, some sourceSessionId, some targetSessionId⟩

def treeTargetParentSessionId (record : RequestRecord) : Option String :=
  if record.detachNonLiveParent && !record.expectedParentIsLive then none
  else record.expectedParentSessionId

/-- The edge changes that the immutable fields of a request stand for. -/
def requestEdgeChanges (record : RequestRecord) : List EdgeChange :=
  match record.kind with
  | .tree => treeReparentEdgeChanges record.subjectSessionId record.targetParentSessionId
      record.expectedParentSessionId (treeTargetParentSessionId record)
      record.expectedTargetParentSessionId record.frozenLiveChildIds record.peerRootSuccession
      record.stoppedRootRecovery
  | .single => [⟨record.subjectSessionId, record.expectedParentSessionId,
      some record.targetParentSessionId⟩]

def reparentTopologyFingerprint (kind : RequestKind)
    (subjectSessionId targetParentSessionId : String)
    (expectedParentSessionId expectedTargetParentSessionId : Option String)
    (frozenLiveChildIds : List String) (peerRootSuccession stoppedRootRecovery : Bool) :
    TopologyFingerprint :=
  { kind, subjectSessionId, targetParentSessionId, expectedParentSessionId
    frozenLiveChildIds := frozenLiveChildIds.insertionSort (· ≤ ·)
    treeMode :=
      if stoppedRootRecovery then
        some (.stoppedRootRecovery (expectedTargetParentSessionId.getD ""))
      else if peerRootSuccession then some .peerRootSuccession
      else none }

def requestFingerprint (record : RequestRecord) : TopologyFingerprint :=
  reparentTopologyFingerprint record.kind record.subjectSessionId record.targetParentSessionId
    record.expectedParentSessionId record.expectedTargetParentSessionId record.frozenLiveChildIds
    record.peerRootSuccession record.stoppedRootRecovery

end

section

/-- The parents after the changes, a later change of a session replacing an earlier one. -/
def changedParents (parents : String → Option String) (changes : List EdgeChange) :
    String → Option String :=
  changes.foldl (fun parents change =>
    Function.update parents change.sessionId change.newParentSessionId) parents

variable (registry : Registry)

def sessionIds : List String := registry.sessions.map SessionRecord.id

def reparentPlanWouldCreateCycle (changes : List EdgeChange) : Bool :=
  let keys := sessionIds registry ++ changes.map EdgeChange.sessionId
  keys.any fun start => ParentGraph.revisits (changedParents (parentOf registry) changes)
    (keys.length + 1) [] (some start)

/-- The walk upwards from the target. The subject counts as visited from the start. -/
def reparentWouldCreateCycle (subjectSessionId targetParentSessionId : String) : Bool :=
  subjectSessionId = targetParentSessionId ||
    ParentGraph.revisits (parentOf registry) ((sessionIds registry).length + 2) [subjectSessionId]
      (some targetParentSessionId)

theorem parentOf_mem {id : String} (has : parentOf registry id ≠ none) :
    id ∈ sessionIds registry := by
  unfold parentOf findSession at has
  cases hf : registry.sessions.find? fun session => session.id = id with
  | none => simp [hf] at has
  | some session =>
    have hm := mem_of_find?_eq_some hf
    have hs : session.id = id := by simpa using find?_some hf
    rw [← hs]
    exact mem_map_of_mem hm

theorem changedParents_mem {parents : String → Option String} {keys : List String}
    (hk : ∀ id, parents id ≠ none → id ∈ keys) (changes : List EdgeChange) {id : String}
    (has : changedParents parents changes id ≠ none) :
    id ∈ keys ++ changes.map EdgeChange.sessionId := by
  induction changes generalizing parents keys with
  | nil => simpa using hk id has
  | cons change _ ih =>
    have step : ∀ id, Function.update parents change.sessionId change.newParentSessionId id ≠ none →
        id ∈ keys ++ [change.sessionId] := by
      intro id has
      by_cases hh : id = change.sessionId
      · simp [hh]
      · rw [update_of_ne hh] at has
        simp [hk id has]
    have hi := ih step has
    simpa using hi

theorem reparentPlanWouldCreateCycle_eq_false (changes : List EdgeChange) :
    reparentPlanWouldCreateCycle registry changes = false ↔
      ParentGraph.Acyclic (changedParents (parentOf registry) changes) := by
  have hk : ∀ id, changedParents (parentOf registry) changes id ≠ none →
      id ∈ sessionIds registry ++ changes.map EdgeChange.sessionId := by
    intro id has
    exact changedParents_mem (fun id => parentOf_mem _) _ has
  rw [acyclic_iff_not_revisits hk, reparentPlanWouldCreateCycle, any_eq_false]
  simp only [Bool.not_eq_true]

theorem climb_ne_of_not_wouldCreateCycle {subject target : String}
    (fine : reparentWouldCreateCycle registry subject target = false) (n : Nat) :
    ParentGraph.climb (parentOf registry) n target ≠ some subject := by
  simp only [reparentWouldCreateCycle, Bool.or_eq_false_iff] at fine
  intro hr
  exact not_visited_of_not_revisits fine.2 hr mem_cons_self

end

section

variable (registry : Registry) (record : RequestRecord)

def liveChildren (sessionId : String) : List String :=
  (registry.sessions.filter fun session => session.isLiveForRegistry &&
    session.parentSessionId = some sessionId).map SessionRecord.id

def stoppedRootStaleReason (target : SessionRecord) : Option String :=
  if target.parentSessionId ≠ record.expectedTargetParentSessionId then
    some "stopped-root successor parent changed after request creation"
  else if !record.expectedTargetParentIsLive then
    some "stopped-root successor did not have a live parent at request creation"
  else
    match record.expectedTargetParentSessionId with
    | none => some "stopped-root successor parent is missing from request plan"
    | some targetParentId =>
      match findSession registry targetParentId with
      | none => some "stopped-root successor parent no longer exists"
      | some targetParent =>
        if !targetParent.isLiveForRegistry || !sessionSupportsReparentConsent targetParent then
          some "stopped-root successor parent can no longer consent"
        else if record.stoppedRootAuthorizedMaintainerSessionId ≠ some targetParentId then
          some "stopped-root request lacks durable maintainer authorization binding"
        else
          match registry.maintainerSessionId with
          | none => some "durable maintainer registration disappeared after request creation"
          | some maintainer =>
            if maintainer ≠ targetParentId then
              some "durable maintainer registration changed after request creation"
            else if registry.sessions.any fun session =>
                session.parentSessionId = some record.targetParentSessionId then
              some "stopped-root successor gained children after request creation"
            else none

def treeModeStaleReason (target : SessionRecord) : Option String :=
  if record.stoppedRootRecovery then stoppedRootStaleReason registry record target
  else if record.peerRootSuccession then
    if target.parentSessionId.isSome then some "peer-root successor is no longer a root" else none
  else if target.parentSessionId ≠ some record.subjectSessionId then
    some "tree target is no longer a direct child of the source"
  else none

def topologyStaleReason (target : SessionRecord) : Option String :=
  match record.kind with
  | .tree =>
    match treeModeStaleReason registry record target with
    | some reason => some reason
    | none =>
      if liveChildren registry record.subjectSessionId ≠ record.frozenLiveChildIds then
        some "source live-child set changed after request creation"
      else if reparentPlanWouldCreateCycle registry (requestEdgeChanges record) then
        some "current tree plan would create a hierarchy cycle"
      else none
  | .single =>
    if reparentWouldCreateCycle registry record.subjectSessionId record.targetParentSessionId then
      some "current topology would create a hierarchy cycle"
    else none

def reparentStaleReason : Option String :=
  if record.topologyFingerprint ≠ requestFingerprint record then
    some "stored topology fingerprint does not match the request plan"
  else
    match findSession registry record.subjectSessionId with
    | none => some "subject session no longer exists"
    | some subject =>
      if record.stoppedRootRecovery && !stoppedRootRecoverySourceEligible subject then
        some "stopped-root predecessor terminal state changed after request creation"
      else if !record.stoppedRootRecovery && !subject.isLiveForRegistry then
        some "subject session is no longer live"
      else if subject.parentSessionId ≠ record.expectedParentSessionId then
        some "subject parent changed after request creation"
      else if (record.expectedParentSessionId.any (isLive registry)) ≠
          record.expectedParentIsLive then
        some "current parent liveness changed after request creation"
      else
        match findSession registry record.targetParentSessionId with
        | none => some "target parent session no longer exists"
        | some target =>
          if !target.isLiveForRegistry then some "target parent session is no longer live"
          else topologyStaleReason registry record target

theorem topology_of_not_stale (hfr : reparentStaleReason registry record = none) :
    ∃ target, topologyStaleReason registry record target = none := by
  unfold reparentStaleReason at hfr
  repeat' split at hfr
  all_goals first
    | cases hfr
    | exact ⟨_, hfr⟩

/-- A tree request that is not stale leaves no cycle, whatever the hierarchy was. -/
theorem acyclic_of_not_stale_tree (tree : record.kind = .tree)
    (hfr : reparentStaleReason registry record = none) :
    ParentGraph.Acyclic (changedParents (parentOf registry) (requestEdgeChanges record)) := by
  obtain ⟨_, hfr⟩ := topology_of_not_stale _ _ hfr
  unfold topologyStaleReason at hfr
  simp only [tree] at hfr
  split at hfr
  · cases hfr
  split at hfr
  · cases hfr
  · split at hfr
    · cases hfr
    · rename_i fine
      exact (reparentPlanWouldCreateCycle_eq_false _ _).mp (by simpa using fine)

theorem acyclic_of_not_stale (acyclic : ParentGraph.Acyclic (parentOf registry))
    (hfr : reparentStaleReason registry record = none) :
    ParentGraph.Acyclic (changedParents (parentOf registry) (requestEdgeChanges record)) := by
  cases kind : record.kind with
  | tree => exact acyclic_of_not_stale_tree _ _ kind hfr
  | single =>
    obtain ⟨_, hfr⟩ := topology_of_not_stale _ _ hfr
    simp only [topologyStaleReason, kind] at hfr
    split at hfr
    · cases hfr
    rename_i fine
    have below := climb_ne_of_not_wouldCreateCycle _ (by simpa using fine)
    have moved : ParentGraph.Acyclic (Function.update (parentOf registry)
        record.subjectSessionId (some record.targetParentSessionId)) := by
      apply acyclic.update
      intro _ hs n
      cases hs
      exact below n
    simpa [requestEdgeChanges, kind, changedParents] using moved

theorem changedParents_tree_source (parents : String → Option String) (source target : String)
    (sourceParent targetParent oldTargetParent : Option String) (children : List String)
    (peer recovery : Bool) :
    changedParents parents (treeReparentEdgeChanges source target sourceParent targetParent
      oldTargetParent children peer recovery) source = some target := by
  have below : ∀ (rest : List String) (parents : String → Option String),
      parents source = some target →
      changedParents parents (rest.map fun child => ⟨child, some source, some target⟩) source =
        some target := by
    intro rest
    induction rest with
    | nil => intro parents start; exact start
    | cons child _ ih =>
      intro parents start
      apply ih
      dsimp only
      by_cases hh : source = child
      · rw [hh, update_self]
      · rw [update_of_ne hh, start]
  unfold treeReparentEdgeChanges changedParents
  rw [foldl_append]
  exact below _ _ (update_self ..)

theorem source_ne_target_of_not_stale (tree : record.kind = .tree)
    (hfr : reparentStaleReason registry record = none) :
    record.subjectSessionId ≠ record.targetParentSessionId := by
  intro hs
  have acyclic := acyclic_of_not_stale_tree _ _ tree hfr
  have link : changedParents (parentOf registry) (requestEdgeChanges record)
      record.subjectSessionId = some record.subjectSessionId := by
    rw [requestEdgeChanges, tree]
    rw [changedParents_tree_source, ← hs]
  refine acyclic record.subjectSessionId 0 ?_
  rw [climb_succ, link]
  rfl

end

section

/-- The parents as both checks collect them: of two sessions with one id the later one counts. -/
def collectedParents (sessions : List SessionRecord) : String → Option String :=
  changedParents (fun _ => none) (sessions.map fun session =>
    ⟨session.id, none, session.parentSessionId⟩)

/-- The loops of the check on a plan, each with as many rounds as there are ids and one more. -/
def planCycleLoops (sessions : List SessionRecord) (changes : List EdgeChange) : Option Bool :=
  let keys := sessions.map SessionRecord.id ++ changes.map EdgeChange.sessionId
  keys.anyM fun start => walk (changedParents (collectedParents sessions) changes)
    (keys.length + 1) [] (some start)

def cycleLoop (sessions : List SessionRecord) (subject target : String) : Option Bool :=
  if subject = target then some true
  else walk (collectedParents sessions) (sessions.length + 2) [subject] (some target)

variable (sessions : List SessionRecord)

theorem anyM_some {α : Type} {check : α → Option Bool} {answer : α → Bool} (keys : List α)
    (answers : ∀ key, check key = some (answer key)) : keys.anyM check = some (keys.any answer) := by
  induction keys with
  | nil => rfl
  | cons key _ ih =>
    rw [anyM, answers, any_cons]
    cases answer key with
    | true => rfl
    | false => exact ih

/-- Where ids are distinct, these are the links that the requests are checked with. -/
theorem collectedParents_eq {registry : Registry} (hn : (sessionIds registry).Nodup) :
    collectedParents registry.sessions = parentOf registry := by
  have collected : ∀ (sessions : List SessionRecord) (base : String → Option String),
      (sessions.map SessionRecord.id).Nodup → ∀ id,
      changedParents base (sessions.map fun session =>
        ⟨session.id, none, session.parentSessionId⟩) id =
        (sessions.find? fun session => session.id = id).elim (base id)
          SessionRecord.parentSessionId := by
    intro sessions
    induction sessions with
    | nil => intros; rfl
    | cons session rest ih =>
      intro base hn id
      obtain ⟨hfr, hn⟩ := nodup_cons.mp hn
      refine (ih _ hn id).trans ?_
      by_cases hh : session.id = id
      · have missing : rest.find? (fun other => other.id = id) = none := by
          rw [find?_eq_none]
          intro other hm
          have hap : other.id ≠ session.id := fun hs => hfr (hs ▸ mem_map_of_mem hm)
          simpa [← hh] using hap
        simp [missing, hh]
      · simp [hh, update_of_ne (Ne.symm hh)]
  funext id
  rw [collectedParents, collected _ _ hn, parentOf, findSession]
  cases registry.sessions.find? fun session => session.id = id with
  | none | some => rfl

/-- The checks that requests are made with are the answers of the loops. -/
theorem cycle_checks_of_registry {registry : Registry} (hn : (sessionIds registry).Nodup) :
    (∀ changes, planCycleLoops registry.sessions changes =
      some (reparentPlanWouldCreateCycle registry changes)) ∧
    ∀ subject target, cycleLoop registry.sessions subject target =
      some (reparentWouldCreateCycle registry subject target) := by
  constructor
  · intro changes
    unfold planCycleLoops reparentPlanWouldCreateCycle
    rw [collectedParents_eq hn]
    refine anyM_some _ fun _ => walk_eq ?_ .nil (nil_subset _) (Nat.lt_succ_self _) _
    exact fun id => changedParents_mem (fun id => parentOf_mem _) _
  · intro subject target
    unfold cycleLoop reparentWouldCreateCycle
    rw [collectedParents_eq hn]
    split
    · next hs => simp [hs]
    next hne =>
    have hk : ∀ id, parentOf registry id ≠ none → id ∈ subject :: sessionIds registry :=
      fun id has => mem_cons_of_mem _ (parentOf_mem _ has)
    have walked := walk_eq hk (nodup_singleton subject) (by simp)
      (show _ < registry.sessions.length + 2 + _ by simp [sessionIds]) (some target)
    simpa [hne, sessionIds] using walked

end

end SessionManager.Reparent
