import SessionManager.Reparent.System

/-! The edges that approvers are shown. The client works them out from the record of a request; the
server plans them from the same record. The client knows neither the recovery of a stopped root nor
the detachment from a parent that is not live. -/
namespace SessionManager.Reparent
open Foundation Sessions Queue List

def reparentEdgesForDisplay (record : RequestRecord) : List EdgeChange :=
  match record.applyPlan with
  | some plan => plan.edgeChanges
  | none =>
    let source := record.subjectSessionId
    let target := record.targetParentSessionId
    let oldParent := record.expectedParentSessionId
    match record.kind with
    | .tree =>
      (if record.peerRootSuccession then [] else [⟨target, some source, oldParent⟩]) ++
      ⟨source, oldParent, some target⟩ ::
      (record.frozenLiveChildIds.filter fun child => child ≠ target).map fun child =>
        ⟨child, some source, some target⟩
    | .single => [⟨source, oldParent, some target⟩]

/-- The edges of a record as sets. -/
def ShownAsPlanned (record : RequestRecord) : Prop :=
  ∀ edge, edge ∈ reparentEdgesForDisplay record ↔ edge ∈ requestEdgeChanges record

inductive Accepted (record : RequestRecord) : Prop
  | single (env : Env) (registry : Registry) (freshId subject target requester credential : String)
      (created : (createReparentRequest env registry freshId subject target requester
        credential).2 = .created record)
  | tree (env : Env) (registry : Registry) (queue : QueueDb)
      (freshId source target requester credential : String)
      (created : (createReparentTreeRequest env registry queue freshId source target requester
        credential false).2 = .created record)

/-- What the edges of a request depend on. -/
def RequestRecord.topology (record : RequestRecord) :=
  (record.kind, record.subjectSessionId, record.targetParentSessionId,
    record.expectedParentSessionId, record.expectedParentIsLive,
    record.expectedTargetParentSessionId, record.detachNonLiveParent, record.peerRootSuccession,
    record.stoppedRootRecovery, record.frozenLiveChildIds)

variable {registry : Registry} {record : RequestRecord} {env : Env}

theorem findSession_self {id : String} {session : SessionRecord}
    (hf : findSession registry id = some session) : session.id = id := by
  simpa using find?_some hf

structure Checked (record : RequestRecord) : Prop where
  apart : record.subjectSessionId ≠ record.targetParentSessionId
  detaches : record.detachNonLiveParent = true
  recovers : record.stoppedRootRecovery = true →
    record.expectedTargetParentSessionId ≠ some record.subjectSessionId

theorem createReparentTreeRequest_created {queue : QueueDb}
    {freshId sourceId targetId requester credential : String}
    (created : (createReparentTreeRequest env registry queue freshId sourceId targetId requester
      credential false).2 = .created record) :
    ∃ source target, findSession registry source.id = some source ∧
      treeBlockers registry source target = [] ∧
      record = newTreeRequest env registry freshId (trim requester) source target := by
  unfold createReparentTreeRequest at created
  dsimp only at created
  split at created
  · cases created
  split at created
  · cases created
  split at created
  · cases created
  next source hf =>
  split at created
  · cases created
  next target _ =>
  split at created
  · cases created
  split at created
  · cases created
  next clear =>
  split at created
  · cases created
  · cases created
    exact ⟨_, _, by rw [findSession_self hf]; exact hf, clear, rfl⟩

theorem checked_newTreeRequest {freshId requester : String}
    {source target : SessionRecord} (hf : findSession registry source.id = some source)
    (clear : treeBlockers registry source target = []) :
    Checked (newTreeRequest env registry freshId requester source target) := by
  simp only [treeBlockers, append_eq_nil_iff, ite_eq_right_iff, cons_ne_nil, imp_false] at clear
  obtain ⟨⟨⟨⟨⟨⟨⟨⟨-, -⟩, -⟩, -⟩, -⟩, -⟩, authorized⟩, -⟩, fine⟩ := clear
  refine ⟨?_, rfl, ?_⟩
  · intro hs
    change source.id = target.id at hs
    have acyclic := (reparentPlanWouldCreateCycle_eq_false _ _).mp (by simpa using fine)
    refine acyclic source.id 0 ?_
    rw [ParentGraph.climb_succ, treeEdgeChanges, changedParents_tree_source, ← hs]
    rfl
  · intro recovery parent
    change isStoppedRootRecovery source = true at recovery
    change target.parentSessionId = some source.id at parent
    -- the parent of the target would be the source itself, which is stopped and not live
    have hsd : source.isLiveForRegistry = false := by
      simp only [isStoppedRootRecovery, stoppedRootRecoverySourceEligible,
        Bool.and_eq_true] at recovery
      simp [SessionRecord.isLiveForRegistry, recovery.1]
    have missing := authorized recovery
    simp only [stoppedRootAuthorization, parent, Option.bind_some, hf, hsd] at missing
    split at missing
    · simp at missing
    · split at missing <;> simp at missing

theorem singleRequestRefusal_ne_created
    {subject target requester credential : String} (record : RequestRecord) :
    singleRequestRefusal env registry subject target requester credential ≠
      some (.created record) := by
  unfold singleRequestRefusal
  dsimp only
  repeat' split
  all_goals simp

theorem Accepted.checked (hac : Accepted record) : record.kind = .single ∨ Checked record := by
  cases hac with
  | single env registry freshId _ target requester credential created =>
    refine .inl ?_
    unfold createReparentRequest at created
    dsimp only at created
    split at created
    · next refused =>
      cases created
      exact absurd refused (singleRequestRefusal_ne_created _)
    · split at created
      · cases created
      · cases created
        rfl
  | tree env registry _ freshId source target requester credential created =>
    obtain ⟨source, target, hf, clear, rfl⟩ := createReparentTreeRequest_created created
    exact .inr (checked_newTreeRequest hf clear)

theorem shownAsPlanned_tree (tree : record.kind = .tree)
    (unplanned : record.applyPlan = none) (checked : Checked record) :
    ShownAsPlanned record ↔ record.stoppedRootRecovery = false ∧
      (record.peerRootSuccession ∨ record.expectedParentIsLive ∨
        record.expectedParentSessionId = none) := by
  obtain ⟨hap, detaches, recovers⟩ := checked
  simp only [ShownAsPlanned, reparentEdgesForDisplay, requestEdgeChanges, treeReparentEdgeChanges,
    treeTargetParentSessionId, tree, unplanned, detaches, mem_append]
  -- every other edge belongs to the source or to another child
  have others : ∀ edge : EdgeChange, edge ∈ (⟨record.subjectSessionId,
      record.expectedParentSessionId, some record.targetParentSessionId⟩ ::
        (record.frozenLiveChildIds.filter fun child =>
          child ≠ record.targetParentSessionId).map fun child =>
            ⟨child, some record.subjectSessionId, some record.targetParentSessionId⟩ :
              List EdgeChange) → edge.sessionId ≠ record.targetParentSessionId := by
    simp only [mem_cons, mem_map, mem_filter]
    rintro edge (rfl | ⟨child, ⟨-, other⟩, rfl⟩)
    · exact hap
    · simpa using other
  cases recovery : record.stoppedRootRecovery with
  | true =>
    refine iff_of_false ?_ (by simp)
    intro shown
    have hp := (shown ⟨record.targetParentSessionId,
      record.expectedTargetParentSessionId, none⟩).mpr (.inl (by simp))
    rcases hp with first | later
    · split at first
      · cases first
      · exact recovers recovery (EdgeChange.mk.inj (mem_singleton.mp first)).2.1
    · exact others _ later rfl
  | false =>
    cases record.peerRootSuccession with
    | true => simp
    | false =>
      cases live : record.expectedParentIsLive with
      | true => simp
      | false =>
        refine ⟨?_, ?_⟩
        · intro shown
          have displayed := (shown ⟨record.targetParentSessionId,
            some record.subjectSessionId, record.expectedParentSessionId⟩).mp (.inl (by simp))
          rcases displayed with first | later
          · simpa using first
          · exact absurd rfl (others _ later)
        · rintro ⟨-, h | h | root⟩
          · cases h
          · cases h
          · simp [root]

/-- Approvers are shown the planned edges of an accepted request exactly if it is a single one, or a
tree request that neither recovers a stopped root nor detaches its target from a parent that is not
live. -/
theorem shown_as_planned_iff {created record : RequestRecord} (accepted : Accepted created)
    (advanced : Relation.ReflTransGen Advance created record)
    (unplanned : record.applyPlan = none) :
    ShownAsPlanned record ↔ record.kind = .single ∨ record.stoppedRootRecovery = false ∧
      (record.peerRootSuccession = true ∨ record.expectedParentIsLive = true ∨
        record.expectedParentSessionId = none) := by
  have same : record.topology = created.topology := by
    clear unplanned
    induction advanced with
    | refl => rfl
    | tail _ advance ih => exact .trans (by cases advance <;> rfl) ih
  simp only [RequestRecord.topology, Prod.mk.injEq] at same
  obtain ⟨kind, subject, target, -, -, expected, detaches, -, recovery, -⟩ := same
  cases here : record.kind with
  | single => simp [ShownAsPlanned, reparentEdgesForDisplay, requestEdgeChanges, here, unplanned]
  | tree =>
    have checked : Checked created := by
      refine accepted.checked.resolve_left ?_
      rw [← kind, here]
      decide
    have later : Checked record := by
      obtain ⟨apart, always, recovers⟩ := checked
      rw [← subject] at apart recovers
      rw [← target] at apart
      rw [← recovery, ← expected] at recovers
      exact ⟨apart, detaches.trans always, recovers⟩
    simpa using shownAsPlanned_tree here unplanned later

def petition : RequestRecord :=
  newSingleRequest familyEnv "move" "kim" "bob" "bob" (some "ann") true

/-- A family in which one of two siblings asks to take the place of their parent. -/
def heirs (head : SessionStatus) : Registry :=
  { familyRegistry with
    sessions := [{ lead "eve" with status := head },
      { lead "ann" with parentSessionId := some "eve" },
      { lead "kim" with parentSessionId := some "ann" },
      { lead "joe" with parentSessionId := some "ann" }] }

def promotion (head : SessionStatus) : RequestRecord :=
  newTreeRequest familyEnv (heirs head) "move" "kim" { lead "ann" with parentSessionId := some "eve" }
    { lead "kim" with parentSessionId := some "ann" }

theorem petition_shown_as_planned :
    ShownAsPlanned petition ∧ ShownAsPlanned (promotion .running) :=
  ⟨(shown_as_planned_iff (.single familyEnv familyRegistry "move" "kim" "bob" "bob" "bob"
      (by decide +kernel)) .refl rfl).mpr (.inl rfl),
    (shown_as_planned_iff (.tree familyEnv (heirs .running) ⟨[], []⟩ "move" "ann" "kim" "kim" "kim"
      (by decide +kernel)) .refl rfl).mpr (.inr (by decide +kernel))⟩

/-- Once the head has stopped, the target is shown below it, and planned without a parent. -/
theorem promotion_shown_otherwise :
    (createReparentTreeRequest familyEnv (heirs .stopped) ⟨[], []⟩ "move" "ann" "kim" "kim" "kim"
      false).2 = .created (promotion .stopped) ∧
    ⟨"kim", some "ann", some "eve"⟩ ∈ reparentEdgesForDisplay (promotion .stopped) ∧
    ⟨"kim", some "ann", some "eve"⟩ ∉ requestEdgeChanges (promotion .stopped) ∧
    ⟨"kim", some "ann", none⟩ ∈ requestEdgeChanges (promotion .stopped) := by
  decide +kernel

end SessionManager.Reparent
