import SessionManager.Reparent.PlannedRows

/-! Plans as the lease makes them: every planned route belongs to one edge of the plan and repeats a
row that was stored when the plan was made. -/
namespace SessionManager.Reparent
open Foundation Queue List

section

variable {queue : QueueDb} {edge : EdgeChange} {change : RoutingChange}

/-- A queue route of an edge, with the row it was made from. -/
inductive QueueOrigin (queue : QueueDb) (edge : EdgeChange) (change : RoutingChange) : Prop
  | wake (row : ParentWakeRow) (stored : row ∈ queue.wakes)
      (child : row.childSessionId = edge.sessionId)
      (parent : edge.expectedParentSessionId = some row.parentSessionId)
      (active : row.isActive = true)
      (planned : change =
        ⟨.queue, .parentWake, row.id, edge.sessionId, edge.expectedParentSessionId,
          edge.newParentSessionId, some true, some row.periodSeconds, false⟩)
  | message (row : MessageRow) (stored : row ∈ queue.messages)
      (target : row.targetSessionId = edge.sessionId)
      (parent : edge.expectedParentSessionId = row.parentSessionId)
      (routed : row.parentSessionId.isSome)
      (waiting : row.delivered = false)
      (planned : change =
        ⟨.queue, .message, row.id, edge.sessionId, edge.expectedParentSessionId,
          edge.newParentSessionId, none, none, row.remindSoftThreshold.isSome⟩)

theorem queueRoutingChanges_origin (hm : change ∈ queueRoutingChanges queue edge) :
    QueueOrigin queue edge change := by
  unfold queueRoutingChanges at hm
  split at hm
  · cases hm
  rename_i expected
  rcases mem_append.mp hm with wake | message
  · obtain ⟨row, hli, hp⟩ := mem_map.mp wake
    have kept := mem_filter.mp ((mem_insertionSort _).mp hli)
    simp only [Bool.and_eq_true, decide_eq_true_eq] at kept
    obtain ⟨hst, ⟨child, parent⟩, active⟩ := kept
    refine .wake row hst child (by rw [expected, parent]) active ?_
    rw [← hp, child, active, expected, parent]
  · obtain ⟨row, hli, hp⟩ := mem_map.mp message
    obtain ⟨hst, sorted, hs⟩ := mem_map.mp hli
    have kept := mem_filter.mp ((mem_insertionSort _).mp sorted)
    simp only [Bool.and_eq_true, decide_eq_true_eq, Bool.not_eq_true'] at kept
    obtain ⟨ht, ⟨target, parent⟩, waiting⟩ := kept
    refine .message hst ht target (by rw [expected, parent]) (by rw [parent]; rfl) waiting ?_
    rw [← hp, ← hs, expected]
    simp only [target]

namespace QueueOrigin

variable (origin : QueueOrigin queue edge change)
include origin

theorem child : change.childSessionId = edge.sessionId := by
  cases origin with
  | wake _ _ _ _ _ hp | _ _ _ _ _ _ _ hp => rw [hp]

theorem expected : change.expectedTargetSessionId = edge.expectedParentSessionId := by
  cases origin with
  | wake _ _ _ _ _ hp | _ _ _ _ _ _ _ hp => rw [hp]

theorem newTarget : change.newTargetSessionId = edge.newParentSessionId := by
  cases origin with
  | wake _ _ _ _ _ hp | _ _ _ _ _ _ _ hp => rw [hp]

theorem row : (wakeOf change).isSome ∨ (messageOf change).isSome := by
  cases origin with
  | wake _ _ _ parent _ hp =>
    rw [hp, parent]
    exact .inl rfl
  | message _ _ _ parent routed _ hp =>
    obtain ⟨_, some_⟩ := Option.isSome_iff_exists.mp routed
    rw [hp, parent, some_]
    exact .inr rfl

theorem wakeActive {wake : ParentWakeRow} (hp : wakeOf change = some wake) : wake.isActive := by
  have active := (wakeOf_eq_some hp).2.2.2.1
  cases origin with
  | wake _ _ _ _ _ made =>
    rw [made] at active
    exact (Option.some.inj active).symm
  | message _ _ _ _ _ _ made =>
    rw [made] at active
    cases active

end QueueOrigin

end

section

variable {plan : ApplyPlan}

/-- The queue routes of the plan are those of its edges in one earlier table. -/
structure QueueBuilt (plan : ApplyPlan) (queue : QueueDb) : Prop where
  routes : plan.queueRoutingChanges = plan.edgeChanges.flatMap (queueRoutingChanges queue)
  keyed : queue.Keyed
  messages : (queue.messages.map MessageRow.id).Nodup
  edges : (plan.edgeChanges.map EdgeChange.sessionId).Nodup

variable {queue : QueueDb}

theorem QueueBuilt.origin (built : QueueBuilt plan queue) {change : RoutingChange}
    (hm : change ∈ plan.queueRoutingChanges) :
    ∃ edge ∈ plan.edgeChanges, QueueOrigin queue edge change := by
  rw [built.routes] at hm
  obtain ⟨edge, hi, hp⟩ := mem_flatMap.mp hm
  exact ⟨_, hi, queueRoutingChanges_origin hp⟩

theorem QueueBuilt.fits (built : QueueBuilt plan queue) : PlanFits plan where
  rows change hm := by
    obtain ⟨_, _, origin⟩ := built.origin hm
    exact origin.row
  distinct _ one _ two kind id := by
    obtain ⟨edge, hi, origin⟩ := built.origin one
    obtain ⟨other, hwi, source⟩ := built.origin two
    have sameEdge := inj_on_of_nodup_map built.edges hi hwi
    cases origin with
    | wake row hst child _ _ hp =>
      cases source with
      | wake row' stored' child' _ _ planned' =>
        rw [hp, planned'] at id
        have sameRow : row = row' := inj_on_of_nodup_map built.keyed.ids hst stored' id
        have heq := sameEdge (by rw [← child, ← child', sameRow])
        rw [hp, planned', sameRow, heq]
      | message _ _ _ _ _ _ planned' =>
        rw [hp, planned'] at kind
        cases kind
    | message row hst target _ _ _ hp =>
      cases source with
      | wake _ _ _ _ _ planned' =>
        rw [hp, planned'] at kind
        cases kind
      | message row' stored' target' _ _ _ planned' =>
        rw [hp, planned'] at id
        have sameRow : row = row' := inj_on_of_nodup_map built.messages hst stored' id
        have heq := sameEdge (by rw [← target, ← target', sameRow])
        rw [hp, planned', sameRow, heq]

end

end SessionManager.Reparent
