import SessionManager.Reparent.Hierarchy

/-! No session gets a new parent without the consent that its request asks for. The approvals of a
request are complete when its plan is fixed, nothing is added to them afterwards, and the only write
that moves an edge moves the edges of a stored plan. -/
namespace SessionManager.Reparent
open Foundation Queue List Function

section

theorem approvalsSatisfied_iff {actors : List String} {human : Bool}
    {approvals : List ApprovalRecord} :
    approvalsSatisfied actors human approvals ↔ (∀ actor ∈ actors, ∃ approval ∈ approvals,
        approval.actorKind = .agent ∧ approval.actorId = actor ∧ approval.decision = .approved) ∧
      (human → ∃ approval ∈ approvals,
        approval.actorKind = .human ∧ approval.decision = .approved) := by
  cases human <;> simp [approvalsSatisfied, and_assoc]

structure Consented (record : RequestRecord) : Prop where
  ready : record.status = .pending → record.readyToApply = true →
    approvalsSatisfied record.requiredAgentApprovals record.requiredHumanApproval
      record.approvals = true
  unrejected : record.status = .pending →
    ∀ approval ∈ record.approvals, approval.decision = .approved
  planned : ∀ plan, record.applyPlan = some plan → record.status ≠ .pending ∧
    approvalsSatisfied record.requiredAgentApprovals record.requiredHumanApproval
      record.approvals = true ∧
    ∀ approval ∈ record.approvals, approval.decision = .approved

theorem Consented.of_submitted {record : RequestRecord} (submitted : Submitted record) :
    Consented record := by
  refine ⟨fun _ => submitted.ready, fun _ => submitted.approved, ?_⟩
  intro _ hp
  rw [submitted.unplanned] at hp
  cases hp

theorem Consented.of_settled {record after : RequestRecord} (consented : Consented record)
    (hse : after.status ≠ .pending) (plan : after.applyPlan = record.applyPlan)
    (actors : after.requiredAgentApprovals = record.requiredAgentApprovals)
    (human : after.requiredHumanApproval = record.requiredHumanApproval)
    (approvals : after.approvals = record.approvals) : Consented after := by
  refine ⟨fun hpe => absurd hpe hse, fun hpe => absurd hpe hse, ?_⟩
  intro _ hp
  rw [actors, human, approvals]
  exact ⟨hse, (consented.planned _ (plan ▸ hp)).2⟩

theorem Consented.advance {record after : RequestRecord} (advance : Advance record after)
    (consented : Consented record) : Consented after := by
  cases advance with
  | notify | proceed | defer | attempt =>
    exact ⟨consented.ready, consented.unrejected, consented.planned⟩
  | retire _ _ _ _ _ final =>
    refine consented.of_settled ?_ rfl rfl rfl rfl
    rcases final with rfl | rfl | rfl <;> simp
  | approve _ hpe approved =>
    refine ⟨fun _ complete => complete, ?_, ?_⟩
    · intro _ _ hm
      rcases mem_snoc.mp hm with old | rfl
      · exact consented.unrejected hpe _ old
      · exact approved
    · intro plan hp
      exact absurd hpe (consented.planned _ hp).1
  | reject _ _ hpe =>
    refine ⟨(fun h => by cases h), (fun h => by cases h), ?_⟩
    intro plan hp
    exact absurd hpe (consented.planned _ hp).1
  | lease _ hpe hrd =>
    refine ⟨(fun h => by cases h), (fun h => by cases h), ?_⟩
    intro _ _
    exact ⟨by simp [leasedWithPlan], consented.ready hpe hrd, consented.unrejected hpe⟩
  | settle _ _ _ _ _ _ hse =>
    refine consented.of_settled ?_ rfl rfl rfl rfl
    rcases hse with rfl | rfl | rfl | rfl <;> simp
  | resume => exact consented.of_settled (by simp) rfl rfl rfl rfl

end

section

/-- No later change of a session continues an earlier one. -/
def Unchained (changes : List EdgeChange) : Prop :=
  changes.Pairwise fun first second => first.sessionId = second.sessionId →
    second.expectedParentSessionId ≠ first.newParentSessionId

theorem treeReparentEdgeChanges_unchained {source target : String} (other : source ≠ target)
    (sourceParent targetParent oldTargetParent : Option String) (children : List String)
    (peer recovery : Bool) :
    Unchained (treeReparentEdgeChanges source target sourceParent targetParent oldTargetParent
      children peer recovery) := by
  have hap : some source ≠ some target := fun hs => other (Option.some.inj hs)
  unfold Unchained treeReparentEdgeChanges
  rw [pairwise_append, pairwise_cons, pairwise_map]
  refine ⟨?_, ⟨?_, ?_⟩, ?_⟩
  · split
    · exact pairwise_singleton _ _
    · split
      · exact .nil
      · exact pairwise_singleton _ _
  · intro _ below _
    obtain ⟨child, _, rfl⟩ := mem_map.mp below
    exact hap
  · exact pairwise_of_forall fun _ _ _ => hap
  · intro first above _ below hs
    have hh : first.sessionId = target := by
      split at above
      · rw [mem_singleton.mp above]
      · split at above
        · cases above
        · rw [mem_singleton.mp above]
    rcases mem_cons.mp below with atSource | atChild
    · rw [atSource] at hs
      exact absurd (hs.symm.trans hh) other
    · obtain ⟨child, hm, rfl⟩ := mem_map.mp atChild
      have hne : child ≠ target := by simpa using (mem_filter.mp hm).2
      exact absurd (hs.symm.trans hh) hne

theorem requestEdgeChanges_unchained {registry : Registry} {record : RequestRecord}
    (hfr : reparentStaleReason registry record = none) :
    Unchained (requestEdgeChanges record) := by
  cases kind : record.kind with
  | single =>
    simp only [requestEdgeChanges, kind]
    exact pairwise_singleton _ _
  | tree =>
    simp only [requestEdgeChanges, kind]
    exact treeReparentEdgeChanges_unchained (source_ne_target_of_not_stale _ _ kind
      hfr) _ _ _ _ _ _

theorem commitEdges_edge {registry after : Registry} {changes : List EdgeChange}
    (unchained : Unchained changes) (hd : changes.foldlM commitEdge registry = .ok after)
    (id : String) :
    parentOf after id = parentOf registry id ∨
      ⟨id, parentOf registry id, parentOf after id⟩ ∈ changes := by
  induction changes generalizing registry with
  | nil =>
    cases hd
    exact .inl rfl
  | cons change _ ih =>
    obtain ⟨next, hh, later⟩ := Fallible.foldlM_cons_ok.mp hd
    obtain ⟨expected, parents, _⟩ := commitEdge_ok hh
    obtain ⟨first, unchained⟩ := pairwise_cons.mp unchained
    by_cases hs : id = change.sessionId
    · have moved : parentOf next id = change.newParentSessionId := by
        rw [parents, hs, update_self]
      have kept : parentOf after id = parentOf next id := by
        rcases ih unchained later with kept | again
        · exact kept
        · exact absurd moved (first _ again hs.symm)
      refine .inr ?_
      rw [kept, moved, hs, expected]
      exact mem_cons_self
    · have kept : parentOf next id = parentOf registry id := by
        rw [parents, update_of_ne hs]
      rcases ih unchained later with hun | edge
      · exact .inl (hun.trans kept)
      · exact .inr (kept ▸ mem_cons_of_mem _ edge)

end

section

structure Agreed (registry : Registry) : Prop where
  consented : ∀ record ∈ registry.reparentRequests, Consented record
  plans : ∀ record ∈ registry.reparentRequests, PlanMatches record

theorem Agreed.change {before after : Registry} (agreed : Agreed before)
    (change : Change before after) : Agreed after := by
  cases change with
  | quiet quiet =>
    exact ⟨quiet.all (fun _ _ => Consented.advance) (fun _ => .of_submitted) agreed.consented,
      quiet.all (fun _ _ => PlanMatches.advance) (fun _ => .of_submitted) agreed.plans⟩
  | commits _ _ commits =>
    exact ⟨commits.requests.stable (fun _ _ => Consented.advance) agreed.consented,
      commits.requests.stable (fun _ _ => PlanMatches.advance) agreed.plans⟩
  | joins _ joins =>
    exact ⟨joins.requests ▸ agreed.consented, joins.requests ▸ agreed.plans⟩

theorem Agreed.run {env : Env} {ids : RowIds} {start finish : System}
    (agreed : Agreed start.stores.registry) (run : Run env ids start finish) :
    Agreed finish.stores.registry := by
  induction run with
  | refl => exact agreed
  | tail _ step ih => exact ih.change step.change

/-- A step that gives an existing session a new parent moves an edge of a stored plan whose request
everybody concerned has approved and nobody has rejected. -/
theorem moved_edge_was_approved {env : Env} {ids : RowIds} {start before after : System}
    (empty : start.stores.registry.reparentRequests = []) (run : Run env ids start before)
    (step : Step env ids before after) {id : String}
    (present : id ∈ sessionIds before.stores.registry)
    (changed : parentOf after.stores.registry id ≠ parentOf before.stores.registry id) :
    ∃ record ∈ before.stores.registry.reparentRequests, ∃ plan, record.applyPlan = some plan ∧
      ⟨id, parentOf before.stores.registry id, parentOf after.stores.registry id⟩ ∈
        plan.edgeChanges ∧
      (∀ actor ∈ record.requiredAgentApprovals, ∃ approval ∈ record.approvals,
        approval.actorKind = .agent ∧ approval.actorId = actor ∧ approval.decision = .approved) ∧
      (record.requiredHumanApproval = true → ∃ approval ∈ record.approvals,
        approval.actorKind = .human ∧ approval.decision = .approved) ∧
      ∀ approval ∈ record.approvals, approval.decision ≠ .rejected := by
  have agreed : Agreed before.stores.registry := by
    refine Agreed.run ⟨?_, ?_⟩ run
    all_goals
      rw [empty]
      simp
  cases step.change with
  | quiet quiet => exact absurd (congrFun (parentOf_congr quiet.hierarchy) id) changed
  | joins _ joins =>
    refine absurd ?_ changed
    rw [joins.parentOf, update_of_ne]
    intro same
    exact joins.fresh (same ▸ present)
  | commits record plan commits =>
    obtain ⟨moved, edges, same⟩ := commits.edges
    have matched := agreed.plans record commits.member plan commits.planned
    have unchained : Unchained plan.edgeChanges :=
      matched ▸ requestEdgeChanges_unchained commits.fresh
    obtain ⟨_, satisfied, approved⟩ :=
      (agreed.consented record commits.member).planned plan commits.planned
    obtain ⟨agents, human⟩ := approvalsSatisfied_iff.mp satisfied
    rw [parentOf_congr same] at changed ⊢
    refine ⟨record, commits.member, plan, commits.planned, ?_, agents, human, ?_⟩
    · exact (commitEdges_edge unchained edges id).resolve_left changed
    · intro approval member
      rw [approved approval member]
      simp

theorem family_move_was_approved :
    parentOf moved.stores.registry "kim" ≠ parentOf fenced.stores.registry "kim" ∧
    ∃ record ∈ fenced.stores.registry.reparentRequests, ∃ plan, record.applyPlan = some plan ∧
      ⟨"kim", parentOf fenced.stores.registry "kim", parentOf moved.stores.registry "kim"⟩ ∈
        plan.edgeChanges ∧
      (∀ actor ∈ record.requiredAgentApprovals, ∃ approval ∈ record.approvals,
        approval.actorKind = .agent ∧ approval.actorId = actor ∧ approval.decision = .approved) ∧
      (record.requiredHumanApproval = true → ∃ approval ∈ record.approvals,
        approval.actorKind = .human ∧ approval.decision = .approved) ∧
      ∀ approval ∈ record.approvals, approval.decision ≠ .rejected :=
  ⟨by decide +kernel, moved_edge_was_approved rfl family_run_fenced (.drive fenced 0)
    (by decide +kernel) (by decide +kernel)⟩

end

end SessionManager.Reparent
