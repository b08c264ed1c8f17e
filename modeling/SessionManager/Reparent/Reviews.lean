import SessionManager.Reparent.Completion

/-! What the operations on requests leave alone. Creating, deciding, refreshing and verifying requests
revises the whole list, but it touches no lease, it gives nobody a plan or an intent,
and it changes the status of pending requests only. -/
namespace SessionManager.Reparent
open Foundation Queue List

section

structure Fate where
  approvals : List ApprovalRecord
  status : RequestStatus
  applyStage : Option ApplyStage
  applyPlan : Option ApplyPlan
  decidedAt : Option String
  appliedAt : Option String
  failureReason : Option String
  supersededByRequestId : Option String
  deriving DecidableEq, Repr

def RequestRecord.fate (record : RequestRecord) : Fate :=
  ⟨record.approvals, record.status, record.applyStage, record.applyPlan, record.decidedAt, record.appliedAt,
    record.failureReason, record.supersededByRequestId⟩

structure Reviewed (record after : RequestRecord) : Prop where
  id : after.id = record.id
  stage : after.applyStage = record.applyStage
  plan : after.applyPlan = record.applyPlan
  intents : after.deferredRoutingIntents = record.deferredRoutingIntents
  settled : record.status ≠ .pending → after.fate = record.fate
  pending : record.status = .pending → after.status ≠ .applying ∧ after.status ≠ .failed

variable {record after : RequestRecord}

theorem Reviewed.of_fate (id : after.id = record.id) (fate : after.fate = record.fate)
    (intents : after.deferredRoutingIntents = record.deferredRoutingIntents) :
    Reviewed record after where
  id := id
  stage := congrArg Fate.applyStage fate
  plan := congrArg Fate.applyPlan fate
  intents := intents
  settled _ := fate
  pending waiting := by
    have hs : after.status = record.status := congrArg Fate.status fate
    rw [hs, waiting]
    exact ⟨by decide, by decide⟩

theorem Reviewed.refl (record : RequestRecord) : Reviewed record record := .of_fate rfl rfl rfl

theorem Reviewed.status (reviewed : Reviewed record after)
    (hse : record.status ≠ .pending) : after.status = record.status :=
  congrArg Fate.status (reviewed.settled hse)

theorem Reviewed.trans {first second third : RequestRecord} (one : Reviewed first second)
    (two : Reviewed second third) : Reviewed first third where
  id := two.id.trans one.id
  stage := two.stage.trans one.stage
  plan := two.plan.trans one.plan
  intents := two.intents.trans one.intents
  settled hse := by
    have hh := one.status hse
    exact (two.settled (hh ▸ hse)).trans (one.settled hse)
  pending waiting := by
    by_cases still : second.status = .pending
    · exact two.pending still
    · rw [two.status still]
      exact one.pending waiting

theorem isApplyFenced_status {record : RequestRecord} (fenced : record.isApplyFenced) :
    record.status = .applying ∨ record.status = .failed := by
  simp only [RequestRecord.isApplyFenced, Bool.or_eq_true, Bool.and_eq_true,
    decide_eq_true_eq] at fenced
  exact fenced.imp id And.left

theorem isApplyFenced_congr (status : after.status = record.status)
    (stage : after.applyStage = record.applyStage) :
    after.isApplyFenced = record.isApplyFenced := by
  simp only [RequestRecord.isApplyFenced, status, stage]

theorem Reviewed.fenced (reviewed : Reviewed record after) :
    after.isApplyFenced = record.isApplyFenced := by
  by_cases waiting : record.status = .pending
  · have hap := reviewed.pending waiting
    simp [RequestRecord.isApplyFenced, hap.1, hap.2, waiting]
  · exact isApplyFenced_congr (reviewed.status waiting) reviewed.stage

structure Reviews (before after : Registry) : Prop where
  lease : after.reparentApplyLease = before.reparentApplyLease
  requests : ∃ kept submitted, after.reparentRequests = kept ++ Option.toList submitted ∧
    List.Forall₂ Reviewed before.reparentRequests kept ∧
    ∀ record ∈ submitted, findRequest before record.id = none ∧ record.status = .pending ∧
      record.deferredRoutingIntents = []

variable {env : Env} {before after : Registry} {requestId : String} {record : RequestRecord}

theorem Reviews.find (reviews : Reviews before after)
    (hf : findRequest before requestId = some record) :
    ∃ reviewed, findRequest after requestId = some reviewed ∧ Reviewed record reviewed := by
  obtain ⟨_, _, split, pairs, _⟩ := reviews.requests
  obtain ⟨reviewed, ht, hk⟩ := find?_forall₂ RequestRecord.id (fun _ _ pair => pair.id) pairs hf
  refine ⟨reviewed, ?_, hk⟩
  rw [findRequest, split, find?_append, ht, Option.some_or]

end

section

variable {env : Env} {registry after : Registry} {requestId : String}

variable {record : RequestRecord}

theorem reviewed_retired (hpe : record.status = .pending)
    {status : RequestStatus} (final : status = .expired ∨ status = .stale ∨ status = .superseded)
    (winner : Option String) (reason : String) :
    Reviewed record { retired env record status reason with supersededByRequestId := winner } where
  id := rfl
  stage := rfl
  plan := rfl
  intents := rfl
  settled hse := absurd hpe hse
  pending _ := by rcases final with hh | hh | hh <;> simp [retired, hh]

theorem reviewing_reviewed : Reviewing Reviewed where
  refl := .refl
  trans := .trans
  notify _ _ := .of_fate rfl rfl rfl
  attempt _ _ := .of_fate rfl rfl rfl
  retire _ _ _ reason winner hpe final := reviewed_retired hpe final winner reason
  decide env _ _ decision _ hpe := by
    cases decision with
    | approved =>
      exact ⟨rfl, rfl, rfl, rfl, fun hse => absurd hpe hse, fun _ => by simp [withDecision, hpe]⟩
    | rejected =>
      exact ⟨rfl, rfl, rfl, rfl, fun hse => absurd hpe hse, fun _ => by simp [withDecision]⟩

theorem Revises.reviews {new : RequestRecord → Prop} (revises : Revises new registry after)
    (submitted : ∀ record, new record → findRequest registry record.id = none ∧
      record.status = .pending ∧ record.deferredRoutingIntents = []) : Reviews registry after := by
  obtain ⟨kept, added, split, pairs, hfr⟩ := revises.2 reviewing_reviewed
  have hs := revises.1
  refine ⟨?_, kept, added, split, pairs, fun _ hm => submitted _ (hfr _ hm)⟩
  rw [hs]

theorem Made.fresh {freshId : String} (unused : findRequest registry freshId = none)
    (made : Made freshId record) : findRequest registry record.id = none ∧
      record.status = .pending ∧ record.deferredRoutingIntents = [] :=
  ⟨made.id ▸ unused, made.submitted.pending, made.unused⟩

end

end SessionManager.Reparent
