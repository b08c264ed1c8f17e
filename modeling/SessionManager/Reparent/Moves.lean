import Mathlib.Data.List.Forall2
import Mathlib.Logic.Relation
import SessionManager.Foundation.Fallible
import SessionManager.Reparent.Driver

/-! What can happen to a reparent request, said once. Every operation moves each stored request by
some of these advances and may submit new ones; a property of requests that no advance destroys holds
of every request in every reachable registry. -/
namespace SessionManager.Reparent
open Foundation Queue List Fallible

inductive Advance : RequestRecord → RequestRecord → Prop
  | notify (record : RequestRecord) (intents : List NotificationIntent) :
      Advance record { record with notificationIntents := intents }
  | retire (record : RequestRecord) (status : RequestStatus) (decidedAt reason winner : Option String)
      (pending : record.status = .pending)
      (final : status = .expired ∨ status = .stale ∨ status = .superseded) :
      Advance record
        { record with
          status, decidedAt, failureReason := reason, readyToApply := false
          supersededByRequestId := winner }
  | approve (record : RequestRecord) (approval : ApprovalRecord)
      (pending : record.status = .pending) (approved : approval.decision = .approved) :
      Advance record
        { record with
          approvals := record.approvals ++ [approval]
          readyToApply := approvalsSatisfied record.requiredAgentApprovals
            record.requiredHumanApproval (record.approvals ++ [approval]) }
  | reject (record : RequestRecord) (approval : ApprovalRecord) (decidedAt : Option String)
      (pending : record.status = .pending) :
      Advance record
        { record with
          approvals := record.approvals ++ [approval], status := .rejected, decidedAt
          readyToApply := false }
  | lease (record : RequestRecord) (plan : ApplyPlan)
      (pending : record.status = .pending) (ready : record.readyToApply = true)
      (edges : plan.edgeChanges = requestEdgeChanges record) :
      Advance record (leasedWithPlan plan record)
  | proceed (record : RequestRecord) (stage : Option ApplyStage) :
      Advance record { record with applyStage := stage }
  | defer (record : RequestRecord) (intents : List DeferredRoutingIntent) :
      Advance record { record with deferredRoutingIntents := intents }
  | settle (record : RequestRecord) (status : RequestStatus) (stage : Option ApplyStage)
      (ready : Bool) (appliedAt decidedAt reason : Option String)
      (settled : status = .failed ∨ status = .applied ∨ status = .stale ∨ status = .repaired) :
      Advance record
        { record with
          status, applyStage := stage, readyToApply := ready, appliedAt, decidedAt
          failureReason := reason }
  | attempt (record : RequestRecord) (history : List RepairRecord) :
      Advance record { record with repairHistory := history }
  | resume (record : RequestRecord) (history : List RepairRecord) :
      Advance record
        { record with repairHistory := history, status := .applying, failureReason := none }

abbrev Moves : RequestRecord → RequestRecord → Prop := Relation.ReflTransGen Advance

abbrev Moved : List RequestRecord → List RequestRecord → Prop := List.Forall₂ Moves

variable {id : String} {registry : Registry}

section

variable {α : Type} {related : α → α → Prop}

theorem forall₂_modifyFirst (hs : ∀ a, related a a) {choose : α → Bool} {change : α → α}
    {values : List α} (each : ∀ a, values.find? choose = some a → related a (change a)) :
    List.Forall₂ related values (modifyFirst choose change values) := by
  induction values with
  | nil => exact .nil
  | cons first _ ih =>
    rw [modifyFirst]
    by_cases chosen : choose first
    · rw [if_pos chosen]
      exact .cons (each _ (find?_cons_of_pos chosen)) (forall₂_same.mpr fun a _ => hs a)
    · rw [if_neg chosen]
      refine .cons (hs _) (ih ?_)
      intro a hf
      exact each a (by rw [find?_cons_of_neg chosen]; exact hf)

variable {first second : List α}

theorem find?_forall₂ (key : α → String) (keys : ∀ a b, related a b → key b = key a)
    (pairs : List.Forall₂ related first second) {a : α}
    (hf : first.find? (fun a => key a = id) = some a) :
    ∃ b, second.find? (fun b => key b = id) = some b ∧ related a b := by
  induction pairs with
  | nil => cases hf
  | @cons head next _ _ pair _ ih =>
    by_cases hh : key head = id
    · rw [find?_cons_of_pos (by simpa using hh)] at hf
      cases hf
      refine ⟨next, find?_cons_of_pos ?_, pair⟩
      simpa [keys _ _ pair] using hh
    · rw [find?_cons_of_neg (by simpa using hh)] at hf
      obtain ⟨b, ht, hk⟩ := ih hf
      refine ⟨b, ?_, hk⟩
      rw [find?_cons_of_neg (by simpa [keys _ _ pair] using hh)]
      exact ht

theorem forall₂_mem (pairs : List.Forall₂ related first second) {b : α}
    (hm : b ∈ second) : ∃ a ∈ first, related a b := by
  induction pairs with
  | nil => cases hm
  | @cons _ _ _ _ pair _ ih =>
    rcases mem_cons.mp hm with hh | later
    · exact ⟨_, mem_cons_self, hh ▸ pair⟩
    · obtain ⟨a, hi, hk⟩ := ih later
      exact ⟨a, mem_cons_of_mem _ hi, hk⟩

theorem forall₂_map_eq {β : Type} (view : α → β) (views : ∀ a b, related a b → view b = view a)
    (pairs : List.Forall₂ related first second) :
    second.map view = first.map view := by
  induction pairs with
  | nil => rfl
  | cons pair _ ih => rw [map_cons, map_cons, views _ _ pair, ih]

theorem forall₂_trans {third : List α} (trans : ∀ {a b c}, related a b → related b c → related a c)
    (one : List.Forall₂ related first second) (two : List.Forall₂ related second third) :
    List.Forall₂ related first third := by
  induction one generalizing third with
  | nil => cases two; exact .nil
  | cons head _ ih =>
    cases two with
    | cons next rest => exact .cons (trans head next) (ih rest)

theorem forall₂_map {change : α → α} (each : ∀ a, related a (change a)) (values : List α) :
    List.Forall₂ related values (values.map change) := by
  induction values with
  | nil => exact .nil
  | cons a _ ih => exact .cons (each a) ih

theorem Moved.stable {property : RequestRecord → Prop}
    (kept : ∀ record after, Advance record after → property record → property after)
    {before after : List RequestRecord} (moved : Moved before after)
    (holds : ∀ record ∈ before, property record) : ∀ record ∈ after, property record := by
  intro record hm
  obtain ⟨old, hi, moves⟩ := forall₂_mem moved hm
  clear hm
  induction moves with
  | refl => exact holds old hi
  | tail _ step ih => exact kept _ _ step ih

end

section

def hierarchy (registry : Registry) : List (String × Option String) :=
  registry.sessions.map fun session => (session.id, session.parentSessionId)

theorem sessionIds_eq_hierarchy (registry : Registry) :
    sessionIds registry = (hierarchy registry).map Prod.fst := by
  simp [sessionIds, hierarchy]

theorem parentOf_eq_hierarchy (registry : Registry) (id : String) : parentOf registry id =
      ((hierarchy registry).find? fun entry => entry.1 = id).bind Prod.snd := by
  simp only [parentOf, findSession, hierarchy, find?_map, Option.bind_map]
  rfl

section

variable {before after : Registry} (hs : hierarchy after = hierarchy before)
include hs

theorem sessionIds_congr : sessionIds after = sessionIds before := by
  rw [sessionIds_eq_hierarchy, hs, ← sessionIds_eq_hierarchy]

theorem parentOf_congr : parentOf after = parentOf before := by
  funext id
  rw [parentOf_eq_hierarchy, hs, ← parentOf_eq_hierarchy]

end

theorem map_modifyFirst {α β : Type} {choose : α → Bool} {change : α → α} {view : α → β}
    (kept : ∀ a, view (change a) = view a) (values : List α) :
    (modifyFirst choose change values).map view = values.map view := by
  induction values with
  | nil => rfl
  | cons _ _ ih =>
    rw [Reparent.modifyFirst]
    split
    · rw [map_cons, map_cons, kept]
    · rw [map_cons, map_cons, ih]

theorem hierarchy_updateSession
    {change : SessionRecord → SessionRecord} (ids : ∀ session, (change session).id = session.id)
    (parents : ∀ session, (change session).parentSessionId = session.parentSessionId) :
    hierarchy (updateSession registry id change) = hierarchy registry :=
  map_modifyFirst (fun session => by rw [ids, parents]) registry.sessions

end

variable {records : List RequestRecord} {before after : Registry} {plan : ApplyPlan} {α : Type}

section

structure Submitted (record : RequestRecord) : Prop where
  pending : record.status = .pending
  unplanned : record.applyPlan = none
  approved : ∀ approval ∈ record.approvals, approval.decision = .approved
  ready : record.readyToApply = true → approvalsSatisfied record.requiredAgentApprovals
    record.requiredHumanApproval record.approvals = true

structure Quiet (before after : Registry) : Prop where
  hierarchy : hierarchy after = hierarchy before
  requests : ∃ kept submitted, after.reparentRequests = kept ++ submitted ∧
    Moved before.reparentRequests kept ∧ ∀ record ∈ submitted, Submitted record

theorem Quiet.of_moved (hs : Reparent.hierarchy after = Reparent.hierarchy before)
    (moved : Moved before.reparentRequests after.reparentRequests) : Quiet before after :=
  ⟨hs, after.reparentRequests, [], by simp, moved, by simp⟩

theorem Quiet.refl (registry : Registry) : Quiet registry registry :=
  .of_moved rfl (forall₂_same.mpr fun _ _ => .refl)

theorem moved_reconcile (records : List RequestRecord) :
    Moved records (records.map reconcileReparentNotificationIntents) :=
  forall₂_map (fun record => .single (.notify record _)) records

theorem Quiet.store (moved : Moved registry.reparentRequests records) :
    Quiet registry (storeReparentRequestRecords registry records) :=
  .of_moved rfl (forall₂_trans .trans moved (moved_reconcile records))

variable {record after : RequestRecord} {registry routed : Registry}

theorem storeRequest_moved (requests : routed.reparentRequests = registry.reparentRequests)
    (hf : findRequest registry id = some record) (moves : Moves record after) :
    Moved registry.reparentRequests (storeRequest routed id after).reparentRequests := by
  refine forall₂_trans .trans ?_ (moved_reconcile _)
  rw [requests]
  refine forall₂_modifyFirst (fun _ => .refl) ?_
  intro other chosen
  cases (show some other = some record from chosen.symm.trans hf)
  exact moves

theorem Quiet.storeRequest (hs : Reparent.hierarchy routed = Reparent.hierarchy registry)
    (requests : routed.reparentRequests = registry.reparentRequests)
    (hf : findRequest registry id = some record) (moves : Moves record after) :
    Quiet registry (Reparent.storeRequest routed id after) :=
  .of_moved hs (storeRequest_moved requests hf moves)

end

section

/-- A relation that holds between a request and what the operations on requests make of it. -/
structure Reviewing (related : RequestRecord → RequestRecord → Prop) : Prop where
  refl : ∀ record, related record record
  trans : ∀ {a b c}, related a b → related b c → related a c
  notify : ∀ record intents, related record { record with notificationIntents := intents }
  attempt : ∀ record history, related record { record with repairHistory := history }
  retire : ∀ env record status reason winner, record.status = .pending →
    status = .expired ∨ status = .stale ∨ status = .superseded →
      related record { retired env record status reason with supersededByRequestId := winner }
  decide : ∀ env kind actor decision record, record.status = .pending →
    related record (withDecision env kind actor decision record)

/-- A write that touches the requests only. Those that were there are related to what they were, in
every such relation, and one may be new. -/
def Revises (new : RequestRecord → Prop) (before after : Registry) : Prop :=
  after = { before with reparentRequests := after.reparentRequests } ∧
    ∀ {related : RequestRecord → RequestRecord → Prop}, Reviewing related →
      ∃ kept submitted, after.reparentRequests = kept ++ Option.toList submitted ∧
        List.Forall₂ related before.reparentRequests kept ∧ ∀ record ∈ submitted, new record

section

variable {related : RequestRecord → RequestRecord → Prop} (reviewing : Reviewing related)
include reviewing

theorem Reviewing.refresh (env : Env) (registry : Registry) (records : List RequestRecord) :
    List.Forall₂ related records (refreshReparentRequests env registry records) := by
  refine forall₂_map ?_ _
  intro record
  rcases refreshReparentRequest_cases env registry records record with hs | changed
  · rw [hs]
    exact reviewing.refl _
  · obtain ⟨hpe, _, _, _, final, result⟩ := changed
    rw [result]
    exact reviewing.retire env _ _ _ _ hpe final

theorem Reviewing.reconcile {first second : List RequestRecord}
    (pairs : List.Forall₂ related first second) :
    List.Forall₂ related first (second.map reconcileReparentNotificationIntents) :=
  forall₂_trans reviewing.trans pairs (forall₂_map (fun record => reviewing.notify record _) second)

end

theorem reviewing_moves : Reviewing Moves where
  refl _ := .refl
  trans := .trans
  notify record intents := .single (.notify record intents)
  attempt record history := .single (.attempt record history)
  retire env record status reason winner hpe final :=
    .single (.retire record status (some env.nowText) (some reason) winner hpe final)
  decide env _ _ decision record hpe := by
    cases decision with
    | approved => exact .single (.approve _ ⟨_, _, .approved, env.nowText⟩ hpe rfl)
    | rejected => exact .single (.reject _ _ _ hpe)

theorem Revises.quiet {new : RequestRecord → Prop}
    (revises : Revises new before after) (submitted : ∀ record, new record → Submitted record) :
    Quiet before after := by
  obtain ⟨kept, added, split, moved, hfr⟩ := revises.2 reviewing_moves
  refine ⟨by rw [revises.1]; rfl, kept, added.toList, split, moved, ?_⟩
  intro record hm
  exact submitted _ (hfr _ (Option.mem_toList.mp hm))

structure Made (freshId : String) (record : RequestRecord) : Prop where
  id : record.id = freshId
  submitted : Submitted record
  unused : record.deferredRoutingIntents = []

variable (env : Env) (registry : Registry) {new : RequestRecord → Prop} {record : RequestRecord}

theorem Revises.store
    (pairs : ∀ {related : RequestRecord → RequestRecord → Prop}, Reviewing related →
      List.Forall₂ related registry.reparentRequests records) :
    Revises new registry (storeReparentRequestRecords registry records) :=
  ⟨rfl, fun reviewing => ⟨_, none, (append_nil _).symm, reviewing.reconcile (pairs reviewing),
    by simp⟩⟩

theorem Revises.refl : Revises new registry registry :=
  ⟨rfl, fun reviewing => ⟨_, none, (append_nil _).symm,
    forall₂_same.mpr fun record _ => reviewing.refl record, by simp⟩⟩

theorem storeRefreshed_revises : Revises new registry (storeRefreshed env registry) :=
  .store registry fun reviewing => reviewing.refresh env registry _

theorem persistRefreshed_revises : Revises new registry (persistRefreshed env registry) := by
  unfold persistRefreshed
  dsimp only
  split
  · exact storeRefreshed_revises env _
  · exact .refl _

theorem Revises.submit (added : new (reconcileReparentNotificationIntents record)) :
    Revises new registry (storeReparentRequestRecords registry
      (refreshReparentRequests env registry registry.reparentRequests ++ [record])) := by
  refine ⟨rfl, fun reviewing => ⟨_, some (reconcileReparentNotificationIntents _), map_append,
    reviewing.reconcile (reviewing.refresh env _ _), ?_⟩⟩
  intro _ hs
  cases hs
  exact added

theorem createReparentRequest_revises (freshId subject target requester credential : String) :
    Revises (Made freshId) registry
      (createReparentRequest env registry freshId subject target requester credential).1 := by
  unfold createReparentRequest
  dsimp only
  split
  · exact .refl _
  · split
    · exact storeRefreshed_revises env _
    · refine .submit env _ ⟨rfl, ⟨rfl, rfl, ?_, fun hrd => hrd⟩, rfl⟩
      simp [reconcileReparentNotificationIntents, newSingleRequest]

theorem createReparentTreeRequest_revises (queue : QueueDb)
    (freshId source target requester credential : String) (dryRun : Bool) :
    Revises (Made freshId) registry (createReparentTreeRequest env registry queue freshId source
      target requester credential dryRun).1 := by
  unfold createReparentTreeRequest
  dsimp only
  repeat' split
  all_goals first
    | exact .refl registry
    | exact persistRefreshed_revises env registry
    | exact storeRefreshed_revises env registry
    | refine .submit env registry ⟨rfl, ⟨rfl, rfl, ?_, fun hrd => hrd⟩, rfl⟩
      simp [reconcileReparentNotificationIntents, newTreeRequest]

theorem storeDecision_revises (kind : ActorKind) (actor requestId : String)
    (decision : ReparentDecision)
    (hf : (refreshReparentRequests env registry registry.reparentRequests).find?
      (fun record => record.id = requestId) = some record)
    (hpe : record.status = .pending) :
    Revises new registry (storeDecision env registry kind actor requestId decision) := by
  refine .store _ fun reviewing => forall₂_trans reviewing.trans
    (reviewing.refresh env _ _) (forall₂_modifyFirst reviewing.refl ?_)
  intro other chosen
  cases (show some other = some record from chosen.symm.trans hf)
  exact reviewing.decide env _ _ _ _ hpe

theorem decideReparentRequest_revises (requestId requester credential : String)
    (decision : ReparentDecision) :
    Revises new registry
      (decideReparentRequest env registry requestId requester credential decision).1 := by
  unfold decideReparentRequest
  dsimp only
  repeat' split
  all_goals first
    | exact .refl registry
    | exact persistRefreshed_revises env registry
    | exact storeRefreshed_revises env registry
    | exact storeDecision_revises env registry _ _ _ _ ‹_› (not_not.mp ‹_›)

theorem decideReparentRequestAsHuman_revises (requestId actor : String)
    (decision : ReparentDecision) :
    Revises new registry (decideReparentRequestAsHuman env registry requestId actor decision).1 := by
  unfold decideReparentRequestAsHuman
  dsimp only
  repeat' split
  all_goals first
    | exact .refl registry
    | exact persistRefreshed_revises env registry
    | exact storeRefreshed_revises env registry
    | exact storeDecision_revises env registry _ _ _ _ ‹_› (not_not.mp ‹_›)

theorem verifyReparentRepair_revises {after : Registry} {requestId attemptedAt : String}
    (hd : verifyReparentRepair registry requestId attemptedAt = .ok after) :
    Revises new registry after := by
  unfold verifyReparentRepair at hd
  repeat' split at hd
  all_goals cases hd
  rename_i record hf _
  refine .store _ fun reviewing => forall₂_modifyFirst reviewing.refl ?_
  intro other chosen
  cases (show some other = some record from chosen.symm.trans hf)
  exact reviewing.attempt _ _

theorem foldl_choice {choose : Option α → α → Option α}
    (chooses : ∀ held value, choose held value = held ∨ choose held value = some value)
    {values : List α} {start : Option α} {best : α} (hf : values.foldl choose start = some best) :
    start = some best ∨ best ∈ values := by
  induction values generalizing start with
  | nil => exact .inl hf
  | cons value _ ih =>
    rcases ih hf with hh | later
    · rcases chooses start value with held | taken
      · exact .inl (held ▸ hh)
      · rw [taken] at hh
        cases hh
        exact .inr mem_cons_self
    · exact .inr (mem_cons_of_mem _ later)

theorem minBy_mem {before : α → α → Bool} {values : List α} {best : α}
    (hf : minBy before values = some best) : best ∈ values := by
  refine (foldl_choice ?_ hf).resolve_left nofun
  intro held _
  cases held with
  | none => exact .inr rfl
  | some =>
    dsimp only
    split
    · exact .inr rfl
    · exact .inl rfl

theorem readyRequest_ready (hf : readyRequest records = some record) :
    record ∈ records ∧ record.status = .pending ∧ record.readyToApply := by
  have hm := minBy_mem hf
  simpa using hm

theorem acquireReparentApplyLease_quiet (queue : QueueDb) :
    Quiet registry (acquireReparentApplyLease env registry queue).1 := by
  unfold acquireReparentApplyLease
  split
  · exact .refl _
  dsimp only
  split
  · exact (persistRefreshed_revises env _).quiet fun _ => id
  rename_i record hf
  obtain ⟨_, hpe, hrd⟩ := readyRequest_ready hf
  have chosen : ∀ other, (refreshReparentRequests env registry
      registry.reparentRequests).find? (fun other => other = record) = some other →
      other = record := by
    intro other ht
    simpa using find?_some ht
  split
  · apply Quiet.store
    refine forall₂_trans .trans (reviewing_moves.refresh env _ _)
      (forall₂_modifyFirst (fun _ => .refl) ?_)
    intro other ht
    rw [chosen _ ht]
    exact .single (.retire _ .stale _ _ record.supersededByRequestId hpe (by simp))
  · refine .of_moved rfl (reviewing_moves.reconcile (forall₂_trans .trans
      (reviewing_moves.refresh env _ _) (forall₂_modifyFirst (fun _ => .refl) ?_)))
    intro other ht
    rw [chosen _ ht]
    exact .single (.lease _ _ hpe hrd rfl)

end

section

structure SameFrame (before after : Registry) : Prop where
  hierarchy : hierarchy after = hierarchy before
  requests : after.reparentRequests = before.reparentRequests
  lease : after.reparentApplyLease = before.reparentApplyLease

theorem SameFrame.refl (registry : Registry) : SameFrame registry registry := ⟨rfl, rfl, rfl⟩

theorem SameFrame.trans {first second third : Registry} (one : SameFrame first second)
    (two : SameFrame second third) : SameFrame first third :=
  ⟨two.hierarchy.trans one.hierarchy, two.requests.trans one.requests, two.lease.trans one.lease⟩

theorem SameFrame.quiet (hfm : SameFrame before after) : Quiet before after :=
  .of_moved hfm.hierarchy (hfm.requests ▸ forall₂_same.mpr fun _ _ => .refl)

variable {registry after : Registry} {change : RoutingChange}
  {checkMonitor : RoutingChange → SessionRecord → Except String Unit}
  {setMonitor : RoutingChange → SessionRecord → SessionRecord}
  {checkWake : RoutingChange → RetainedWake → Except String Unit}
  {setWake : RoutingChange → RetainedWake → RetainedWake}

/-- Only the chosen wake or the chosen session changes, and the session keeps its place. -/
theorem overJsonRoute_cases
        (hd : overJsonRoute checkWake checkMonitor setWake setMonitor registry change = .ok after) :
    (change.recordKind = .parentWake ∧ ∃ entry,
      findRetainedWake registry change.recordId = some entry ∧ checkWake change entry = .ok () ∧
        after = updateRetainedWake registry change.recordId (setWake change)) ∨
    (change.recordKind = .contextMonitor ∧ ∃ session,
      findSession registry change.childSessionId = some session ∧
        checkMonitor change session = .ok () ∧
          after = updateSession registry change.childSessionId (setMonitor change)) := by
  unfold overJsonRoute at hd
  split at hd
  · rename_i kind
    split at hd
    · cases hd
    · rename_i entry hf
      obtain ⟨_, checked, result⟩ := bind_eq_ok.mp hd
      exact .inl ⟨kind, _, hf, checked, (Except.ok.inj result).symm⟩
  · rename_i kind
    split at hd
    · cases hd
    · rename_i session hf
      obtain ⟨_, checked, result⟩ := bind_eq_ok.mp hd
      exact .inr ⟨kind, _, hf, checked, (Except.ok.inj result).symm⟩
  · cases hd

theorem overJsonRoute_frame (ids : ∀ session, (setMonitor change session).id = session.id)
    (parents : ∀ session, (setMonitor change session).parentSessionId = session.parentSessionId)
    (hd : overJsonRoute checkWake checkMonitor setWake setMonitor registry change = .ok after) :
    SameFrame registry after := by
  rcases overJsonRoute_cases hd with ⟨_, _, _, _, result⟩ | ⟨_, _, _, _, result⟩
  · rw [result]
    exact ⟨rfl, rfl, rfl⟩
  · rw [result]
    exact ⟨hierarchy_updateSession ids parents, rfl, rfl⟩

theorem foldlM_frame {step : Registry → α → Except String Registry} {values : List α}
    (hd : values.foldlM step registry = .ok after)
    (each : ∀ before value next, step before value = .ok next → SameFrame before next) :
    SameFrame registry after := by
  apply foldlM_keeps (SameFrame registry) hd
  · intro value _ before next hsp held
    exact held.trans (each _ _ next hsp)
  · exact .refl _

theorem quiesceJsonReparentRoutes_frame
    (hd : quiesceJsonReparentRoutes registry plan = .ok after) : SameFrame registry after :=
  foldlM_frame hd fun _ _ _ => overJsonRoute_frame (fun _ => rfl) (fun _ => rfl)

theorem commitJsonRoutes_frame {changes : List RoutingChange}
    (hd : changes.foldlM commitJsonRoute registry = .ok after) : SameFrame registry after :=
  foldlM_frame hd fun _ _ _ => overJsonRoute_frame (fun _ => rfl) (fun _ => rfl)

theorem restoreJsonRoute_frame
    (hd : restoreJsonRoute registry change = .ok after) : SameFrame registry after := by
  unfold restoreJsonRoute at hd
  split at hd
  · cases hd
  · exact overJsonRoute_frame (fun _ => rfl) (fun _ => rfl) hd

theorem restoreJsonReparentRoutes_frame
    (hd : restoreJsonReparentRoutes registry plan = .ok after) : SameFrame registry after :=
  foldlM_frame hd fun _ _ _ => restoreJsonRoute_frame

end

section

variable {env : Env} {registry after : Registry} {requestId : String} {record : RequestRecord}

theorem leasedReparentRequest_ok (hl : leasedReparentRequest registry requestId = .ok record) :
    registry.reparentApplyLease.map ApplyLease.requestId = some requestId ∧
      findRequest registry requestId = some record := by
  unfold leasedReparentRequest at hl
  split at hl
  · cases hl
  rename_i held
  obtain ⟨holder, hl⟩ := guard_ok.mp hl
  split at hl
  · cases hl
  · rename_i hf
    cases hl
    exact ⟨by rw [held]; simpa using holder, hf⟩

theorem leasedReparentRequest_eq_ok : leasedReparentRequest registry requestId = .ok record ↔
      registry.reparentApplyLease.map ApplyLease.requestId = some requestId ∧
        findRequest registry requestId = some record := by
  refine ⟨leasedReparentRequest_ok, ?_⟩
  rintro ⟨held, hf⟩
  obtain ⟨_, hh, hs⟩ := Option.map_eq_some_iff.mp held
  unfold leasedReparentRequest
  rw [hh]
  dsimp only
  rw [if_neg (by simpa using hs), hf]

theorem planOf_ok (hp : planOf record = .ok plan) : record.applyPlan = some plan := by
  unfold planOf at hp
  split at hp
  · cases hp
  · rename_i hf
    cases hp
    exact hf

theorem pushRetainedMessageOnceRaw_frame {message : RetainedMessage}
    (hd : pushRetainedMessageOnceRaw registry message = .ok after) : SameFrame registry after := by
  unfold pushRetainedMessageOnceRaw at hd
  split at hd
  · split at hd
    · rw [← Except.ok.inj hd]
      exact .refl _
    · cases hd
  · rw [← Except.ok.inj hd]
    exact ⟨rfl, rfl, rfl⟩

theorem replayRegistry_frame {intent : DeferredRoutingIntent} {parent : Option String}
    (hd : replayRegistry env registry requestId intent parent = .ok after) :
    SameFrame registry after := by
  unfold replayRegistry at hd
  split at hd
  · rw [← Except.ok.inj hd]
    exact ⟨rfl, rfl, rfl⟩
  · obtain ⟨_, push, hd⟩ := bind_eq_ok.mp hd
    rw [← Except.ok.inj hd]
    exact (pushRetainedMessageOnceRaw_frame push).trans ⟨rfl, rfl, rfl⟩
  · exact pushRetainedMessageOnceRaw_frame hd
  · rw [← Except.ok.inj hd]
    exact .refl _

theorem Quiet.storeReleased {record settled : RequestRecord}
    (hf : findRequest registry requestId = some record) (moves : Moves record settled) :
    Quiet registry (Reparent.storeReleased registry requestId settled) := by
  have hst := Quiet.storeRequest rfl rfl hf moves
  exact ⟨hst.hierarchy, hst.requests⟩

theorem withRepair_moves (actor : String) (action : RepairAction) (record : RequestRecord) :
    Moves record (withRepair env actor action record) := by
  cases action with
  | resume => exact .single (.resume _ _)
  | rollbackPrecommit => exact .single (.attempt _ _)

section

variable {idText actor : String} {action : RepairAction}
  (hd : beginRepair env registry idText actor action = .ok after)
include hd

theorem beginRepair_ok :
    ∃ record, leasedReparentRequest registry (trim idText) = .ok record ∧ record.status = .failed ∧
      repairAllowed action (record.applyStage.getD .applying) ∧
      after = storeRequest registry (trim idText) (withRepair env (trim actor) action record) := by
  unfold beginRepair at hd
  dsimp only at hd
  split at hd
  · cases hd
  split at hd
  · cases hd
  rename_i record hf
  obtain ⟨quarantined, hd⟩ := guard_ok.mp hd
  obtain ⟨allowed, hd⟩ := guard_ok.mp hd
  cases hd
  rw [not_or, not_not, not_not] at quarantined
  exact ⟨_, leasedReparentRequest_eq_ok.mpr ⟨quarantined.2, hf⟩, quarantined.1,
    by simpa using allowed, rfl⟩

theorem beginRepair_quiet : Quiet registry after := by
  obtain ⟨_, hl, _, _, hw⟩ := beginRepair_ok hd
  rw [hw]
  exact .storeRequest rfl rfl (leasedReparentRequest_ok hl).2 (withRepair_moves _ _ _)

end

end

end SessionManager.Reparent
