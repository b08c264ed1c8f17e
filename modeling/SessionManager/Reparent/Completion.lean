import Mathlib.Data.Prod.Lex
import SessionManager.Foundation.Timed
import SessionManager.Reparent.RegistryRoutes
import SessionManager.Reparent.System

/-! A driver that is left alone comes to an end. When the rows, the routes and the deferred messages of
a request are ready, every step of the driver succeeds, and after finitely many steps the request is
settled and the lease is given back. This holds of the way to the end after the commit, of the abort
before the quiesce and of the rollback. -/
namespace SessionManager.Reparent
open Foundation Queue List Fallible

section

variable {registry routed : Registry} {requestId : String} {record after : RequestRecord}

theorem findRequest_id (hf : findRequest registry requestId = some record) :
    record.id = requestId := by
  simpa using find?_some hf

theorem findRequest_storeRequest (requests : routed.reparentRequests = registry.reparentRequests)
    (hf : findRequest registry requestId = some record) (hs : after.id = record.id) :
    findRequest (storeRequest routed requestId after) requestId =
      some (reconcileReparentNotificationIntents after) := by
  have own : after.id = requestId := hs.trans (findRequest_id hf)
  have ht : routed.reparentRequests.find? (fun other => other.id = requestId) = some record := by
    rw [requests]
    exact hf
  have placed : (modifyFirst (fun other => other.id = requestId) (fun _ => after)
      routed.reparentRequests).find? (fun other => other.id = requestId) = some after :=
    find?_modifyFirst_self ht (by simpa using own)
  have blind : ∀ other : RequestRecord,
      decide ((reconcileReparentNotificationIntents other).id = requestId) =
        decide (other.id = requestId) := fun _ => rfl
  exact (find?_map_of_blind blind _).trans (congrArg _ placed)

theorem leased_storeRequest (hl : leasedReparentRequest registry requestId = .ok record)
    (hfm : SameFrame registry routed) (hs : after.id = record.id) :
    leasedReparentRequest (storeRequest routed requestId after) requestId =
      .ok (reconcileReparentNotificationIntents after) := by
  obtain ⟨held, hf⟩ := leasedReparentRequest_ok hl
  refine leasedReparentRequest_eq_ok.mpr ⟨?_, findRequest_storeRequest hfm.requests hf hs⟩
  have lease := hfm.lease
  exact (congrArg (Option.map ApplyLease.requestId) lease).trans held

end

section

variable {env : Env} {ids : RowIds} {stores : Stores} {record : RequestRecord} {run : Replay}
  {intent : DeferredRoutingIntent} {parent : Option String} {sent : Nat}

theorem step_pick (env : Env) (ids : RowIds)
    (hl : leasedReparentRequest stores.registry run.requestId = .ok record) :
    Pc.step env ids stores (.pick run) = .ok (stores, match (run.todo record).head? with
      | none => .conclude run.purpose run.requestId
      | some intent => .resolve run intent) := by
  refine bind_eq_ok.mpr ⟨_, nextDeferredIntent_eq hl, ?_⟩
  cases (run.todo record).head? <;> rfl

theorem step_send {write : ReplayWrite}
    (next : (intent.job.writes env run.requestId parent)[sent]? = some write)
    (fits : write.Fits stores.queue) :
    Pc.step env ids stores (.send run intent parent sent) =
      .ok (stores.withQueue (write.apply ids stores.queue),
        .send run intent parent (sent + 1)) := by
  simp only [Pc.step]
  rw [replayQueueWrites_eq, getElem?_map, next]
  exact bind_eq_ok.mpr ⟨_, ReplayWrite.run_ok fits, rfl⟩

theorem step_sent (hex : (intent.job.writes env run.requestId parent)[sent]? = none) :
    Pc.step env ids stores (.send run intent parent sent) =
      .ok (stores, .record run intent parent) := by
  simp only [Pc.step]
  rw [replayQueueWrites_eq, getElem?_map, hex]
  rfl

/-- The registry at the end of the replay of one intent. -/
def replayedRegistry (env : Env) (stores : Stores) (requestId : String) (record : RequestRecord)
    (intent : DeferredRoutingIntent) : Registry :=
  storeRequest (intent.job.retainedIn env requestId stores.registry) requestId
    (record.withReplayed env intent (parentOf stores.registry intent.childSessionId))

theorem step_record (ids : RowIds)
    (hl : leasedReparentRequest stores.registry run.requestId = .ok record)
    (hm : intent ∈ record.deferredRoutingIntents)
    (hrd : JobReady env run.requestId stores intent.job) :
    Pc.step env ids stores (.record run intent (parentOf stores.registry intent.childSessionId)) =
      .ok (stores.withRegistry (replayedRegistry env stores run.requestId record intent),
        .pick (run.past intent)) := by
  have hk : record.deferredRoutingIntents.any (fun current => current.key = intent.key) =
      true := any_eq_true.mpr ⟨_, hm, by simp⟩
  refine bind_eq_ok.mpr ⟨_, bind_eq_ok.mpr ⟨_, hl, ?_⟩, rfl⟩
  rw [if_neg (by simp [hk])]
  exact bind_eq_ok.mpr ⟨_, replayRegistry_ok hrd.retained, rfl⟩

end

variable {registry : Registry} {rows : List ParentRoutingMessageRow}

section

variable {env : Env} {ids : RowIds} {stores : Stores} {record : RequestRecord} {requestId : String}
  {before after : Registry}

structure SameRoutes (before after : Registry) : Prop where
  sessions : after.sessions = before.sessions
  wakes : after.retainedParentWakes = before.retainedParentWakes
  messages : after.retainedPendingMessages = before.retainedPendingMessages

theorem SameRoutes.hierarchy (hs : SameRoutes before after) :
    hierarchy after = hierarchy before := by
  unfold Reparent.hierarchy
  rw [hs.sessions]

theorem SameRoutes.jsonRoute (hs : SameRoutes before after) :
    jsonRoute after = jsonRoute before := by
  funext change
  simp only [Reparent.jsonRoute, findRetainedWake, findSession, hs.sessions, hs.wakes]

theorem JobReady.withRegistry {job : Job} (hrd : JobReady env requestId stores job)
    (parents : parentOf registry = parentOf stores.registry)
    (kept : registry.retainedPendingMessages = stores.registry.retainedPendingMessages) :
    JobReady env requestId (stores.withRegistry registry) job where
  message message deferred := by
    refine hrd.message _ ?_
    rw [← parents]
    exact deferred
  retained message deferred := by
    change RetainedFits registry.retainedPendingMessages message
    rw [kept]
    refine hrd.retained _ ?_
    rw [← parents]
    exact deferred

/-- What becomes of a request that has already been given its plan, apart from its intents. -/
structure SameCourse (before after : RequestRecord) : Prop where
  stage : after.applyStage = before.applyStage
  plan : after.applyPlan = before.applyPlan
  status : after.status = before.status

def lateJob (message : ParentRoutingMessageRow) : Job :=
  ⟨deliveredWakeKey message.id, .parentWake 600, message.childSessionId⟩

def withLate (env : Env) (rows : List ParentRoutingMessageRow)
    (intents : List DeferredRoutingIntent) : List DeferredRoutingIntent :=
  (rows.filter ParentRoutingMessageRow.createsParentWake).foldl (pushDeliveredWake env) intents

theorem lateJob_messageId (message : ParentRoutingMessageRow) :
    (lateJob message).messageId env requestId = none := rfl

theorem lateJob_ready (message : ParentRoutingMessageRow) :
    JobReady env requestId stores (lateJob message) := by
  constructor
  · intro other h
    cases h
  · intro other h
    cases h

variable {intents : List DeferredRoutingIntent}

theorem pushIntent_keyed (keyed : (intents.map DeferredRoutingIntent.key).Nodup) (key : String)
    (operation : DeferredOperation) (child : String) :
    ((pushIntent env intents key operation child).map DeferredRoutingIntent.key).Nodup := by
  unfold pushIntent
  split
  · exact keyed
  · rename_i hab
    refine nodup_map_snoc keyed ?_
    intro _ hi hs
    exact hab (any_eq_true.mpr ⟨_, hi, decide_eq_true hs⟩)

theorem withLate_keyed (keyed : (intents.map DeferredRoutingIntent.key).Nodup)
    (rows : List ParentRoutingMessageRow) :
    ((withLate env rows intents).map DeferredRoutingIntent.key).Nodup := by
  unfold withLate
  induction rows.filter ParentRoutingMessageRow.createsParentWake generalizing intents with
  | nil => exact keyed
  | cons _ _ ih => exact ih (pushIntent_keyed keyed _ _ _)

theorem mem_withLate {intent : DeferredRoutingIntent} (hm : intent ∈ withLate env rows intents) :
    intent ∈ intents ∨ ∃ row ∈ rows, intent.job = lateJob row := by
  have hi : ∀ late : List ParentRoutingMessageRow, (∀ row ∈ late, row ∈ rows) →
      ∀ before, intent ∈ late.foldl (pushDeliveredWake env) before →
        intent ∈ before ∨ ∃ row ∈ rows, intent.job = lateJob row := by
    intro late
    induction late with
    | nil => exact fun _ _ hh => .inl hh
    | cons row _ ih =>
      intro hwi before hh
      rcases ih (fun other ht => hwi other (mem_cons_of_mem row ht)) _ hh with
        earlier | later
      · unfold pushDeliveredWake pushIntent at earlier
        split at earlier
        · exact .inl earlier
        · rcases mem_snoc.mp earlier with old | rfl
          · exact .inl old
          · exact .inr ⟨row, hwi row mem_cons_self, rfl⟩
      · exact .inr later
  exact hi _ (fun row => mem_of_mem_filter) _ hm

theorem step_delivered (purpose : Purpose) (plan : ApplyPlan)
    (hl : leasedReparentRequest stores.registry requestId = .ok record)
    (rows : List ParentRoutingMessageRow) :
    ∃ registry after, Pc.step env ids stores (.delivered purpose requestId plan rows) =
        .ok (stores.withRegistry registry, afterDelivered purpose requestId plan) ∧
      leasedReparentRequest registry requestId = .ok after ∧ SameRoutes stores.registry registry ∧
      SameCourse record after ∧
      after.deferredRoutingIntents = withLate env rows record.deferredRoutingIntents := by
  by_cases none_ : (rows.filter ParentRoutingMessageRow.createsParentWake).isEmpty
  · refine ⟨stores.registry, _, ?_, hl, ⟨rfl, rfl, rfl⟩, ⟨rfl, rfl, rfl⟩, ?_⟩
    · exact bind_eq_ok.mpr ⟨_, if_pos none_, rfl⟩
    · rw [withLate, isEmpty_iff.mp none_]
      rfl
  · have hw : persistDeliveredReparentWakeIntents env stores.registry requestId rows =
        .ok (storeRequest stores.registry requestId { record with
          deferredRoutingIntents := withLate env _ record.deferredRoutingIntents }) :=
      (if_neg none_).trans (bind_eq_ok.mpr ⟨_, hl, rfl⟩)
    exact ⟨_, _, bind_eq_ok.mpr ⟨_, hw, rfl⟩,
      leased_storeRequest hl (.refl _) rfl, ⟨rfl, rfl, rfl⟩, ⟨rfl, rfl, rfl⟩, rfl⟩

end

section

namespace Purpose

def restores : Purpose → Bool
  | .rollback _ => true
  | .finish | .abort _ => false

def Stage : Purpose → Option ApplyStage → Prop
  | .finish, stage => stage = some .authorityCommitted
  | .abort _, stage => stage = some .prequiesceAborting
  | .rollback _, stage => stage = some .jsonRoutingQuiesced ∨ stage = some .routingQuiesced

def status : Purpose → RequestStatus
  | .finish => .applied
  | .abort _ => .stale
  | .rollback staleReason => if staleReason.isSome then .stale else .repaired

def replay (purpose : Purpose) (requestId : String) : Replay :=
  ⟨purpose, requestId, purpose.restores, []⟩

end Purpose

structure Replayable (env : Env) (run : Replay) (stores : Stores) (record : RequestRecord) :
    Prop where
  leased : leasedReparentRequest stores.registry run.requestId = .ok record
  stage : run.purpose.Stage record.applyStage
  keyed : record.Keyed
  apart : IdsApart env run.requestId (run.todo record)
  jobs : ∀ intent ∈ run.todo record, JobReady env run.requestId stores intent.job

structure Routable (env : Env) (purpose : Purpose) (requestId : String) (plan : ApplyPlan)
    (stores : Stores) (record : RequestRecord) : Prop
    extends Replayable env (purpose.replay requestId) stores record where
  planned : record.applyPlan = some plan
  fits : PlanFits plan
  rows : RowsReady purpose.restores plan stores.queue
  json : purpose.restores = true →
    JsonFits plan ∧ RoutesRestorable stores.registry plan ∧ OldEdges stores.registry plan

inductive Safe (env : Env) (purpose : Purpose) (requestId : String) (stores : Stores) : Pc → Prop
  | finishing {left : Nat} {plan : ApplyPlan} {record : RequestRecord} (finish : purpose = .finish)
      (routable : Routable env purpose requestId plan stores record)
      (unapplied : record.status ≠ .applied) :
      Safe env purpose requestId stores (.stage (left + 1) requestId)
  | aborting {left : Nat} {record : RequestRecord} (abort : purpose = .abort false)
      (replayable : Replayable env ⟨purpose, requestId, true, []⟩ stores record)
      (unapplied : record.status ≠ .applied) :
      Safe env purpose requestId stores (.stage (left + 1) requestId)
  | readGroups {plan : ApplyPlan} {record : RequestRecord}
      (routable : Routable env purpose requestId plan stores record) :
      Safe env purpose requestId stores (.readGroups purpose requestId)
  | retarget {plan : ApplyPlan} {record : RequestRecord} (targets : List (Option String))
      (rows : List ParentRoutingMessageRow)
      (routable : Routable env purpose requestId plan stores record) :
      Safe env purpose requestId stores
        (.retarget purpose requestId plan (targets.map (groupTo purpose.restores plan)) rows)
  | delivered {plan : ApplyPlan} {record : RequestRecord} (rows : List ParentRoutingMessageRow)
      (routable : Routable env purpose requestId plan stores record) :
      Safe env purpose requestId stores (.delivered purpose requestId plan rows)
  | restore {plan : ApplyPlan} {record : RequestRecord} {staleReason : Option String}
      (rollback : purpose = .rollback staleReason)
      (routable : Routable env purpose requestId plan stores record) :
      Safe env purpose requestId stores (.restore staleReason requestId plan)
  | pick {run : Replay} {record : RequestRecord}
      (own : run.purpose = purpose ∧ run.requestId = requestId)
      (replayable : Replayable env run stores record) :
      Safe env purpose requestId stores (.pick run)
  | resolve {run : Replay} {record : RequestRecord} {intent : DeferredRoutingIntent}
      (own : run.purpose = purpose ∧ run.requestId = requestId)
      (replayable : Replayable env run stores record)
      (next : (run.todo record).head? = some intent) :
      Safe env purpose requestId stores (.resolve run intent)
  | send {run : Replay} {record : RequestRecord} {intent : DeferredRoutingIntent} {sent : Nat}
      (own : run.purpose = purpose ∧ run.requestId = requestId)
      (replayable : Replayable env run stores record)
      (next : (run.todo record).head? = some intent)
      (within : sent ≤ (intent.job.writes env run.requestId
        (parentOf stores.registry intent.childSessionId)).length) :
      Safe env purpose requestId stores
        (.send run intent (parentOf stores.registry intent.childSessionId) sent)
  | record {run : Replay} {record : RequestRecord} {intent : DeferredRoutingIntent}
      (own : run.purpose = purpose ∧ run.requestId = requestId)
      (replayable : Replayable env run stores record)
      (next : (run.todo record).head? = some intent) :
      Safe env purpose requestId stores
        (.record run intent (parentOf stores.registry intent.childSessionId))
  | conclude {record : RequestRecord}
      (leased : leasedReparentRequest stores.registry requestId = .ok record)
      (stage : purpose.Stage record.applyStage) (replayed : hasPendingIntent record = false) :
      Safe env purpose requestId stores (.conclude purpose requestId)

structure Released (purpose : Purpose) (requestId : String) (system : System) : Prop where
  idle : system.pc = .idle
  lease : system.stores.registry.reparentApplyLease = none
  status : ∃ record, findRequest system.stores.registry requestId = some record ∧
    record.status = purpose.status

end

section

def toPick (stores : Stores) (run : Replay) : Nat :=
  match leasedReparentRequest stores.registry run.requestId with
  | .ok record => (run.todo record).length
  | .error _ => 0

theorem toPick_eq {stores : Stores} {run : Replay} {record : RequestRecord}
    (hl : leasedReparentRequest stores.registry run.requestId = .ok record) :
    toPick stores run = (run.todo record).length := by
  unfold toPick
  rw [hl]

def phase : Pc → Nat
  | .stage _ _ => 6
  | .readGroups _ _ => 5
  | .retarget _ _ _ _ _ => 4
  | .delivered _ _ _ _ => 3
  | .restore _ _ _ => 2
  | .pick _ | .resolve _ _ | .send _ _ _ _ | .record _ _ _ => 1
  | _ => 0

/-- How far the driver is from the end of its phase. An intent takes at most six steps. -/
def distance (stores : Stores) : Pc → Nat
  | .retarget _ _ _ groups _ => groups.length
  | .pick run => 6 * toPick stores run
  | .resolve run _ => 6 * toPick stores run - 1
  | .send run _ _ sent => 6 * toPick stores run - 2 - sent
  | .record run _ _ => 6 * toPick stores run - 5
  | _ => 0

def rank (system : System) : ℕ ×ₗ ℕ :=
  toLex (phase system.pc, distance system.stores system.pc)

end

section

variable {env : Env} {ids : RowIds} {now : Int} {purpose : Purpose} {requestId : String}
  {stores next : Stores} {pc : Pc} {plan : ApplyPlan} {record : RequestRecord} {run : Replay}
  {intent : DeferredRoutingIntent} {after : Pc}

theorem drive_eq (hsp : Pc.step (env.atTime now) ids stores pc = .ok (next, after)) :
    drive env ids now ⟨stores, pc⟩ = ⟨next, after⟩ := by
  unfold drive driverStep
  rw [hsp]

/-- The next step settles the request, or it is one of finitely many that lead there. -/
def Advances (env : Env) (ids : RowIds) (purpose : Purpose) (requestId : String) (now : Int)
    (system : System) : Prop :=
  Released purpose requestId (drive env ids now system) ∨
    Safe env purpose requestId (drive env ids now system).stores (drive env ids now system).pc ∧
      rank (drive env ids now system) < rank system

theorem Advances.of_step (hsp : Pc.step (env.atTime now) ids stores pc = .ok (next, after))
    (safe : Safe env purpose requestId next after)
    (lower : phase after < phase pc ∨
      phase after = phase pc ∧ distance next after < distance stores pc) :
    Advances env ids purpose requestId now ⟨stores, pc⟩ := by
  unfold Advances
  rw [drive_eq hsp]
  exact .inr ⟨safe, Prod.Lex.toLex_lt_toLex.mpr lower⟩

theorem unapplied_find (hl : leasedReparentRequest stores.registry requestId = .ok record)
    (hua : record.status ≠ .applied) :
    ¬((findRequest stores.registry requestId).any fun record => record.status = .applied) =
      true := by
  rw [(leasedReparentRequest_ok hl).2]
  simpa using hua

theorem Routable.withQueue {queue : QueueDb}
    (routable : Routable env purpose requestId plan stores record)
    (retargeted : Retargeted purpose.restores plan stores.queue queue) :
    Routable env purpose requestId plan (stores.withQueue queue) record :=
  { routable with
    jobs := fun intent hm => (routable.jobs intent hm).of_unrouted retargeted.unrouted
    rows := retargeted.ready routable.rows }

theorem Routable.step_stage (left : Nat)
    (routable : Routable env .finish requestId plan stores record)
    (hua : record.status ≠ .applied) :
    Pc.step (env.atTime now) ids stores (.stage (left + 1) requestId) =
      .ok (stores, .readGroups .finish requestId) := by
  have stage : record.applyStage = some .authorityCommitted := routable.stage
  refine bind_eq_ok.mpr ⟨_, ?_, rfl⟩
  unfold stageStep
  dsimp only
  have hl : leasedReparentRequest stores.registry requestId = .ok record := routable.leased
  rw [if_neg (unapplied_find hl hua)]
  exact bind_eq_ok.mpr ⟨_, hl, by rw [stage]; rfl⟩

theorem Replayable.advances_stage {left : Nat}
    (hrp : Replayable env ⟨.abort false, requestId, true, []⟩ stores record)
    (hua : record.status ≠ .applied) :
    Advances env ids (.abort false) requestId now ⟨stores, .stage (left + 1) requestId⟩ := by
  refine .of_step ?_ (.pick ⟨rfl, rfl⟩ hrp) (.inl (by simp [phase]))
  have stage : record.applyStage = some .prequiesceAborting := hrp.stage
  refine bind_eq_ok.mpr ⟨_, ?_, rfl⟩
  unfold stageStep
  dsimp only
  have hl := hrp.leased
  rw [if_neg (unapplied_find hl hua)]
  exact bind_eq_ok.mpr ⟨_, hl, by rw [stage]; rfl⟩

section

variable (routable : Routable env purpose requestId plan stores record)
include routable

theorem step_readGroups : Pc.step (env.atTime now) ids stores (.readGroups purpose requestId) =
      .ok (stores, .retarget purpose requestId plan
        ((routeTargets purpose.restores plan).map (groupTo purpose.restores plan)) []) := by
  refine bind_eq_ok.mpr ⟨_, bind_eq_ok.mpr ⟨_, routable.leased, ?_⟩, rfl⟩
  have hp : planOf record = .ok plan := by
    unfold planOf
    rw [routable.planned]
  have groups := queueRouteGroupsFromPlan_ok routable.fits purpose.restores
  have stage := routable.stage
  cases purpose with
  | rollback =>
    refine (if_pos stage).trans ?_
    exact bind_eq_ok.mpr ⟨_, hp, bind_eq_ok.mpr ⟨_, groups, rfl⟩⟩
  | finish | abort =>
    exact bind_eq_ok.mpr ⟨_, hp, bind_eq_ok.mpr ⟨_, groups, rfl⟩⟩

theorem Routable.step_retarget
    (now : Int) (ids : RowIds) (target : Option String) (targets : List (Option String))
    (rows : List ParentRoutingMessageRow) :
    ∃ queue, Pc.step (env.atTime now) ids stores (.retarget purpose requestId plan
          ((target :: targets).map (groupTo purpose.restores plan)) rows) =
        .ok (stores.withQueue queue, .retarget purpose requestId plan
          (targets.map (groupTo purpose.restores plan))
          (rows ++ deliveredTo purpose.restores plan stores.queue target)) ∧
      Retargeted purpose.restores plan stores.queue queue ∧
      ∀ change ∈ plan.queueRoutingChanges, routeTarget purpose.restores change = target →
        RouteSettled purpose.restores queue change := by
  obtain ⟨queue, hd, retargeted, hse⟩ := retargetGroup_ok routable.fits routable.rows _
  exact ⟨_, bind_eq_ok.mpr ⟨_, hd, rfl⟩, retargeted, hse⟩

theorem Routable.advances_retarget
    (targets : List (Option String)) (rows : List ParentRoutingMessageRow) :
    Advances env ids purpose requestId now ⟨stores, .retarget purpose requestId plan
      (targets.map (groupTo purpose.restores plan)) rows⟩ := by
  cases targets with
  | nil => exact .of_step rfl (.delivered _ routable) (.inl (by simp [phase]))
  | cons _ targets =>
    obtain ⟨_, hsp, retargeted, _⟩ := routable.step_retarget now ids _ _ _
    refine .of_step hsp (.retarget _ _ (routable.withQueue retargeted)) (.inr ?_)
    exact ⟨rfl, by simp [distance]⟩

end

/-- The intents that late deliveries add are ready, since they send nothing. -/
theorem Routable.late {after : RequestRecord} {writer : Env}
    (routable : Routable env purpose requestId plan stores record)
    (leased : leasedReparentRequest registry requestId = .ok after)
    (routes : SameRoutes stores.registry registry) (course : SameCourse record after)
    (intents : after.deferredRoutingIntents = withLate writer rows record.deferredRoutingIntents) :
    Routable env purpose requestId plan (stores.withRegistry registry) after := by
  have picked : ∀ intent ∈ (purpose.replay requestId).todo after,
      intent ∈ (purpose.replay requestId).todo record ∨ ∃ row, intent.job = lateJob row := by
    intro intent member
    obtain ⟨inside, wanted⟩ := mem_filter.mp member
    rw [intents] at inside
    rcases mem_withLate inside with old | ⟨row, _, late⟩
    · exact .inl (mem_filter.mpr ⟨old, wanted⟩)
    · exact .inr ⟨row, late⟩
  have earlier : ∀ intent ∈ (purpose.replay requestId).todo after,
      ∀ id ∈ intent.job.messageId env requestId,
        intent ∈ (purpose.replay requestId).todo record := by
    intro intent member id sends
    refine (picked intent member).resolve_right ?_
    rintro ⟨row, late⟩
    rw [late, lateJob_messageId] at sends
    cases sends
  exact
    { leased
      stage := course.stage ▸ routable.stage
      keyed := by
        unfold RequestRecord.Keyed
        rw [intents]
        exact withLate_keyed routable.keyed _
      apart := fun one first two second id sends same =>
        routable.apart _ (earlier one first id sends) _ (earlier two second id same) id sends same
      jobs := by
        intro intent member
        rcases picked intent member with old | ⟨row, late⟩
        · exact (routable.jobs _ old).withRegistry (parentOf_congr routes.hierarchy)
            routes.messages
        · rw [late]
          exact lateJob_ready row
      planned := course.plan.trans routable.planned
      fits := routable.fits
      rows := routable.rows
      json := by
        intro restores
        obtain ⟨json, restorable, old⟩ := routable.json restores
        refine ⟨json, ?_, ?_⟩
        · intro change member
          obtain ⟨_, found, hrd⟩ := restorable change member
          exact ⟨_, (congrFun routes.jsonRoute change).trans found, hrd⟩
        · intro _ member
          exact (congrFun (sessionParent_congr routes.hierarchy) _).trans (old _ member) }

theorem Routable.safe_afterDelivered
    (routable : Routable env purpose requestId plan stores record) :
    Safe env purpose requestId stores (afterDelivered purpose requestId plan) ∧
      phase (afterDelivered purpose requestId plan) < 3 := by
  cases purpose with
  | rollback => exact ⟨.restore rfl routable, by simp [afterDelivered, phase]⟩
  | finish | abort =>
    exact ⟨.pick ⟨rfl, rfl⟩ routable.toReplayable, by simp [afterDelivered, phase]⟩

theorem Routable.advances_delivered (routable : Routable env purpose requestId plan stores record)
    (rows : List ParentRoutingMessageRow) :
    Advances env ids purpose requestId now ⟨stores, .delivered purpose requestId plan rows⟩ := by
  obtain ⟨_, _, hsp, hl, routes, course, intents⟩ :=
    step_delivered _ _ routable.leased _
  obtain ⟨safe, lower⟩ := (routable.late hl routes course intents).safe_afterDelivered
  exact .of_step hsp safe (.inl lower)

theorem Replayable.of_frame (hrp : Replayable env run stores record)
    (hfm : SameFrame stores.registry registry)
    (kept : registry.retainedPendingMessages = stores.registry.retainedPendingMessages) :
    Replayable env run (stores.withRegistry registry) record :=
  { leased := by
      obtain ⟨held, hf⟩ := leasedReparentRequest_ok hrp.leased
      refine leasedReparentRequest_eq_ok.mpr ⟨?_, ?_⟩
      · exact (congrArg (Option.map ApplyLease.requestId) hfm.lease).trans held
      · exact (congrArg (List.find? _) hfm.requests).trans hf
    stage := hrp.stage
    keyed := hrp.keyed
    apart := hrp.apart
    jobs := fun _ hm =>
      (hrp.jobs _ hm).withRegistry (parentOf_congr hfm.hierarchy) kept }

theorem Routable.advances_restore {staleReason : Option String}
    (routable : Routable env (.rollback staleReason) requestId plan stores record) :
    Advances env ids (.rollback staleReason) requestId now
      ⟨stores, .restore staleReason requestId plan⟩ := by
  obtain ⟨json, restorable, old⟩ := routable.json rfl
  obtain ⟨_, hd, hfm, kept⟩ :=
    restoreReparentRouting_ok routable.leased json restorable old
  exact .of_step (bind_eq_ok.mpr ⟨_, hd, rfl⟩)
    (.pick ⟨rfl, rfl⟩ (routable.toReplayable.of_frame hfm kept)) (.inl (by simp [phase]))

theorem hasPendingIntent_of_todo (hex : run.todo record = []) : hasPendingIntent record = false := by
  unfold hasPendingIntent
  rw [any_eq_false]
  intro _ hm hpe
  have wanted := filter_eq_nil_iff.mp hex _ hm
  simp [Replay.wants, hpe] at wanted

theorem Replayable.advances_pick (own : run.purpose = purpose ∧ run.requestId = requestId)
    (hrp : Replayable env run stores record) :
    Advances env ids purpose requestId now ⟨stores, .pick run⟩ := by
  have hsp := step_pick (env.atTime now) ids hrp.leased
  cases next : run.todo record with
  | nil =>
    rw [next] at hsp
    refine .of_step hsp ?_ (.inl (by simp [phase]))
    rw [own.1, own.2]
    exact .conclude (own.2 ▸ hrp.leased) (own.1 ▸ hrp.stage) (hasPendingIntent_of_todo next)
  | cons =>
    rw [next, head?_cons] at hsp
    refine .of_step hsp (.resolve own hrp (by rw [next]; rfl)) (.inr ⟨rfl, ?_⟩)
    simp only [distance, toPick_eq hrp.leased, next, length_cons]
    omega

theorem toPick_pos (hl : leasedReparentRequest stores.registry run.requestId = .ok record)
    (next : (run.todo record).head? = some intent) : 0 < toPick stores run := by
  rw [toPick_eq hl]
  exact length_pos_of_mem (mem_of_head? next)

theorem Replayable.same_job (hrp : Replayable env run stores record)
    {other : DeferredRoutingIntent} (hh : intent ∈ run.todo record)
    (ht : other ∈ run.todo record) : ∀ id ∈ intent.job.messageId env run.requestId,
      other.job.messageId env run.requestId = some id → intent.job = other.job :=
  fun id sends same => congrArg DeferredRoutingIntent.job (inj_on_of_nodup_map hrp.keyed
    (mem_of_mem_filter hh) (mem_of_mem_filter ht) (hrp.apart _ hh _ ht id sends same))

theorem Replayable.write (ids : RowIds)
    (hrp : Replayable env run stores record) (next : intent ∈ run.todo record)
    {write : ReplayWrite} (hm : write ∈ intent.job.writes env run.requestId
      (parentOf stores.registry intent.childSessionId)) :
    Replayable env run (stores.withQueue (write.apply ids stores.queue)) record :=
  { leased := hrp.leased
    stage := hrp.stage
    keyed := hrp.keyed
    apart := hrp.apart
    jobs := fun other ht => (hrp.jobs other ht).write (hrp.same_job next ht) hm }

theorem Replayable.advances_send {sent : Nat}
    (own : run.purpose = purpose ∧ run.requestId = requestId)
    (hrp : Replayable env run stores record)
    (next : (run.todo record).head? = some intent)
    (hwi : sent ≤ (intent.job.writes env run.requestId
      (parentOf stores.registry intent.childSessionId)).length) :
    Advances env ids purpose requestId now
      ⟨stores, .send run intent (parentOf stores.registry intent.childSessionId) sent⟩ := by
  have hpo := toPick_pos hrp.leased next
  have short := Job.writes_length env run.requestId intent.job
    (parentOf stores.registry intent.childSessionId)
  cases hf : (intent.job.writes env run.requestId
      (parentOf stores.registry intent.childSessionId))[sent]? with
  | none =>
    refine .of_step (step_sent hf) (.record own hrp next) (.inr ⟨rfl, ?_⟩)
    simp only [distance]
    omega
  | some write =>
    have hi := mem_of_getElem? hf
    have hrd := hrp.jobs _ (mem_of_head? next)
    have later := hrp.write ids (mem_of_head? next) hi
    have more := (List.getElem?_eq_some_iff.mp hf).1
    refine .of_step (step_send hf (hrd.fits hi)) (.send own later next more) (.inr ⟨rfl, ?_⟩)
    have hs : toPick (stores.withQueue (write.apply ids stores.queue)) run =
      toPick stores run := rfl
    simp only [distance, hs]
    omega

theorem Replayable.recorded {rest : List DeferredRoutingIntent} (writer : Env)
    (hrp : Replayable env run stores record) (sameDigest : writer.sha256Text = env.sha256Text)
    (next : run.todo record = intent :: rest) :
    Replayable env (run.past intent)
      (stores.withRegistry (replayedRegistry writer stores run.requestId record intent))
      (reconcileReparentNotificationIntents (record.withReplayed writer intent
        (parentOf stores.registry intent.childSessionId))) := by
  have todo := todo_withReplayed writer hrp.keyed next
    (parentOf stores.registry intent.childSessionId)
  have within : rest ⊆ run.todo record := next ▸ subset_cons_self _ _
  exact
    { leased := leased_storeRequest hrp.leased ⟨rfl, rfl, rfl⟩ rfl
      stage := hrp.stage
      keyed := hrp.keyed.withReplayed intent _
      apart := hrp.apart.of_subset ((congrArg (· ⊆ run.todo record) todo).mpr within)
      jobs := by
        intro other hm
        have ht : other ∈ run.todo record := within (todo ▸ hm)
        have hh : intent ∈ run.todo record := next ▸ mem_cons_self
        refine (hrp.jobs _ ht).record (hrp.same_job hh ht) rfl ?_
        obtain ⟨_, _, _, _⟩ := writer
        cases sameDigest
        rfl }

theorem Replayable.advances_record
    (own : run.purpose = purpose ∧ run.requestId = requestId)
    (hrp : Replayable env run stores record)
    (next : (run.todo record).head? = some intent) :
    Advances env ids purpose requestId now
      ⟨stores, .record run intent (parentOf stores.registry intent.childSessionId)⟩ := by
  obtain ⟨rest, todo⟩ := head?_eq_some_iff.mp next
  have hh := mem_of_head? next
  have hrd := hrp.jobs _ hh
  have hw : JobReady (env.atTime now) run.requestId stores intent.job :=
    ⟨hrd.message, hrd.retained⟩
  have hsp := step_record ids hrp.leased (mem_of_mem_filter hh) hw
  have later := hrp.recorded (env.atTime now) rfl todo
  refine .of_step hsp (.pick own later) (.inr ⟨rfl, ?_⟩)
  have fewer : toPick (stores.withRegistry (replayedRegistry (env.atTime now) stores run.requestId
      record intent)) (run.past intent) = rest.length := by
    rw [toPick_eq later.leased]
    exact congrArg List.length (todo_withReplayed _ hrp.keyed todo _)
  simp only [distance, fewer, toPick_eq hrp.leased, todo, length_cons]
  omega

theorem storeReleased_released {settled : RequestRecord}
    (hl : leasedReparentRequest stores.registry requestId = .ok record)
    (hs : settled.id = record.id) (status : settled.status = purpose.status) :
    Released purpose requestId
      ⟨stores.withRegistry (storeReleased stores.registry requestId settled), .idle⟩ where
  idle := rfl
  lease := rfl
  status := ⟨_, findRequest_storeRequest rfl (leasedReparentRequest_ok hl).2 hs, status⟩

theorem step_conclude (env : Env) (ids : RowIds)
    (hl : leasedReparentRequest stores.registry requestId = .ok record)
    (stage : purpose.Stage record.applyStage) (hry : hasPendingIntent record = false) :
    ∃ registry, Pc.step env ids stores (.conclude purpose requestId) =
        .ok (stores.withRegistry registry, .idle) ∧ SameRoutes stores.registry registry ∧
      Released purpose requestId ⟨stores.withRegistry registry, .idle⟩ := by
  have hse : ¬hasPendingIntent record = true := by simp [hry]
  cases purpose with
  | finish =>
    have staged := not_not.mpr stage
    refine ⟨_, bind_eq_ok.mpr ⟨_, bind_eq_ok.mpr ⟨_, hl,
      (if_neg staged).trans (if_neg hse)⟩, rfl⟩, ⟨rfl, rfl, rfl⟩,
      storeReleased_released hl rfl rfl⟩
  | abort =>
    have staged := not_not.mpr stage
    refine ⟨_, bind_eq_ok.mpr ⟨_, bind_eq_ok.mpr ⟨_, hl,
      (if_neg staged).trans (if_neg hse)⟩, rfl⟩, ⟨rfl, rfl, rfl⟩,
      storeReleased_released hl rfl rfl⟩
  | rollback =>
    exact ⟨_, bind_eq_ok.mpr ⟨_, bind_eq_ok.mpr ⟨_, hl,
      if_neg hse⟩, rfl⟩, ⟨rfl, rfl, rfl⟩, storeReleased_released hl rfl rfl⟩

theorem Safe.advances
    (safe : Safe env purpose requestId stores pc) (ids : RowIds) (now : Int) :
    Advances env ids purpose requestId now ⟨stores, pc⟩ := by
  cases safe with
  | finishing finish routable hua =>
    subst finish
    exact .of_step (routable.step_stage _ hua) (.readGroups routable) (.inl (by simp [phase]))
  | aborting abort hrp hua =>
    subst abort
    exact hrp.advances_stage hua
  | readGroups routable =>
    exact .of_step (step_readGroups routable) (.retarget _ [] routable) (.inl (by simp [phase]))
  | retarget _ rows routable => exact routable.advances_retarget _ _
  | delivered rows routable => exact routable.advances_delivered _
  | restore rollback routable =>
    subst rollback
    exact routable.advances_restore
  | pick own hrp => exact hrp.advances_pick own
  | resolve own hrp next =>
    have hpo := toPick_pos hrp.leased next
    refine .of_step rfl (.send own hrp next (Nat.zero_le _)) (.inr ⟨rfl, ?_⟩)
    simp only [distance]
    omega
  | send own hrp next hwi => exact hrp.advances_send own next hwi
  | record own hrp next => exact hrp.advances_record own next
  | conclude hl stage hry =>
    obtain ⟨_, hsp, _, released⟩ :=
      step_conclude (env.atTime now) ids hl stage hry
    refine .inl ?_
    rw [drive_eq hsp]
    exact released

/-- A driver that is left alone settles its request and gives the lease back. -/
theorem Safe.released
    (safe : Safe env purpose requestId stores pc) (ids : RowIds) (clock : Nat → Int) :
    ∃ n, Released purpose requestId (Timed.run (drive env ids) clock n ⟨stores, pc⟩) := by
  have progress : ∀ now (system : System), Safe env purpose requestId system.stores system.pc →
        Advances env ids purpose requestId now system :=
    fun now _ held => held.advances ids now
  exact Timed.run_ends _ progress _ safe

end

end SessionManager.Reparent
