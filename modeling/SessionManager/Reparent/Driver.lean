import SessionManager.Reparent.Apply

/-! The apply driver as a machine. Its program counter holds what the driver keeps in memory between
two steps; a step makes at most one durable write. The apply lock admits one driver at a time, and a
crash loses the program counter and nothing else. The loop that looks for the next request after one
is settled is a fresh start of the driver; draining the replayed messages is ordinary traffic. -/
namespace SessionManager.Reparent
open Foundation Queue

structure Stores where
  registry : Registry
  queue : QueueDb
  deriving DecidableEq, Repr

/-- What the deferred intents are replayed for. An abort that `failReparentApply` itself completes
has nobody left to report an error to. -/
inductive Purpose
  | finish
  | abort (failing : Bool)
  | rollback (staleReason : Option String)
  deriving DecidableEq, Repr

structure Replay where
  purpose : Purpose
  requestId : String
  reapplyCompleted : Bool
  reapplied : List String
  deriving DecidableEq, Repr

inductive Pc
  | idle
  | acquire
  | inspect (requestId : String)
  | stage (left : Nat) (requestId : String)
  | quiesceJson (left : Nat) (requestId : String)
  | readSnapshot (left : Nat) (requestId : String)
  | quiesceQueue (left : Nat) (requestId : String) (snapshot : ParentRoutingSnapshot)
  | queueQuiesced (left : Nat) (requestId : String)
  | commit (left : Nat) (requestId : String)
  | readGroups (purpose : Purpose) (requestId : String)
  | retarget (purpose : Purpose) (requestId : String) (plan : ApplyPlan)
      (groups : List (ParentRoutingSnapshot × Option String))
      (delivered : List ParentRoutingMessageRow)
  | delivered (purpose : Purpose) (requestId : String) (plan : ApplyPlan)
      (rows : List ParentRoutingMessageRow)
  | restore (staleReason : Option String) (requestId : String) (plan : ApplyPlan)
  | pick (replay : Replay)
  | resolve (replay : Replay) (intent : DeferredRoutingIntent)
  | send (replay : Replay) (intent : DeferredRoutingIntent) (parent : Option String) (sent : Nat)
  | record (replay : Replay) (intent : DeferredRoutingIntent) (parent : Option String)
  | conclude (purpose : Purpose) (requestId : String)
  | fail (requestId : String) (reason : String)
  deriving DecidableEq, Repr

namespace Pc

/-- Where an error of the step leads: to the failure of the request, or out of the driver. -/
def onError (reason : String) : Pc → Pc
  | .idle | .acquire | .inspect _ | .fail _ _ => .idle
  | .stage _ id | .quiesceJson _ id | .readSnapshot _ id | .quiesceQueue _ id _
  | .queueQuiesced _ id | .commit _ id | .readGroups _ id | .retarget _ id _ _ _
  | .delivered _ id _ _ | .restore _ id _ => .fail id reason
  | .pick run | .resolve run _ | .send run _ _ _ | .record run _ _ =>
    if run.purpose = .abort true then .idle else .fail run.requestId reason
  | .conclude purpose id => if purpose = .abort true then .idle else .fail id reason

end Pc

section

variable (env : Env) (ids : RowIds) (stores : Stores)

/-- What `applyReparentRequest` does at the top of its loop. -/
def stageStep (left : Nat) (requestId : String) : Except String Pc :=
  match left with
  | 0 => .error s!"reparent request {requestId} exceeded the apply stage limit"
  | left + 1 =>
    if (findRequest stores.registry requestId).any fun record => record.status = .applied then
      .ok .idle
    else do
      let record ← leasedReparentRequest stores.registry requestId
      match record.applyStage.getD .applying with
      | .applying => .ok (.quiesceJson left requestId)
      | .prequiesceAborting => .ok (.pick ⟨.abort false, requestId, true, []⟩)
      | .jsonRoutingQuiesced => .ok (.readSnapshot left requestId)
      | .routingQuiesced => .ok (.commit left requestId)
      | .authorityCommitted => .ok (.readGroups .finish requestId)
      | .applied => .ok .idle
      | other =>
        let name := other.text
        .error s!"reparent request {requestId} cannot resume from stage {name}"

def readGroupsStep (purpose : Purpose) (requestId : String) : Except String Pc := do
  let record ← leasedReparentRequest stores.registry requestId
  match purpose with
  | .rollback _ =>
    if record.applyStage = some .jsonRoutingQuiesced ∨
        record.applyStage = some .routingQuiesced then do
      let plan ← planOf record
      let groups ← queueRouteGroupsFromPlan plan true
      .ok (.retarget purpose requestId plan groups [])
    else .error s!"request {requestId} is no longer pre-commit"
  | _ => do
    let plan ← planOf record
    let groups ← queueRouteGroupsFromPlan plan false
    .ok (.retarget purpose requestId plan groups [])

def concludeStep (purpose : Purpose) (requestId : String) : Except String (Option Registry) :=
  match purpose with
  | .finish => concludeApplied env stores.registry requestId
  | .abort _ => concludePrequiesceAbort stores.registry requestId
  | .rollback staleReason => concludeRollback env stores.registry requestId staleReason

def afterDelivered (purpose : Purpose) (requestId : String) (plan : ApplyPlan) : Pc :=
  match purpose with
  | .rollback staleReason => .restore staleReason requestId plan
  | purpose => .pick ⟨purpose, requestId, false, []⟩

def Stores.withRegistry (registry : Registry) : Stores := { stores with registry }

def Stores.withQueue (queue : QueueDb) : Stores := { stores with queue }

def Pc.step : Pc → Except String (Stores × Pc)
  | .idle => .ok (stores, .idle)
  | .acquire =>
    let (registry, holder) := acquireReparentApplyLease env stores.registry stores.queue
    .ok (stores.withRegistry registry, (holder.map Pc.inspect).getD .idle)
  | .inspect requestId =>
    if (findRequest stores.registry requestId).any fun record =>
        record.status = .failed && record.applyStage ≠ some .prequiesceAborting then
      .ok (stores, .idle)
    else .ok (stores, .stage 8 requestId)
  | .stage left requestId => do
    let next ← stageStep stores left requestId
    .ok (stores, next)
  | .quiesceJson left requestId => do
    let registry ← quiesceReparentJsonRouting stores.registry requestId
    .ok (stores.withRegistry registry, .stage left requestId)
  | .readSnapshot left requestId => do
    let record ← leasedReparentRequest stores.registry requestId
    let plan ← planOf record
    let snapshot ← queueSnapshotFromPlan plan
    .ok (stores, .quiesceQueue left requestId snapshot)
  | .quiesceQueue left requestId snapshot => do
    let queue ← quiesceParentRouting stores.queue snapshot
    .ok (stores.withQueue queue, .queueQuiesced left requestId)
  | .queueQuiesced left requestId => do
    let registry ← recordQueueQuiesced stores.registry requestId
    .ok (stores.withRegistry registry, .stage left requestId)
  | .commit left requestId => do
    let (registry, stale) ← commitReparentAuthority stores.registry requestId
    .ok (stores.withRegistry registry,
      match stale with
      | none => .stage left requestId
      | some reason => .readGroups (.rollback (some reason)) requestId)
  | .readGroups purpose requestId => do
    let next ← readGroupsStep stores purpose requestId
    .ok (stores, next)
  | .retarget purpose requestId plan [] rows =>
    .ok (stores, .delivered purpose requestId plan rows)
  | .retarget purpose requestId plan ((snapshot, parent) :: groups) rows => do
    let (queue, more) ← retargetParentRouting stores.queue snapshot parent
    .ok (stores.withQueue queue, .retarget purpose requestId plan groups (rows ++ more))
  | .delivered purpose requestId plan rows => do
    let registry ← persistDeliveredReparentWakeIntents env stores.registry requestId rows
    .ok (stores.withRegistry registry, afterDelivered purpose requestId plan)
  | .restore staleReason requestId plan => do
    let registry ← restoreReparentRouting stores.registry requestId plan
    .ok (stores.withRegistry registry, .pick ⟨.rollback staleReason, requestId, true, []⟩)
  | .pick run => do
    let next ← nextDeferredIntent stores.registry run.requestId run.reapplyCompleted run.reapplied
    match next with
    | none => .ok (stores, .conclude run.purpose run.requestId)
    | some intent => .ok (stores, .resolve run intent)
  | .resolve run intent =>
    .ok (stores, .send run intent (parentOf stores.registry intent.childSessionId) 0)
  | .send run intent parent sent =>
    match (replayQueueWrites env run.requestId ids intent parent)[sent]? with
    | none => .ok (stores, .record run intent parent)
    | some write => do
      let queue ← write stores.queue
      .ok (stores.withQueue queue, .send run intent parent (sent + 1))
  | .record run intent parent => do
    let registry ← recordReplayed env stores.registry run.requestId intent parent
    .ok (stores.withRegistry registry,
      .pick { run with reapplied := run.reapplied ++ [intent.key] })
  | .conclude purpose requestId => do
    let concluded ← concludeStep env stores purpose requestId
    match concluded with
    | some registry => .ok (stores.withRegistry registry, .idle)
    | none => .ok (stores, .pick ⟨purpose, requestId, false, []⟩)
  | .fail requestId reason => do
    let marked ← markFailed env stores.registry requestId reason
    match marked with
    | none => .ok (stores, .idle)
    | some (registry, false) => .ok (stores.withRegistry registry, .idle)
    | some (registry, true) =>
      .ok (stores.withRegistry registry, .pick ⟨.abort true, requestId, true, []⟩)

def driverStep (pc : Pc) : Stores × Pc :=
  match Pc.step env ids stores pc with
  | .ok next => next
  | .error reason => (stores, pc.onError reason)

end

end SessionManager.Reparent
