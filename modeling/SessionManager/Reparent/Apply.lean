import SessionManager.Reparent.Routes

/-! The durable writes of the apply protocol, one definition for each. A write of the registry
replaces the whole file under the write lock; a write of the queue is one transaction or one
statement. What lies between two writes is the business of the driver. -/
namespace SessionManager.Reparent
open Foundation Queue

section

variable (registry : Registry) (requestId : String)

def leasedReparentRequest : Except String RequestRecord :=
  match registry.reparentApplyLease with
  | none => .error "reparent apply lease disappeared"
  | some lease =>
    if lease.requestId ≠ requestId then
      let holder := lease.requestId
      .error s!"reparent apply lease belongs to {holder}, not {requestId}"
    else
      match findRequest registry requestId with
      | none => .error s!"reparent request {requestId} disappeared"
      | some record => .ok record

def planOf (record : RequestRecord) : Except String ApplyPlan :=
  match record.applyPlan with
  | none => .error "reparent apply plan is missing"
  | some plan => .ok plan

/-- Persists one request; the lease is not touched. -/
def storeRequest (record : RequestRecord) : Registry :=
  storeReparentRequestRecords registry (modifyFirst (fun other => other.id = requestId)
    (fun _ => record) registry.reparentRequests)

def storeReleased (record : RequestRecord) : Registry :=
  { storeRequest registry requestId record with reparentApplyLease := none }

end

section

variable (registry : Registry) (requestId : String)

def quiesceReparentJsonRouting : Except String Registry := do
  let record ← leasedReparentRequest registry requestId
  let plan ← planOf record
  match reparentStaleReason registry record with
  | some reason => .error s!"reparent request became stale before quiesce: {reason}"
  | none =>
    let quiesced ← quiesceJsonReparentRoutes registry plan
    .ok (storeRequest quiesced requestId { record with applyStage := some .jsonRoutingQuiesced })

/-- The second half of the queue quiesce; the transaction itself is `quiesceParentRouting`. -/
def recordQueueQuiesced : Except String Registry := do
  let record ← leasedReparentRequest registry requestId
  if record.applyStage ≠ some .jsonRoutingQuiesced then
    .error "reparent request stage changed during queue quiesce"
  else
    .ok (storeRequest registry requestId { record with applyStage := some .routingQuiesced })

/-- A request that has become stale is handed back with the reason. -/
def commitReparentAuthority : Except String (Registry × Option String) := do
  let record ← leasedReparentRequest registry requestId
  let plan ← planOf record
  match reparentStaleReason registry record with
  | some reason => .ok (registry, some reason)
  | none =>
    let committed ← commitJsonReparentPlan registry plan
    .ok (storeRequest committed requestId
      { record with applyStage := some .authorityCommitted }, none)

end

section

variable (env : Env) (registry : Registry) (requestId : String)

def deliveredWakeKey (messageId : String) : String := s!"delivered-planned-parent-wake:{messageId}"

def pushIntent (env : Env) (intents : List DeferredRoutingIntent) (key : String)
    (operation : DeferredOperation) (childSessionId : String) : List DeferredRoutingIntent :=
  if intents.any fun intent => intent.key = key then intents
  else intents ++ [⟨key, operation, childSessionId, env.nowText, none, none⟩]

def pushDeliveredWake (env : Env) (intents : List DeferredRoutingIntent)
    (message : ParentRoutingMessageRow) : List DeferredRoutingIntent :=
  pushIntent env intents (deliveredWakeKey message.id) (.parentWake 600) message.childSessionId

def persistDeliveredReparentWakeIntents (delivered : List ParentRoutingMessageRow) :
    Except String Registry :=
  let wakes := delivered.filter ParentRoutingMessageRow.createsParentWake
  if wakes.isEmpty then .ok registry
  else do
    let record ← leasedReparentRequest registry requestId
    .ok (storeRequest registry requestId { record with
        deferredRoutingIntents := wakes.foldl (pushDeliveredWake env)
          record.deferredRoutingIntents })

/-- The next intent of a replay: one that was never replayed, or, when completed ones are applied
again, one that this replay has not applied yet. -/
def nextDeferredIntent (reapplyCompleted : Bool) (reapplied : List String) :
    Except String (Option DeferredRoutingIntent) := do
  let record ← leasedReparentRequest registry requestId
  .ok (record.deferredRoutingIntents.find? fun intent =>
    intent.replayedAt.isNone || reapplyCompleted && !reapplied.contains intent.key)

def deferredTaskCompleteMessageId (intentKey : String) : String :=
  "reparent-task-complete-" ++ env.sha256Text (requestId ++ "\x00" ++ intentKey)

def deferredParentMessageId (intentKey : String) : String :=
  "reparent-parent-message-" ++ env.sha256Text (requestId ++ "\x00parent-message\x00" ++ intentKey)

def deferredParentInputMetadata (payload : QueueMessageMetadata) (parent : Option String) :
    QueueMessageMetadata :=
  { QueueMessageMetadata.default with
    senderSessionId := payload.senderSessionId
    remindSoftThreshold := payload.remindSoftThreshold
    timeoutAt := payload.timeoutAt
    parentSessionId := parent }

/-- The queue writes of one intent, in order. Registration of a wake cancels and then inserts. -/
def replayQueueWrites (ids : RowIds) (intent : DeferredRoutingIntent) (parent : Option String) :
    List (QueueDb → Except String QueueDb) :=
  let child := intent.childSessionId
  match intent.operation, parent with
  | .parentWake _, none => []
  | .parentWake period, some parent =>
    [fun db => .ok (cancelParentWake db child),
      fun db => .ok (insertParentWake db ids child parent period)]
  | .taskComplete _, none => []
  | .taskComplete text, some parent =>
    [fun db => enqueueMessageOnceWithMetadata db
        (deferredTaskCompleteMessageId env requestId intent.key) parent text "important"
        { QueueMessageMetadata.default with messageCategory := some "task_complete" },
      fun db => .ok (cancelParentWake db child)]
  | .parentMessage _ _ _, none => []
  | .parentMessage text deliveryMode category, some parent =>
    [fun db => enqueueMessageOnceWithMetadata db
        (deferredParentMessageId env requestId intent.key) parent text deliveryMode
        { QueueMessageMetadata.default with
          senderSessionId := some child, messageCategory := some category }]
  | .parentInput text deliveryMode payload, parent =>
    [fun db => enqueueMessageOnceWithMetadata db
        (deferredParentMessageId env requestId intent.key) child text deliveryMode
        (deferredParentInputMetadata payload parent)]

def replayRegistry (intent : DeferredRoutingIntent) (parent : Option String) :
    Except String Registry :=
  let child := intent.childSessionId
  match intent.operation, parent with
  | .parentWake period, some parent => .ok (upsertParentWakeRaw registry child parent period)
  | .taskComplete text, some parent => do
    let pushed ← pushRetainedMessageOnceRaw registry
      ⟨deferredTaskCompleteMessageId env requestId intent.key, parent, text, "important",
        some "task_complete"⟩
    .ok (deactivateParentWakeRaw pushed child)
  | .parentMessage text deliveryMode category, some parent =>
    pushRetainedMessageOnceRaw registry
      ⟨deferredParentMessageId env requestId intent.key, parent, text, deliveryMode, some category⟩
  | _, _ => .ok registry

def markReplayed (env : Env) (parent : Option String) (intent : DeferredRoutingIntent) :
    DeferredRoutingIntent :=
  if intent.replayedAt.isNone then
    { intent with replayedAt := some env.nowText, resolvedParentSessionId := parent }
  else intent

/-- The registry write that ends the replay of one intent. -/
def recordReplayed (intent : DeferredRoutingIntent) (parent : Option String) :
    Except String Registry := do
  let record ← leasedReparentRequest registry requestId
  if !record.deferredRoutingIntents.any fun current => current.key = intent.key then
    let key := intent.key
    .error s!"deferred routing intent {key} disappeared"
  else
    let retained ← replayRegistry env registry requestId intent parent
    .ok (storeRequest retained requestId { record with
        deferredRoutingIntents := modifyFirst (fun current => current.key = intent.key)
          (markReplayed env parent) record.deferredRoutingIntents })

def hasPendingIntent (record : RequestRecord) : Bool :=
  record.deferredRoutingIntents.any fun intent => intent.replayedAt.isNone

end

section

variable (env : Env) (registry : Registry) (requestId : String)

/-- The last write of each way out; `none` when intents have come in that must be replayed first. -/
def concludeApplied : Except String (Option Registry) := do
  let record ← leasedReparentRequest registry requestId
  if record.applyStage ≠ some .authorityCommitted then
    .error "reparent request stage changed during queue retarget"
  else if hasPendingIntent record then .ok none
  else
    .ok (some (storeReleased registry requestId { record with
        status := .applied, applyStage := some .applied, appliedAt := some env.nowText
        decidedAt := some env.nowText, readyToApply := false, failureReason := none }))

def concludePrequiesceAbort : Except String (Option Registry) := do
  let record ← leasedReparentRequest registry requestId
  if record.applyStage ≠ some .prequiesceAborting then
    .error "reparent request stage changed during pre-quiesce abort"
  else if hasPendingIntent record then .ok none
  else
    .ok (some (storeReleased registry requestId
      { record with status := .stale, applyStage := some .prequiesceAborted }))

def concludeRollback (staleReason : Option String) : Except String (Option Registry) := do
  let record ← leasedReparentRequest registry requestId
  if hasPendingIntent record then .ok none
  else
    .ok (some (storeReleased registry requestId { record with
        status := if staleReason.isSome then .stale else .repaired
        applyStage := some (if staleReason.isSome then .prequiesceAborted else .repairRolledBack)
        failureReason := staleReason, readyToApply := false, decidedAt := some env.nowText }))

/-- The registry write inside a rollback, between the two stores' routes. -/
def restoreReparentRouting (plan : ApplyPlan) : Except String Registry := do
  let _ ← leasedReparentRequest registry requestId
  let restored ← restoreJsonReparentRoutes registry plan
  verifyOldReparentEdges restored plan
  .ok restored

def beforeQuiesce (record : RequestRecord) : Bool :=
  record.applyStage.isNone || record.applyStage = some .applying

/-- Marks the request failed. The flag says that the abort has to be completed at once; `none` means
that another driver has applied the request, which stands. -/
def markFailed (reason : String) : Except String (Option (Registry × Bool)) :=
  if (findRequest registry requestId).any fun record => record.status = .applied then .ok none
  else do
    let record ← leasedReparentRequest registry requestId
    .ok (some (storeRequest registry requestId { record with
        status := .failed
        applyStage := if beforeQuiesce record then some .prequiesceAborting else record.applyStage
        failureReason := some reason, readyToApply := false, decidedAt := some env.nowText },
      beforeQuiesce record))

end

section

variable (env : Env) (registry : Registry)

def repairAllowed (action : RepairAction) (stage : ApplyStage) : Bool :=
  match action with
  | .resume => RequestRecord.quarantinedStage (some stage)
  | .rollbackPrecommit => stage = .jsonRoutingQuiesced || stage = .routingQuiesced

def withRepair (actor : String) (action : RepairAction) (record : RequestRecord) : RequestRecord :=
  let attempt : RepairRecord := ⟨actor, action, record.failureReason, env.nowText, false⟩
  match action with
  | .resume =>
    { record with
      repairHistory := record.repairHistory ++ [attempt], status := .applying
      failureReason := none }
  | .rollbackPrecommit => { record with repairHistory := record.repairHistory ++ [attempt] }

/-- The first write of a repair: it opens the attempt that the driver then makes. -/
def beginRepair (requestIdText actorText : String) (action : RepairAction) :
    Except MutationOutcome Registry :=
  let requestId := trim requestIdText
  let actor := trim actorText
  if requestId = "" ∨ actor = "" then
    .error (.badRequest "request ID and authenticated human actor are required")
  else
    match findRequest registry requestId with
    | none => .error .requestNotFound
    | some record =>
      let stage := record.applyStage.getD .applying
      if record.status ≠ .failed ∨
          registry.reparentApplyLease.map ApplyLease.requestId ≠ some requestId then
        .error (.conflict s!"request {requestId} is not a quarantined apply transaction")
      else if !repairAllowed action stage then
        let name := action.text
        let origin := stage.text
        .error (.conflict s!"repair action {name} is not allowed from stage {origin}")
      else .ok (storeRequest registry requestId (withRepair env actor action record))

def markVerified (attemptedAt : String) (record : RequestRecord) : RequestRecord :=
  { record with
    repairHistory := modifyFirst (fun repair => repair.attemptedAt = attemptedAt)
      (fun repair => { repair with verified := true }) record.repairHistory }

/-- The write that ends a repair that worked; the digest of the verified state is left out. -/
def verifyReparentRepair (requestId attemptedAt : String) : Except String Registry :=
  match findRequest registry requestId with
  | none => .error s!"reparent request {requestId} disappeared"
  | some record =>
    if record.repairHistory.any fun repair => repair.attemptedAt = attemptedAt then
      .ok (storeRequest registry requestId (markVerified attemptedAt record))
    else .error s!"repair attempt {attemptedAt} disappeared"

end

end SessionManager.Reparent
