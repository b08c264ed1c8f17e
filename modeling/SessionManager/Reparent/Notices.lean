import SessionManager.Reparent.System

/-! The outbox of the requests. Every write of the requests projects the notifications that their
states call for; a worker queues those that have not been queued, under their keys, and marks them
afterwards. The worker reads, queues and marks in separate steps, and a crash loses what it holds in
memory. -/
namespace SessionManager.Reparent
open Foundation Queue

section

variable (record : RequestRecord)

def reparentEdgeSummary : String :=
  let edges := (record.applyPlan.map ApplyPlan.edgeChanges).getD (requestEdgeChanges record)
  "; ".intercalate (edges.map fun edge =>
    let id := edge.sessionId
    let old := edge.expectedParentSessionId.getD "root"
    let new := edge.newParentSessionId.getD "root"
    s!"{id}: {old} -> {new}")

def reasonSuffix : String :=
  (record.failureReason.map fun reason => s!" Reason: {reason}.").getD ""

def reparentApprovalNotificationText : String :=
  let kind := record.kind.text
  let id := record.id
  let initiator := record.initiatorSessionId
  let edges := reparentEdgeSummary record
  let expires := record.expiresAt
  s!"[sm reparent] {kind} request {id} from {initiator} needs your approval. {edges} Expires {expires}. Approve: `sm reparent approve {id}`. Reject: `sm reparent reject {id}`."

def reparentProgressNotificationText (missing : List String) : String :=
  let id := record.id
  let names := if missing.isEmpty then "none" else ", ".intercalate missing
  let human :=
    if record.requiredHumanApproval then " Human approval is also required in `sm watch`." else ""
  s!"[sm reparent] Request {id} remains pending. Missing agent approvals: {names}.{human}"

def reparentTerminalNotificationText : String :=
  let id := record.id
  let edges := reparentEdgeSummary record
  match record.supersededByRequestId with
  | some winner => s!"[sm reparent] Request {id} was superseded by request {winner}. {edges}"
  | none =>
    let status := record.status.text
    let reason := reasonSuffix record
    s!"[sm reparent] Request {id} is {status}. {edges}{reason}"

def reparentQuarantinedNotificationText : String :=
  let id := record.id
  let stage := (record.applyStage.getD .applying).text
  let edges := reparentEdgeSummary record
  let reason := reasonSuffix record
  s!"[sm reparent] Request {id} is quarantined at {stage} and has no terminal outcome yet. {edges}{reason}"

/-- While the request is pending, those who still have to approve are asked and the others told. -/
def notificationText (recipient : String) : String :=
  match record.status with
  | .pending =>
    if (missingApprovals record).contains recipient then reparentApprovalNotificationText record
    else reparentProgressNotificationText record (missingApprovals record)
  | .failed => reparentQuarantinedNotificationText record
  | _ => reparentTerminalNotificationText record

end

section

structure DesiredNotification where
  requestId : String
  intent : NotificationIntent
  text : String
  deriving DecidableEq, Repr

def desiredNotifications (record : RequestRecord) : List DesiredNotification :=
  (desiredReparentNotifications record).map fun intent =>
    ⟨record.id, intent, notificationText record intent.recipientSessionId⟩

/-- What the worker holds in memory: the notifications it has selected, the one it is about to queue,
the one it has queued and is about to mark. -/
inductive NoticePc
  | idle
  | check (selected : List DesiredNotification)
  | enqueue (desired : DesiredNotification) (rest : List DesiredNotification)
  | mark (desired : DesiredNotification) (rest : List DesiredNotification)
  deriving DecidableEq, Repr

variable (env : Env) (stores : Stores)

def projectedRecords (registry : Registry) : List RequestRecord :=
  (refreshReparentRequests env registry registry.reparentRequests).map
    reconcileReparentNotificationIntents

/-- The first write of a pass: nothing is written when nothing has changed. -/
def projectNotifications (registry : Registry) : Registry :=
  let records := projectedRecords env registry
  if records ≠ registry.reparentRequests then storeReparentRequestRecords registry records
  else registry

def pendingNotifications (records : List RequestRecord) : List DesiredNotification :=
  records.flatMap fun record => (desiredNotifications record).filter fun desired =>
    record.notificationIntents.any fun intent =>
      intent.key = desired.intent.key && intent.enqueuedAt.isNone

/-- The notification as the request calls for it now, if it still does. -/
def currentNotification (registry : Registry) (desired : DesiredNotification) :
    Option DesiredNotification :=
  (findRequest registry desired.requestId).bind fun record =>
    (desiredNotifications record).find? fun current => current.intent.key = desired.intent.key

def enqueueNotification (queue : QueueDb) (desired : DesiredNotification) : Except String QueueDb :=
  enqueueMessageOnceWithMetadata queue desired.intent.key desired.intent.recipientSessionId
    desired.text "important"
    { QueueMessageMetadata.default with messageCategory := some "reparent" }

def withEnqueued (key : String) (record : RequestRecord) : RequestRecord :=
  { record with
    notificationIntents := modifyFirst (fun intent => intent.key = key)
      (fun intent => { intent with enqueuedAt := some env.nowText }) record.notificationIntents }

def markEnqueued (registry : Registry) (desired : DesiredNotification) : Except String Registry :=
  let id := desired.requestId
  let key := desired.intent.key
  match findRequest registry id with
  | none => .error s!"reparent request {id} disappeared"
  | some record =>
    match record.notificationIntents.find? fun intent => intent.key = key with
    | none => .error s!"reparent notification {key} disappeared"
    | some intent =>
      if intent.enqueuedAt.isNone then
        .ok (storeRequest registry id (withEnqueued env key record))
      else .ok registry

/-- One step of `reconcile_reparent_notifications`. An error ends the pass. -/
def noticeStep : NoticePc → Stores × NoticePc
  | .idle => (stores.withRegistry (projectNotifications env stores.registry),
      .check (pendingNotifications (projectedRecords env stores.registry)))
  | .check [] => (stores, .idle)
  | .check (desired :: rest) =>
    match currentNotification stores.registry desired with
    | none => (stores, .check rest)
    | some current => (stores, .enqueue current rest)
  | .enqueue desired rest =>
    match enqueueNotification stores.queue desired with
    | .error _ => (stores, .idle)
    | .ok queue => (stores.withQueue queue, .mark desired rest)
  | .mark desired rest =>
    match markEnqueued env stores.registry desired with
    | .error _ => (stores, .idle)
    | .ok registry => (stores.withRegistry registry, .check rest)

end

section

/-- The system with the worker, and the notifications that have been put into the queue. -/
structure Announcing where
  system : System
  worker : NoticePc
  announced : List DesiredNotification
  deriving DecidableEq, Repr

/-- What the next step of the worker adds to the queue. -/
def announcing (queue : QueueDb) : NoticePc → List DesiredNotification
  | .enqueue desired _ => if (messageRow queue desired.intent.key).isNone then [desired] else []
  | _ => []

def announce (env : Env) (now : Int) (state : Announcing) : Announcing :=
  let next := noticeStep (env.atTime now) state.system.stores state.worker
  ⟨⟨next.1, state.system.pc⟩, next.2,
    state.announced ++ announcing state.system.stores.queue state.worker⟩

inductive Operation (env : Env) (ids : RowIds) : Announcing → Announcing → Prop
  | step (state : Announcing) (after : System) (step : Step env ids state.system after) :
      Operation env ids state { state with system := after }
  | announce (state : Announcing) (now : Int) :
      Operation env ids state (announce env now state)
  | stop (state : Announcing) : Operation env ids state { state with worker := .idle }

abbrev Operations (env : Env) (ids : RowIds) : Announcing → Announcing → Prop :=
  Relation.ReflTransGen (Operation env ids)

end

end SessionManager.Reparent
