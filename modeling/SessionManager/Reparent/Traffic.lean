import SessionManager.Reparent.Driver

/-! Ordinary traffic on the two stores while requests are pending or being applied: messages are
queued, delivered, expired and cancelled, wakes are registered by deliveries and cancelled by task
completions, context events and settings change monitors. Traffic that an apply fences is deferred as
an intent of the request. One constructor is one durable write. -/
namespace SessionManager.Reparent
open Foundation Sessions Queue

section

variable (registry : Registry) (sessionId : String)

def activeReparentRequestForSession : Option String :=
  (registry.reparentRequests.find? fun record =>
    record.isApplyFenced && record.affectedSessionIds.contains (trim sessionId)).map
      RequestRecord.id

def controlsRoute (record : RequestRecord) : Bool :=
  record.isApplyFenced && record.applyPlan.any fun plan =>
    plan.edgeChanges.any fun change => change.sessionId = trim sessionId

def activeReparentRouteRequestForSession : Option String :=
  (registry.reparentRequests.find? (controlsRoute sessionId)).map RequestRecord.id

end

def persistDeferredIntent (env : Env) (registry : Registry) (requestId key : String)
    (operation : DeferredOperation) (childSessionId : String) : Registry :=
  storeReparentRequestRecords registry (modifyFirst (fun record => record.id = requestId)
      (fun record =>
        { record with
          deferredRoutingIntents := pushIntent env record.deferredRoutingIntents key operation
            childSessionId })
      registry.reparentRequests)

/-- The identifiers that replays give to the messages of deferred intents. -/
def DeferredId (env : Env) (id : String) : Prop :=
  ∃ requestId key, id = deferredTaskCompleteMessageId env requestId key ∨
    id = deferredParentMessageId env requestId key

def providerHasMeasuredContextGauge (provider : String) : Bool :=
  trim provider = "claude" || trim provider = "codex-fork"

/-- What a context event does to the monitor of a session whose provider measures no context. -/
def clearMonitor (session : SessionRecord) : SessionRecord :=
  { session with
    contextMonitorEnabled := false, contextMonitorNotify := none
    contextMonitorNotifySource := some "explicit" }

inductive Traffic (env : Env) (ids : RowIds) : Stores → Stores → Prop
  | send (stores : Stores) (row : MessageRow) (fresh : messageRow stores.queue row.id = none)
      (ordinary : ¬DeferredId env row.id) (waiting : row.delivered = false)
      (unfenced : row.parentSessionId.isSome →
        activeReparentRouteRequestForSession stores.registry row.targetSessionId = none) :
      Traffic env ids stores
        (stores.withQueue { stores.queue with messages := stores.queue.messages ++ [row] })
  | defer (stores : Stores) (now : Int) (requestId key childSessionId : String)
      (operation : DeferredOperation)
      (fenced : activeReparentRouteRequestForSession stores.registry childSessionId =
        some requestId) :
      Traffic env ids stores (stores.withRegistry
        (persistDeferredIntent (env.atTime now) stores.registry requestId key operation
          childSessionId))
  | deferWake (stores : Stores) (now : Int) (requestId : String) (message : MessageRow)
      (creates : message.remindSoftThreshold.isSome ∧ message.parentSessionId.isSome)
      (fenced : activeReparentRequestForSession stores.registry message.targetSessionId =
        some requestId) :
      Traffic env ids stores (stores.withRegistry
        (persistDeferredIntent (env.atTime now) stores.registry requestId
          ("message-parent-wake:" ++ message.id) (.parentWake 600) message.targetSessionId))
  /- A delivery acts on the message as it was read; a fenced one has its parent struck out. -/
  | deliver (stores : Stores) (message : MessageRow)
      (read : ∀ row, messageRow stores.queue message.id = some row →
        row.targetSessionId = message.targetSessionId ∧
          row.remindSoftThreshold = message.remindSoftThreshold)
      (unfenced : message.remindSoftThreshold.isSome → message.parentSessionId.isSome →
        activeReparentRequestForSession stores.registry message.targetSessionId = none) :
      Traffic env ids stores
        (stores.withQueue (markDeliveredAndApplySideEffects stores.queue ids message))
  | retainWake (stores : Stores) (childSessionId parentSessionId : String)
      (unfenced : activeReparentRequestForSession stores.registry childSessionId = none) :
      Traffic env ids stores (stores.withRegistry
        (upsertParentWakeRaw stores.registry childSessionId parentSessionId 600))
  | expire (stores : Stores) (now : Int) (targetSessionId : String) :
      Traffic env ids stores
        (stores.withQueue (expirePendingMessagesForTarget stores.queue now targetSessionId))
  | cancelForTarget (stores : Stores) (targetSessionId : String) :
      Traffic env ids stores (stores.withQueue
        (cancelPendingMessagesForTargetCategory stores.queue targetSessionId "native_rename"))
  | cancelFromSender (stores : Stores) (senderSessionId : String) :
      Traffic env ids stores (stores.withQueue
        (cancelPendingMessagesFromSenderCategory stores.queue senderSessionId "context_monitor"))
  | completeTask (stores : Stores) (childSessionId : String)
      (unfenced : activeReparentRouteRequestForSession stores.registry childSessionId = none) :
      Traffic env ids stores (stores.withQueue (cancelParentWake stores.queue childSessionId))
  | retainCompletion (stores : Stores) (childSessionId : String)
      (unfenced : activeReparentRouteRequestForSession stores.registry childSessionId = none) :
      Traffic env ids stores
        (stores.withRegistry (deactivateParentWakeRaw stores.registry childSessionId))
  | retain (stores : Stores) (message : RetainedMessage) (ordinary : ¬DeferredId env message.id) :
      Traffic env ids stores (stores.withRegistry
        { stores.registry with
          retainedPendingMessages := stores.registry.retainedPendingMessages ++ [message] })
  | contextEvent (stores : Stores) (session : SessionRecord)
      (found : findSession stores.registry session.id = some session)
      (unmeasured : providerHasMeasuredContextGauge session.provider = false) :
      Traffic env ids stores
        (stores.withRegistry (updateSession stores.registry session.id clearMonitor))
  | setContextMonitor (stores : Stores) (sessionId : String) (enabled : Bool)
      (notify source : Option String)
      (unfenced : activeReparentRequestForSession stores.registry sessionId = none) :
      Traffic env ids stores (stores.withRegistry (updateSession stores.registry sessionId
        fun session =>
          { session with
            contextMonitorEnabled := enabled, contextMonitorNotify := notify
            contextMonitorNotifySource := source }))
  | changeStatus (stores : Stores) (sessionId : String) (status : SessionStatus)
      (completionStatus : Option CompletionStatus) :
      Traffic env ids stores (stores.withRegistry (updateSession stores.registry sessionId
        fun session => { session with status, completionStatus }))

end SessionManager.Reparent
