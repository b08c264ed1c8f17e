import Mathlib.Data.List.Sort

/-! The part of the queue database that routes a child's traffic to its parent: the registrations of
parent wakes and the queued messages, with the operations that rewrite them. Every operation here is
one transaction. Reminders, stop notifications and delivery receipts are other tables and are left
out; times of registration and delivery are left out as well. -/
namespace SessionManager.Queue

structure ParentWakeRow where
  id : String
  childSessionId : String
  parentSessionId : String
  periodSeconds : Int
  isActive : Bool
  deriving DecidableEq, Repr

structure MessageRow where
  id : String
  targetSessionId : String
  senderSessionId : Option String
  text : String
  deliveryMode : String
  messageCategory : Option String
  parentSessionId : Option String
  remindSoftThreshold : Option Nat
  timeoutAt : Option Int
  delivered : Bool
  deriving DecidableEq, Repr

structure QueueDb where
  wakes : List ParentWakeRow
  messages : List MessageRow
  deriving DecidableEq, Repr

/-- A planned message row: its parent and whether its delivery registers a parent wake. -/
structure ParentRoutingMessageRow where
  id : String
  childSessionId : String
  parentSessionId : String
  createsParentWake : Bool
  deriving DecidableEq, Repr

structure ParentRoutingSnapshot where
  wakeRows : List ParentWakeRow
  messageRows : List ParentRoutingMessageRow
  deriving DecidableEq, Repr

section

variable (db : QueueDb)

def wakeRow (id : String) : Option ParentWakeRow := db.wakes.find? fun row => row.id = id

def messageRow (id : String) : Option MessageRow := db.messages.find? fun row => row.id = id

def updateWakes (choose : ParentWakeRow → Bool) (change : ParentWakeRow → ParentWakeRow) : QueueDb :=
  { db with wakes := db.wakes.map fun row => if choose row then change row else row }

def updateMessages (choose : MessageRow → Bool) (change : MessageRow → MessageRow) : QueueDb :=
  { db with messages := db.messages.map fun row => if choose row then change row else row }

def deleteMessages (choose : MessageRow → Bool) : QueueDb :=
  { db with messages := db.messages.filter fun row => !choose row }

end

section

variable (db : QueueDb)

def cancelParentWake (childSessionId : String) : QueueDb :=
  updateWakes db (fun row => row.childSessionId = childSessionId) fun row =>
    { row with isActive := false }

structure RowIds where
  next : List String → String
  next_not_mem : ∀ used, next used ∉ used

/-- The insertion that follows a cancellation. The table has one row for each child, so the row
that is there is replaced. -/
def insertParentWake (ids : RowIds) (childSessionId parentSessionId : String)
    (periodSeconds : Int) : QueueDb :=
  { db with
    wakes := (db.wakes.filter fun row => row.childSessionId ≠ childSessionId) ++
      [⟨ids.next (db.wakes.map ParentWakeRow.id), childSessionId, parentSessionId, periodSeconds,
        true⟩] }

def registerParentWake (ids : RowIds) (childSessionId parentSessionId : String)
    (periodSeconds : Int) : QueueDb :=
  insertParentWake (cancelParentWake db childSessionId) ids childSessionId parentSessionId
    periodSeconds

end

section

structure QueueMessageMetadata where
  senderSessionId : Option String
  messageCategory : Option String
  parentSessionId : Option String
  remindSoftThreshold : Option Nat
  timeoutAt : Option Int
  deriving DecidableEq, Repr

def QueueMessageMetadata.default : QueueMessageMetadata := ⟨none, none, none, none, none⟩

variable (db : QueueDb)

def enqueueMessageWithId (id targetSessionId text deliveryMode : String)
    (metadata : QueueMessageMetadata) : QueueDb × Bool :=
  match messageRow db id with
  | some _ => (db, false)
  | none =>
    ({ db with messages := db.messages ++ [
        { id, targetSessionId, text, deliveryMode
          senderSessionId := metadata.senderSessionId
          messageCategory := metadata.messageCategory
          parentSessionId := metadata.parentSessionId
          remindSoftThreshold := metadata.remindSoftThreshold
          timeoutAt := metadata.timeoutAt
          delivered := false }] }, true)

def enqueueMessageOnceWithMetadata (id targetSessionId text deliveryMode : String)
    (metadata : QueueMessageMetadata) : Except String QueueDb :=
  let (after, inserted) := enqueueMessageWithId db id targetSessionId text deliveryMode metadata
  if inserted then .ok after
  else if after.messages.any fun row => row.id = id && row.targetSessionId = targetSessionId &&
      row.text = text && row.deliveryMode = deliveryMode &&
      row.messageCategory = metadata.messageCategory then .ok after
  else .error s!"queue message id {id} already exists with different content"

/-- `none` when the row is missing or delivered already: then nothing else happens. -/
def markDelivered (id : String) : Option QueueDb :=
  if db.messages.any fun row => row.id = id && !row.delivered then
    some (updateMessages db (fun row => row.id = id && !row.delivered) fun row =>
      { row with delivered := true })
  else none

/-- Delivery of a message as it was read from the queue; its parent may have been struck out since
by a fence. -/
def markDeliveredAndApplySideEffects (ids : RowIds) (message : MessageRow) : QueueDb :=
  match markDelivered db message.id with
  | none => db
  | some delivered =>
    match message.remindSoftThreshold, message.parentSessionId with
    | some _, some parentSessionId =>
      registerParentWake delivered ids message.targetSessionId parentSessionId 600
    | _, _ => delivered

def expirePendingMessagesForTarget (now : Int) (targetSessionId : String) : QueueDb :=
  deleteMessages db fun row => row.targetSessionId = targetSessionId && !row.delivered &&
    row.timeoutAt.any fun timeoutAt => timeoutAt ≤ now

def cancelPendingMessagesForTargetCategory (targetSessionId messageCategory : String) : QueueDb :=
  deleteMessages db fun row => row.targetSessionId = targetSessionId &&
    row.messageCategory = some messageCategory && !row.delivered

def cancelPendingMessagesFromSenderCategory (senderSessionId messageCategory : String) : QueueDb :=
  deleteMessages db fun row => row.senderSessionId = some senderSessionId &&
    row.messageCategory = some messageCategory && !row.delivered

end

section

variable (db : QueueDb)

def snapshotParentRouting (childSessionId expectedParentSessionId : String) :
    ParentRoutingSnapshot :=
  let wakes := db.wakes.filter fun row => row.childSessionId = childSessionId &&
    row.parentSessionId = expectedParentSessionId && row.isActive
  let messages := db.messages.filter fun row => row.targetSessionId = childSessionId &&
    row.parentSessionId = some expectedParentSessionId && !row.delivered
  { wakeRows := wakes.insertionSort fun first second => first.id ≤ second.id
    messageRows := (messages.insertionSort fun first second => first.id ≤ second.id).map fun row =>
      ⟨row.id, row.targetSessionId, expectedParentSessionId, row.remindSoftThreshold.isSome⟩ }

def quiesceWake (db : QueueDb) (wake : ParentWakeRow) : Except String QueueDb :=
  match wakeRow db wake.id with
  | none => .error s!"parent wake {wake.id} disappeared"
  | some current =>
    if current.childSessionId ≠ wake.childSessionId ∨
        current.parentSessionId ≠ wake.parentSessionId ∨
        current.periodSeconds ≠ wake.periodSeconds ∨
        (current.isActive ≠ wake.isActive ∧ current.isActive) then
      .error s!"parent wake {wake.id} changed after planning"
    else .ok (updateWakes db (fun row => row.id = wake.id) fun row => { row with isActive := false })

def setMessageParent (parent : Option String) (id : String) : QueueDb :=
  updateMessages db (fun row => row.id = id && !row.delivered) fun row =>
    { row with parentSessionId := parent }

def quiesceMessage (db : QueueDb) (message : ParentRoutingMessageRow) : Except String QueueDb :=
  match messageRow db message.id with
  | none => .error s!"queue message {message.id} disappeared"
  | some current =>
    if current.targetSessionId ≠ message.childSessionId ∨
        (current.parentSessionId ≠ some message.parentSessionId ∧
          current.parentSessionId.isSome) then
      .error s!"queue message {message.id} changed after planning"
    else if current.delivered then
      .error s!"queue message {message.id} delivered before quiesce"
    else .ok (setMessageParent db none message.id)

def quiesceParentRouting (snapshot : ParentRoutingSnapshot) : Except String QueueDb := do
  let quiesced ← snapshot.wakeRows.foldlM quiesceWake db
  snapshot.messageRows.foldlM quiesceMessage quiesced

def retargetWake (newParentSessionId : Option String) (db : QueueDb) (wake : ParentWakeRow) :
    Except String QueueDb :=
  match wakeRow db wake.id with
  | none => .error s!"parent wake {wake.id} disappeared"
  | some current =>
    if current.childSessionId = wake.childSessionId ∧ current.periodSeconds = wake.periodSeconds ∧
        ((current.parentSessionId = wake.parentSessionId ∧ current.isActive = wake.isActive) ∨
          (current.parentSessionId = wake.parentSessionId ∧ current.isActive = false) ∨
          (newParentSessionId = some current.parentSessionId ∧
            current.isActive = wake.isActive)) then
      match newParentSessionId with
      | some newParent => .ok (updateWakes db (fun row => row.id = wake.id) fun row =>
        { row with parentSessionId := newParent, isActive := wake.isActive })
      | none => .ok (updateWakes db (fun row => row.id = wake.id) fun row =>
        { row with isActive := false })
    else .error s!"parent wake {wake.id} changed after planning"

/-- The rows that were delivered in the meantime are handed back and keep their parent. -/
def retargetMessage (newParentSessionId : Option String)
    (state : QueueDb × List ParentRoutingMessageRow) (message : ParentRoutingMessageRow) :
    Except String (QueueDb × List ParentRoutingMessageRow) :=
  match messageRow state.1 message.id with
  | none => .error s!"queue message {message.id} disappeared"
  | some current =>
    if current.targetSessionId ≠ message.childSessionId ∨
        (current.parentSessionId ≠ some message.parentSessionId ∧
          current.parentSessionId.isSome ∧ current.parentSessionId ≠ newParentSessionId) then
      .error s!"queue message {message.id} changed after planning"
    else if current.delivered then .ok (state.1, state.2 ++ [message])
    else .ok (setMessageParent state.1 newParentSessionId message.id, state.2)

def retargetParentRouting (snapshot : ParentRoutingSnapshot) (newParentSessionId : Option String) :
    Except String (QueueDb × List ParentRoutingMessageRow) := do
  let rewoken ← snapshot.wakeRows.foldlM (retargetWake newParentSessionId) db
  snapshot.messageRows.foldlM (retargetMessage newParentSessionId) (rewoken, [])

end

end SessionManager.Queue
