import Mathlib.Algebra.Group.Nat.Defs
import SessionManager.Foundation.Effects

/-! The message queue database and the statements that write to it. Timestamps that are compared as
text are texts here; the others are what their readers parse. A statement may fail, and so may the
process that makes it. -/
namespace SessionManager.Messages
open Foundation Operation

/-- A stored time in nanoseconds since 1970: RFC 3339, or local time without an offset. -/
inductive Stamp
  | utc (nanos : Int)
  | naive (nanos : Int)
  | unreadable (text : String)
  deriving DecidableEq, Repr

def nanosPerSecond : Int := 1000000000

/-- The last instant of the year 9999, in nanoseconds. -/
def lastInstant : Int := 253402300799999999999

/-- The first instant of the year -9999, in nanoseconds. -/
def firstInstant : Int := -377705116800000000000

def checkedAdd (nanos seconds : Int) : Option Int :=
  let sum := nanos + seconds * nanosPerSecond
  if firstInstant ≤ sum ∧ sum ≤ lastInstant then some sum else none

structure Message where
  id : String
  targetSessionId : String
  senderSessionId : Option String
  senderName : Option String
  text : String
  deliveryMode : String
  fromSmSend : Bool
  queuedAt : String
  timeoutAt : Option Stamp
  notifyOnDelivery : Bool
  notifyAfterSeconds : Option Int
  notifyOnStop : Bool
  deliveredAt : Option String
  remindSoftThreshold : Option Int
  remindHardThreshold : Option Int
  remindCancelOnReplySessionId : Option String
  parentSessionId : Option String
  messageCategory : Option String
  responseRelaySource : Option String
  deriving DecidableEq, Repr

structure ScheduledReminder where
  id : String
  targetSessionId : String
  message : String
  fireAt : Stamp
  recurringIntervalSeconds : Option Int
  fired : Bool
  isActive : Bool
  deriving DecidableEq, Repr

structure RemindRegistration where
  id : String
  targetSessionId : String
  softThresholdSeconds : Int
  hardThresholdSeconds : Int
  registeredAt : String
  lastResetAt : String
  cancelOnReplySessionId : Option String
  softFired : Bool
  isActive : Bool
  trackedStatusNudgeFired : Bool
  persistentTracking : Bool
  deriving DecidableEq, Repr

structure ParentWakeRegistration where
  id : String
  childSessionId : String
  parentSessionId : String
  periodSeconds : Int
  registeredAt : String
  lastWakeAt : Option String
  lastStatusAtPrevWake : Option String
  escalated : Bool
  isActive : Bool
  deriving DecidableEq, Repr

structure StopNotifyState where
  sessionId : String
  senderSessionId : String
  senderName : String
  delaySeconds : Int
  armedAt : String
  deriving DecidableEq, Repr

structure Database where
  messages : List Message
  scheduledReminders : List ScheduledReminder
  remindRegistrations : List RemindRegistration
  parentWakeRegistrations : List ParentWakeRegistration
  stopNotifyStates : List StopNotifyState
  deriving DecidableEq, Repr

/-- A one-shot reminder that has fired is not active. -/
def ScheduledReminder.tidy (reminder : ScheduledReminder) : ScheduledReminder :=
  if reminder.fired && reminder.recurringIntervalSeconds.isNone && reminder.isActive then
    { reminder with isActive := false }
  else reminder

/-- What opening the database does to the rows of earlier versions. -/
def Database.initSchema (db : Database) : Database :=
  { db with scheduledReminders := db.scheduledReminders.map ScheduledReminder.tidy }

def withConnection {α : Type} (statements : Operation Database α) : Operation Database α := do
  call "failed to open queue db" Database.initSchema
  statements

theorem ends_withConnection {α : Type} {start : Database} {statements : Operation Database α}
    {post : α → Database → Prop} {left : Database → Prop} (hsd : left start)
    (ran : Ends start.initSchema statements post left) :
    Ends start (withConnection statements) post left := by
  exact ends_call_bind hsd ran

/-- `u64` values reach the database as `i64`. -/
def u64ToI64 (value : Nat) : Except String Int :=
  if value < 2 ^ 63 then .ok value else .error "queue metadata seconds value is too large"

def u64ToI64? : Option Nat → Except String (Option Int)
  | none => .ok none
  | some value => (u64ToI64 value).map some

theorem u64ToI64?_ok {value : Option Nat} {converted : Option Int}
    (hd : u64ToI64? value = .ok converted) : converted = value.map Int.ofNat := by
  cases value with
  | none =>
    cases hd
    rfl
  | some =>
    simp only [u64ToI64?, u64ToI64] at hd
    split at hd
    · cases hd
      rfl
    · cases hd

structure QueueMessageMetadata where
  senderSessionId : Option String := none
  senderName : Option String := none
  fromSmSend : Bool := false
  timeoutSeconds : Option Nat := none
  notifyOnDelivery : Bool := false
  notifyAfterSeconds : Option Nat := none
  notifyOnStop : Bool := false
  remindSoftThreshold : Option Nat := none
  remindHardThreshold : Option Nat := none
  remindCancelOnReplySessionId : Option String := none
  parentSessionId : Option String := none
  messageCategory : Option String := none
  responseRelaySource : Option String := none
  deriving DecidableEq, Repr

/-- What an insertion reads from outside: a generated id, the time as `now_rfc3339` prints it, and
the time itself. -/
structure Draw where
  id : String
  now : String
  nanos : Int
  deriving DecidableEq, Repr

def timeoutAtRfc3339 (nanos : Int) (timeoutSeconds : Option Nat) : Except String (Option Stamp) :=
  match timeoutSeconds.filter fun seconds => decide (0 < seconds) with
  | none => .ok none
  | some seconds =>
    match u64ToI64 seconds with
    | .error reason => .error reason
    | .ok seconds =>
      match checkedAdd nanos seconds with
      | none => .error "resulting value is out of range"
      | some deadline => .ok (some (.utc deadline))

def messageRow (draw : Draw) (id targetSessionId text deliveryMode : String)
    (metadata : QueueMessageMetadata) : Except String Message := do
  let timeoutAt ← timeoutAtRfc3339 draw.nanos metadata.timeoutSeconds
  let notifyAfterSeconds ← u64ToI64? metadata.notifyAfterSeconds
  let remindSoftThreshold ← u64ToI64? metadata.remindSoftThreshold
  let remindHardThreshold ← u64ToI64? metadata.remindHardThreshold
  return {
    id, targetSessionId, text, deliveryMode, timeoutAt, notifyAfterSeconds, remindSoftThreshold,
    remindHardThreshold
    senderSessionId := metadata.senderSessionId
    senderName := metadata.senderName
    fromSmSend := metadata.fromSmSend
    queuedAt := draw.now
    notifyOnDelivery := metadata.notifyOnDelivery
    notifyOnStop := metadata.notifyOnStop
    deliveredAt := none
    remindCancelOnReplySessionId := metadata.remindCancelOnReplySessionId
    parentSessionId := metadata.parentSessionId
    messageCategory := metadata.messageCategory
    responseRelaySource := metadata.responseRelaySource.or
      (if metadata.fromSmSend then some "sm-send" else none) }

namespace Database

def holdsMessage (db : Database) (id : String) : Bool :=
  db.messages.any fun message => message.id = id

/-- `INSERT OR IGNORE` on the primary key. -/
def insertMessage (message : Message) (db : Database) : Database :=
  if db.holdsMessage message.id then db else { db with messages := db.messages ++ [message] }

theorem holdsMessage_eq_false {db : Database} {id : String} :
    db.holdsMessage id = false ↔ ∀ message ∈ db.messages, message.id ≠ id := by
  simp [holdsMessage]

def message (db : Database) (id : String) : Option Message :=
  db.messages.find? fun message => message.id = id

def scheduledReminder (db : Database) (id : String) : Option ScheduledReminder :=
  db.scheduledReminders.find? fun reminder => reminder.id = id

end Database

def enqueueMessageWithIdAndMetadataConn (draw : Draw)
    (id targetSessionId text deliveryMode : String) (metadata : QueueMessageMetadata) :
    Operation Database Bool := do
  let message ← ofExcept (messageRow draw id targetSessionId text deliveryMode metadata)
  let there ← observe fun db => db.holdsMessage id
  call "failed to insert the message" (Database.insertMessage message)
  return !there

def enqueueMessageWithMetadataConn (draw : Draw) (targetSessionId text deliveryMode : String)
    (metadata : QueueMessageMetadata) : Operation Database String := do
  let inserted ← enqueueMessageWithIdAndMetadataConn draw draw.id targetSessionId text deliveryMode
    metadata
  if inserted then
    return draw.id
  else
    fail s!"generated duplicate queue message id {draw.id}"

/-- `enqueue_message_once_with_metadata`: a second enqueue under the id has to have the same content.
The answer says whether a row was inserted. -/
def Database.enqueueMessageOnce (draw : Draw) (id targetSessionId text deliveryMode : String)
    (metadata : QueueMessageMetadata) (db : Database) : Except String (Bool × Database) := do
  let message ← messageRow draw id targetSessionId text deliveryMode metadata
  if !db.holdsMessage id then
    .ok (true, db.insertMessage message)
  else if db.messages.any fun row => decide (row.id = id) &&
      decide (row.targetSessionId = targetSessionId) && decide (row.text = text) &&
      decide (row.deliveryMode = deliveryMode) &&
      decide (row.messageCategory = metadata.messageCategory) then
    .ok (false, db)
  else .error s!"queue message id {id} already exists with different content"

section

variable {start : Database} {draw : Draw} {targetSessionId text deliveryMode : String}
  {metadata : QueueMessageMetadata}

variable {id : String} {message : Message} {after : Database}

section

variable (made : messageRow draw id targetSessionId text deliveryMode metadata = .ok message)
include made

theorem messageRow_ok :
    message.id = id ∧ message.targetSessionId = targetSessionId ∧ message.text = text ∧
      message.deliveryMode = deliveryMode ∧ message.queuedAt = draw.now ∧
      message.deliveredAt = none ∧ message.messageCategory = metadata.messageCategory := by
  unfold messageRow at made
  rcases timeout : timeoutAtRfc3339 draw.nanos metadata.timeoutSeconds with _ | _ <;>
    rw [timeout] at made
  · cases made
  rcases after : u64ToI64? metadata.notifyAfterSeconds with _ | _ <;> rw [after] at made
  · cases made
  rcases soft : u64ToI64? metadata.remindSoftThreshold with _ | _ <;> rw [soft] at made
  · cases made
  rcases hard : u64ToI64? metadata.remindHardThreshold with _ | _ <;> rw [hard] at made
  · cases made
  cases made
  exact ⟨rfl, rfl, rfl, rfl, rfl, rfl, rfl⟩

theorem messageRow_id : message.id = id := (messageRow_ok made).1

end

theorem ends_enqueueMessageWithIdAndMetadataConn : Ends start
      (enqueueMessageWithIdAndMetadataConn draw id targetSessionId text deliveryMode metadata)
      (fun inserted after => ∃ message,
        messageRow draw id targetSessionId text deliveryMode metadata = .ok message ∧
          inserted = !start.holdsMessage id ∧ after = start.insertMessage message)
      fun after => after = start := by
  refine ends_ofExcept_bind rfl ?_
  intro message hs
  refine ends_observe_bind (ends_call_bind rfl ?_)
  exact ends_pure ⟨_, hs, rfl, rfl⟩

theorem Database.insertMessage_of_fresh (unused : start.holdsMessage message.id = false) :
    start.insertMessage message = { start with messages := start.messages ++ [message] } := by
  unfold Database.insertMessage
  rw [unused]
  rfl

/-- An enqueue under a given id that inserts appends one row, and none was there. -/
theorem Database.enqueueMessageOnce_inserted
    (hd : start.enqueueMessageOnce draw id targetSessionId text deliveryMode metadata =
      .ok (true, after)) :
    start.holdsMessage id = false ∧ ∃ message,
      messageRow draw id targetSessionId text deliveryMode metadata = .ok message ∧
        after = { start with messages := start.messages ++ [message] } := by
  unfold enqueueMessageOnce at hd
  rcases made : messageRow draw id targetSessionId text deliveryMode metadata with _ | message <;>
    rw [made] at hd
  · cases hd
  cases held : start.holdsMessage id with
  | false =>
    simp only [held, Bool.not_false] at hd
    cases hd
    refine ⟨rfl, _, rfl, Database.insertMessage_of_fresh ?_⟩
    rw [messageRow_id made]
    exact held
  | true =>
    simp only [held, Bool.not_true] at hd
    revert hd
    change (if _ then _ else _) = _ → _
    intro hd
    split at hd <;> cases hd

theorem Database.enqueueMessageOnce_repeated {row made : Message}
    (hm : row ∈ start.messages) (hna : row.id = id)
    (target : row.targetSessionId = targetSessionId) (words : row.text = text)
    (mode : row.deliveryMode = deliveryMode) (category : row.messageCategory = metadata.messageCategory)
    (possible : messageRow draw id targetSessionId text deliveryMode metadata = .ok made) :
    start.enqueueMessageOnce draw id targetSessionId text deliveryMode metadata =
      .ok (false, start) := by
  have held : start.holdsMessage id :=
    List.any_eq_true.mpr ⟨row, hm, decide_eq_true hna⟩
  have hag : (start.messages.any fun row => decide (row.id = id) &&
      decide (row.targetSessionId = targetSessionId) && decide (row.text = text) &&
      decide (row.deliveryMode = deliveryMode) &&
      decide (row.messageCategory = metadata.messageCategory)) := by
    refine List.any_eq_true.mpr ⟨row, hm, ?_⟩
    simp [hna, target, words, mode, category]
  unfold enqueueMessageOnce
  rw [possible]
  simp only [held, Bool.not_true]
  exact if_pos hag

theorem Database.holdsMessage_of_repeated
    (hd : start.enqueueMessageOnce draw id targetSessionId text deliveryMode metadata =
      .ok (false, after)) : start.holdsMessage id := by
  unfold enqueueMessageOnce at hd
  rcases made : messageRow draw id targetSessionId text deliveryMode metadata with _ | _ <;>
    rw [made] at hd
  · cases hd
  cases held : start.holdsMessage id with
  | false =>
    simp only [held, Bool.not_false] at hd
    cases hd
  | true => rfl

theorem ends_enqueueMessageWithMetadataConn :
    Ends start (enqueueMessageWithMetadataConn draw targetSessionId text deliveryMode metadata)
      (fun id after => id = draw.id ∧ start.holdsMessage draw.id = false ∧ ∃ message,
          messageRow draw draw.id targetSessionId text deliveryMode metadata = .ok message ∧
          after = { start with messages := start.messages ++ [message] })
      fun _ => True := by
  refine ends_bind (ends_mono ends_enqueueMessageWithIdAndMetadataConn (fun _ _ facts => facts)
    fun _ _ => trivial) ?_
  rintro _ after ⟨message, made, rfl, rfl⟩
  split
  · next hab =>
      have unused : start.holdsMessage draw.id = false := by simpa using hab
      refine ends_pure ⟨rfl, unused, _, made, ?_⟩
      exact Database.insertMessage_of_fresh (by rw [messageRow_id made]; exact unused)
  · exact ends_fail trivial

end

end SessionManager.Messages
