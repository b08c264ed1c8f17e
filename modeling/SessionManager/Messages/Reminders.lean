import SessionManager.Foundation.Text
import SessionManager.Foundation.Transcripts
import SessionManager.Messages.Database

/-! Scheduled reminders. A reminder that is claimed when it is due becomes a message; a one-shot
reminder is then done, and a recurring one is due again after its interval. The instants that callers
name are arbitrary. The local time of an instant comes from outside, by the second. -/
namespace SessionManager.Messages
open Foundation Operation

def localNowNaive (localtime : Int → Option Int) (now : Int) : Option Int :=
  (localtime (now / nanosPerSecond)).map fun seconds =>
    seconds * nanosPerSecond + now % nanosPerSecond

def wholeSeconds (nanos : Int) : Int := nanos.tdiv nanosPerSecond

/-- Six digits of the fractional second are printed. -/
def pythonCompatibleReminderTimestamp (nanos : Int) : Stamp := .naive (nanos / 1000 * 1000)

section

variable (localtime : Int → Option Int)

def scheduledReminderElapsedSeconds (fireAt : Stamp) (now : Int) : Option Int :=
  match fireAt with
  | .utc parsed => some (wholeSeconds (now - parsed))
  | .naive parsed => (localNowNaive localtime now).map fun here => wholeSeconds (here - parsed)
  | .unreadable _ => none

def scheduledReminderIsDue (fireAt : Stamp) (now : Int) : Bool :=
  (scheduledReminderElapsedSeconds localtime fireAt now).any fun elapsed => decide (0 ≤ elapsed)

end

def select {α : Type} (read : Database → α) : Operation Database α := do
  call "query failed" id
  observe read

namespace Database

def updateReminders (choose : ScheduledReminder → Bool)
    (change : ScheduledReminder → ScheduledReminder) (db : Database) : Database :=
  { db with
    scheduledReminders := db.scheduledReminders.map fun reminder =>
      if choose reminder then change reminder else reminder }

def insertReminder (reminder : ScheduledReminder) (db : Database) : Database :=
  { db with scheduledReminders := db.scheduledReminders ++ [reminder] }

def deactivate (reminderId : String) : Database → Database :=
  updateReminders (fun reminder => reminder.id = reminderId) fun reminder =>
    { reminder with isActive := false }

end Database

structure ReminderRequest where
  targetSessionId : String
  delaySeconds : Nat
  message : String
  recurringIntervalSeconds : Option Nat
  deriving DecidableEq, Repr

def reminderRow (localtime : Int → Option Int) (now : Int) (id : String)
    (request : ReminderRequest) : Except String ScheduledReminder :=
  if trim request.targetSessionId = "" then .error "target_session_id must not be empty"
  else if request.delaySeconds = 0 then .error "delay_seconds must be greater than zero"
  else if request.recurringIntervalSeconds = some 0 then
    .error "recurring_interval_seconds must be greater than zero"
  else do
    let delaySeconds ← u64ToI64 request.delaySeconds
    let recurringIntervalSeconds ← u64ToI64? request.recurringIntervalSeconds
    match localNowNaive localtime now with
    | none => .error "could not determine the local UTC offset for reminder persistence"
    | some here =>
      match checkedAdd here delaySeconds with
      | none => .error "reminder delay is outside the supported timestamp range"
      | some fireAt =>
        if recurringIntervalSeconds.any fun interval => (checkedAdd fireAt interval).isNone then
          .error "recurring reminder interval is outside the supported timestamp range"
        else
          .ok {
            id, recurringIntervalSeconds
            targetSessionId := trim request.targetSessionId
            message := if trim request.message = "" then "Reminder" else trim request.message
            fireAt := pythonCompatibleReminderTimestamp fireAt
            fired := false
            isActive := true }

def scheduleReminder (localtime : Int → Option Int) (now : Int) (id : String)
    (request : ReminderRequest) : Operation Database ScheduledReminder := do
  let row ← ofExcept (reminderRow localtime now id request)
  withConnection do
    if (← observe fun db => db.scheduledReminder id).isSome then
      fail "UNIQUE constraint failed: scheduled_reminders.id"
    else
      call "failed to insert the reminder" (Database.insertReminder row)
      match ← select fun db => db.scheduledReminder id with
      | none => fail s!"scheduled reminder {id} was not persisted"
      | some reminder => return reminder

/-- The first statement of `cancel_scheduled_reminder`; without a row the call ends here. -/
def findReminderToCancel (reminderId : String) : Operation Database (Option ScheduledReminder) :=
  withConnection (select fun db => db.scheduledReminder reminderId)

/-- Its second statement. -/
def cancelScheduledReminder (reminderId : String) : Operation Database Unit :=
  call "failed to cancel the reminder" (Database.deactivate reminderId)

def deactivateScheduledReminder (reminderId : String) : Operation Database Bool :=
  withConnection do
    let changed ← observe fun db => db.scheduledReminders.any fun reminder =>
      decide (reminder.id = reminderId) && reminder.isActive
    call "failed to deactivate the reminder" (Database.deactivate reminderId)
    return changed

def scheduledReminderMessage (reminder : ScheduledReminder) : String :=
  if reminder.recurringIntervalSeconds.isSome then
    "[sm] Recurring reminder: (" ++ reminder.id ++ ")\n" ++ reminder.message ++
      "\n[sm] Cancel: sm remind cancel " ++ reminder.id
  else "[sm] Scheduled reminder: (" ++ reminder.id ++ ")\n" ++ reminder.message

structure ScheduledReminderDelivery where
  reminder : ScheduledReminder
  queueMessageId : String
  deriving DecidableEq, Repr

/-- What a claim makes of the row: a recurring reminder is armed again, a one-shot reminder ends. -/
def claimedRow (localtime : Int → Option Int) (now : Int) (recurring : Option Int) :
    Except String (ScheduledReminder → ScheduledReminder) :=
  match recurring with
  | none => .ok fun row => { row with fired := true, isActive := false }
  | some interval =>
    match localNowNaive localtime now with
    | none => .error "could not determine the local UTC offset for reminder persistence"
    | some here =>
      match checkedAdd here interval with
      | none => .error "recurring reminder interval exceeds the timestamp range"
      | some next => .ok fun row =>
        { row with
          fireAt := pythonCompatibleReminderTimestamp next
          fired := false
          isActive := true }

def updateClaimed (localtime : Int → Option Int) (now : Int) (reminder : ScheduledReminder) :
    Operation Database Unit := do
  let change ← ofExcept (claimedRow localtime now reminder.recurringIntervalSeconds)
  let changed ← observe fun db => db.scheduledReminders.countP fun row =>
    decide (row.id = reminder.id) && row.isActive
  call "failed to update the reminder" (Database.updateReminders
    (fun row => decide (row.id = reminder.id) && row.isActive) change)
  if changed = 1 then return ()
  else fail s!"scheduled reminder {reminder.id} changed while being claimed"

def reminderMetadata : QueueMessageMetadata := { messageCategory := some "scheduled_reminder" }

def mayClaim (localtime : Int → Option Int) (now : Int) (reminder : ScheduledReminder) : Bool :=
  !(!reminder.isActive || reminder.fired && reminder.recurringIntervalSeconds.isNone ||
    !scheduledReminderIsDue localtime reminder.fireAt now)

def claimDueScheduledReminder (localtime : Int → Option Int) (draw : Draw) (reminderId : String)
    (now : Int) : Operation Database (Option ScheduledReminderDelivery) :=
  withConnection (transact do
    match ← select fun db => db.scheduledReminder reminderId with
    | none => return none
    | some reminder =>
      if !mayClaim localtime now reminder then
        return none
      else
        let queueMessageId ← enqueueMessageWithMetadataConn draw reminder.targetSessionId
          (scheduledReminderMessage reminder) "urgent" reminderMetadata
        updateClaimed localtime now reminder
        return some ⟨reminder, queueMessageId⟩)

/-- The database, and the cancel calls that have found their reminder and not yet marked it. -/
structure Desk where
  db : Database
  cancelling : List ScheduledReminder
  deriving DecidableEq, Repr

inductive ReminderEvent
  | schedule (now : Int) (id : String) (request : ReminderRequest)
  | cancel (reminderId : String)
  | finishCancel (index : Nat)
  | deactivate (reminderId : String)
  | claim (draw : Draw) (reminderId : String) (now : Int)
  deriving DecidableEq, Repr

inductive Outcome
  | scheduled (reminder : ScheduledReminder)
  | found
  | cancelled (reminder : ScheduledReminder)
  | deactivated (changed : Bool)
  | claimed (delivery : ScheduledReminderDelivery) (now : Int)
  | nothing
  | failed
  deriving DecidableEq, Repr

def stepReminders (localtime : Int → Option Int) (desk : Desk) :
    List Fate × ReminderEvent → Desk × Outcome
  | (fates, .schedule now id request) =>
    let (db, result) := (scheduleReminder localtime now id request).perform desk.db fates
    ({ desk with db }, match result with
      | some reminder => .scheduled reminder
      | none => .failed)
  | (fates, .cancel reminderId) =>
    let (db, result) := (findReminderToCancel reminderId).perform desk.db fates
    ({ db, cancelling := desk.cancelling ++ result.join.toList }, match result with
      | some (some _) => .found
      | some none => .nothing
      | none => .failed)
  | (fates, .finishCancel index) =>
    match desk.cancelling[index]? with
    | none => (desk, .nothing)
    | some reminder =>
      let (db, result) := (cancelScheduledReminder reminder.id).perform desk.db fates
      ({ db, cancelling := desk.cancelling.eraseIdx index }, match result with
        | some _ => .cancelled reminder
        | none => .failed)
  | (fates, .deactivate reminderId) =>
    let (db, result) := (deactivateScheduledReminder reminderId).perform desk.db fates
    ({ desk with db }, match result with
      | some changed => .deactivated changed
      | none => .failed)
  | (fates, .claim draw reminderId now) =>
    let (db, result) :=
      (claimDueScheduledReminder localtime draw reminderId now).perform desk.db fates
    ({ desk with db }, match result with
      | some (some delivery) => .claimed delivery now
      | some none => .nothing
      | none => .failed)

end SessionManager.Messages
