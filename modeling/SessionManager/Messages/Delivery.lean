import SessionManager.Foundation.Fallible
import SessionManager.Foundation.Transcripts
import SessionManager.Messages.Database

/-! Marking a message delivered, with or without the effects that its sender asked for. The mark
takes only where the message is not delivered yet, and the effects stand in one transaction with it. -/
namespace SessionManager.Messages
open Foundation Operation List Fallible Bool

structure PendingMessage where
  id : String
  targetSessionId : String
  text : String
  deliveryMode : String
  hasDeliverySideEffects : Bool
  senderSessionId : Option String
  senderName : Option String
  fromSmSend : Bool
  notifyOnDelivery : Bool
  notifyAfterSeconds : Option Nat
  notifyOnStop : Bool
  remindSoftThreshold : Option Nat
  remindHardThreshold : Option Nat
  remindCancelOnReplySessionId : Option String
  parentSessionId : Option String
  messageCategory : Option String
  responseRelaySource : Option String
  deriving DecidableEq, Repr

structure DeliverySeen where
  deliveredAt : String
  notice : Draw
  armedAt : String
  remind : Draw
  wake : Draw
  deriving DecidableEq, Repr

namespace Database

def markDelivered (messageId deliveredAt : String) (db : Database) : Database :=
  { db with
    messages := db.messages.map fun message =>
      if decide (message.id = messageId) && message.deliveredAt.isNone then
        { message with deliveredAt := some deliveredAt }
      else message }

def upsertStopNotify (state : StopNotifyState) (db : Database) : Database :=
  { db with
    stopNotifyStates :=
      if db.stopNotifyStates.any fun old => old.sessionId = state.sessionId then
        db.stopNotifyStates.map fun old => if old.sessionId = state.sessionId then state else old
      else db.stopNotifyStates ++ [state] }

def deactivateReminds (targetSessionId : String) (db : Database) : Database :=
  { db with
    remindRegistrations := db.remindRegistrations.map fun registration =>
      if registration.targetSessionId = targetSessionId then
        { registration with isActive := false }
      else registration }

/-- `INSERT OR REPLACE`: the rows that share the id or the target go. -/
def replaceRemind (registration : RemindRegistration) (db : Database) : Database :=
  { db with
    remindRegistrations := (db.remindRegistrations.filter fun old =>
      decide (old.id ≠ registration.id) &&
        decide (old.targetSessionId ≠ registration.targetSessionId)) ++ [registration] }

def cancelParentWake (childSessionId : String) (db : Database) : Database :=
  { db with
    parentWakeRegistrations := db.parentWakeRegistrations.map fun registration =>
      if registration.childSessionId = childSessionId then
        { registration with isActive := false }
      else registration }

def replaceParentWake (registration : ParentWakeRegistration) (db : Database) : Database :=
  { db with
    parentWakeRegistrations := (db.parentWakeRegistrations.filter fun old =>
      decide (old.id ≠ registration.id) &&
        decide (old.childSessionId ≠ registration.childSessionId)) ++ [registration] }

end Database

def markDeliveredConn (deliveredAt messageId : String) : Operation Database Bool := do
  let changed ← observe fun db => db.messages.any fun message =>
    decide (message.id = messageId) && message.deliveredAt.isNone
  call "failed to mark the message delivered" (Database.markDelivered messageId deliveredAt)
  return changed

def truncateChars (value : String) (maxChars : Nat) : String :=
  if maxChars < value.length then String.ofList (value.toList.take maxChars) ++ "..." else value

def deliveryNotificationText (message : PendingMessage) : String :=
  "[sm] Message delivered to " ++ message.targetSessionId ++ "\nOriginal: \"" ++
    truncateChars message.text 100 ++ "\""

def notifySender (seen : DeliverySeen) (message : PendingMessage) : Operation Database Unit :=
  match message.notifyOnDelivery, message.senderSessionId with
  | true, some senderSessionId => do
      let _ ← enqueueMessageWithMetadataConn seen.notice senderSessionId
        (deliveryNotificationText message) "sequential" {}
      return ()
  | _, _ => return ()

def stopNotifyState (seen : DeliverySeen) (message : PendingMessage) (senderSessionId : String) :
    StopNotifyState where
  sessionId := message.targetSessionId
  senderSessionId := senderSessionId
  senderName := message.senderName.getD ""
  delaySeconds := 0
  armedAt := seen.armedAt

def armStopNotify (seen : DeliverySeen) (message : PendingMessage) : Operation Database Unit :=
  match message.notifyOnStop, message.senderSessionId with
  | true, some senderSessionId =>
    call "failed to arm the stop notification"
      (Database.upsertStopNotify (stopNotifyState seen message senderSessionId))
  | _, _ => return ()

/-- The hard threshold of a reminder, by default two minutes after the soft one. -/
def hardThreshold (message : PendingMessage) (softThreshold : Nat) : Nat :=
  message.remindHardThreshold.getD (min (softThreshold + 120) (2 ^ 64 - 1))

def remindRegistration (seen : DeliverySeen) (message : PendingMessage) (soft hard : Int) :
    RemindRegistration where
  id := seen.remind.id
  targetSessionId := message.targetSessionId
  softThresholdSeconds := soft
  hardThresholdSeconds := hard
  registeredAt := seen.remind.now
  lastResetAt := seen.remind.now
  cancelOnReplySessionId := message.remindCancelOnReplySessionId
  softFired := false
  isActive := true
  trackedStatusNudgeFired := false
  persistentTracking := false

def registerRemind (seen : DeliverySeen) (message : PendingMessage) : Operation Database Unit :=
  match message.remindSoftThreshold with
  | none => return ()
  | some softThreshold => do
      call "failed to deactivate the reminders" (Database.deactivateReminds message.targetSessionId)
      let soft ← ofExcept (u64ToI64 softThreshold)
      let hard ← ofExcept (u64ToI64 (hardThreshold message softThreshold))
      call "failed to register the reminder"
        (Database.replaceRemind (remindRegistration seen message soft hard))

def parentWakeRegistration (seen : DeliverySeen) (message : PendingMessage)
    (parentSessionId : String) : ParentWakeRegistration where
  id := seen.wake.id
  childSessionId := message.targetSessionId
  parentSessionId := parentSessionId
  periodSeconds := 600
  registeredAt := seen.wake.now
  lastWakeAt := none
  lastStatusAtPrevWake := none
  escalated := false
  isActive := true

def registerParentWake (seen : DeliverySeen) (message : PendingMessage) : Operation Database Unit :=
  match message.remindSoftThreshold, message.parentSessionId with
  | some _, some parentSessionId => do
      call "failed to cancel the parent wake" (Database.cancelParentWake message.targetSessionId)
      call "failed to register the parent wake"
        (Database.replaceParentWake (parentWakeRegistration seen message parentSessionId))
  | _, _ => return ()

def applySideEffects (seen : DeliverySeen) (message : PendingMessage) : Operation Database Unit := do
  notifySender seen message
  armStopNotify seen message
  registerRemind seen message
  registerParentWake seen message

def markDeliveredAndApplySideEffects (seen : DeliverySeen) (message : PendingMessage) :
    Operation Database Unit :=
  withConnection (transact do
    if ← markDeliveredConn seen.deliveredAt message.id then
      applySideEffects seen message
    else
      return ())

def markDelivered (deliveredAt messageId : String) : Operation Database Unit :=
  withConnection do
    let _ ← markDeliveredConn deliveredAt messageId
    return ()

inductive DeliveryCall
  | mark (deliveredAt messageId : String)
  | apply (seen : DeliverySeen) (message : PendingMessage)
  deriving DecidableEq, Repr

namespace DeliveryCall

def messageId : DeliveryCall → String
  | .mark _ messageId => messageId
  | .apply _ message => message.id

def run : DeliveryCall → Operation Database Unit
  | .mark deliveredAt messageId => markDelivered deliveredAt messageId
  | .apply seen message => markDeliveredAndApplySideEffects seen message

end DeliveryCall

def Database.delivery (db : Database) :
    List Message × List RemindRegistration × List ParentWakeRegistration × List StopNotifyState :=
  (db.messages, db.remindRegistrations, db.parentWakeRegistrations, db.stopNotifyStates)

/-- A call of a run: the message, and whether anything has changed. -/
structure Delivered where
  messageId : String
  changed : Bool
  deriving DecidableEq, Repr

def stepDelivery (db : Database) (call : List Fate × DeliveryCall) : Database × Delivered :=
  let after := (call.2.run.perform db call.1).1
  (after, ⟨call.2.messageId, decide (after.delivery ≠ db.delivery)⟩)

namespace Database

variable (seen : DeliverySeen) (message : PendingMessage)

def withNotice (db : Database) : Except String Database :=
  match message.notifyOnDelivery, message.senderSessionId with
  | true, some senderSessionId => do
      let row ← messageRow seen.notice seen.notice.id senderSessionId
        (deliveryNotificationText message) "sequential" {}
      if db.holdsMessage seen.notice.id then
        .error s!"generated duplicate queue message id {seen.notice.id}"
      else .ok { db with messages := db.messages ++ [row] }
  | _, _ => .ok db

def withStopNotify (db : Database) : Database :=
  match message.notifyOnStop, message.senderSessionId with
  | true, some senderSessionId =>
    db.upsertStopNotify (stopNotifyState seen message senderSessionId)
  | _, _ => db

def withRemind (db : Database) : Except String Database :=
  match message.remindSoftThreshold with
  | none => .ok db
  | some softThreshold => do
      let soft ← u64ToI64 softThreshold
      let hard ← u64ToI64 (hardThreshold message softThreshold)
      return (db.deactivateReminds message.targetSessionId).replaceRemind
        (remindRegistration seen message soft hard)

def withParentWake (db : Database) : Database :=
  match message.remindSoftThreshold, message.parentSessionId with
  | some _, some parentSessionId =>
    (db.cancelParentWake message.targetSessionId).replaceParentWake
      (parentWakeRegistration seen message parentSessionId)
  | _, _ => db

/-- All effects of a delivery: they are what the delivery is for. -/
def withSideEffects (db : Database) : Except String Database := do
  let noticed ← db.withNotice seen message
  let reminded ← (noticed.withStopNotify seen message).withRemind seen message
  return reminded.withParentWake seen message

end Database

variable (deliveredAt : String)

section

variable {start : Database} (seen : DeliverySeen) (message : PendingMessage)

theorem ends_write (reason : String) (effect : Database → Database) :
    Ends start (call reason effect) (fun _ after => after = effect start) fun _ => True :=
  ends_call trivial rfl

theorem ends_notifySender : Ends start (notifySender seen message)
      (fun _ after => start.withNotice seen message = .ok after) fun _ => True := by
  unfold notifySender Database.withNotice
  split
  · refine ends_bind ends_enqueueMessageWithMetadataConn ?_
    rintro _ _ ⟨_, unused, _, made, rfl⟩
    refine ends_pure ?_
    rw [made, unused]
    rfl
  · exact ends_pure rfl

theorem ends_armStopNotify : Ends start (armStopNotify seen message)
      (fun _ after => after = start.withStopNotify seen message) fun _ => True := by
  unfold armStopNotify Database.withStopNotify
  split
  · exact ends_write _ _
  · exact ends_pure rfl

theorem ends_registerRemind : Ends start (registerRemind seen message)
      (fun _ after => start.withRemind seen message = .ok after) fun _ => True := by
  unfold registerRemind Database.withRemind
  split
  · exact ends_pure rfl
  refine ends_call_bind trivial (ends_ofExcept_bind trivial ?_)
  intro _ softIs
  refine ends_ofExcept_bind trivial ?_
  intro _ hardIs
  refine ends_mono (ends_write _ _) ?_ fun _ _ => trivial
  rintro _ _ rfl
  rw [softIs, hardIs]
  rfl

theorem ends_registerParentWake : Ends start (registerParentWake seen message)
      (fun _ after => after = start.withParentWake seen message) fun _ => True := by
  unfold registerParentWake Database.withParentWake
  split
  · exact ends_call_bind trivial (ends_write _ _)
  · exact ends_pure rfl

theorem ends_applySideEffects : Ends start (applySideEffects seen message)
      (fun _ after => start.withSideEffects seen message = .ok after) fun _ => True := by
  refine ends_bind (ends_notifySender _ _) ?_
  intro _ noticed noticedIs
  refine ends_bind (ends_armStopNotify _ _) ?_
  rintro _ _ rfl
  refine ends_bind (ends_registerRemind _ _) ?_
  intro _ reminded remindedIs
  refine ends_mono (ends_registerParentWake _ _) ?_ fun _ _ => trivial
  rintro _ _ rfl
  unfold Database.withSideEffects
  rw [noticedIs]
  change (do
    let reminded ← (noticed.withStopNotify seen message).withRemind seen message
    return reminded.withParentWake seen message) = _
  rw [remindedIs]
  rfl

def Database.isPending (db : Database) (messageId : String) : Bool :=
  db.messages.any fun message => decide (message.id = messageId) && message.deliveredAt.isNone

theorem ends_markDeliveredConn (deliveredAt messageId : String) :
    Ends start (markDeliveredConn deliveredAt messageId)
      (fun changed after => changed = start.isPending messageId ∧
        after = start.markDelivered messageId deliveredAt) fun after => after = start :=
  ends_observe_bind (ends_call_bind rfl (ends_pure ⟨rfl, rfl⟩))

theorem Database.markDelivered_of_not_pending {messageId : String}
    (hab : start.isPending messageId = false) :
    start.markDelivered messageId deliveredAt = start := by
  unfold Database.markDelivered
  have hs : ∀ message ∈ start.messages,
      (if decide (message.id = messageId) && message.deliveredAt.isNone then
        { message with deliveredAt := some deliveredAt } else message) = message := by
    intro message hm
    have other := any_eq_false.mp hab _ hm
    rw [if_neg other]
  rw [map_congr_left hs, map_id']

/-- What a call does: nothing at all, or the delivery of a pending message with its effects. -/
def DeliveryCall.Effect (call : DeliveryCall) (before after : Database) : Prop :=
  match call with
  | .mark deliveredAt messageId => after = before.markDelivered messageId deliveredAt
  | .apply seen message =>
    (before.markDelivered message.id seen.deliveredAt).withSideEffects seen message = .ok after

theorem DeliveryCall.ends_run (call : DeliveryCall) : Ends start call.run
      (fun _ after => start.isPending call.messageId = false ∧ after = start.initSchema ∨
        start.isPending call.messageId ∧ call.Effect start.initSchema after)
      fun after => after = start ∨ after = start.initSchema := by
  cases call with
  | mark _ messageId =>
    refine ends_withConnection (.inl rfl) ?_
    refine ends_bind (ends_mono (ends_markDeliveredConn _ _)
      (fun _ _ facts => facts) fun _ hs => .inr hs) ?_
    rintro _ _ ⟨_, rfl⟩
    refine ends_pure ?_
    rcases hpe : start.isPending messageId with _ | _
    · exact .inl ⟨hpe, Database.markDelivered_of_not_pending _ hpe⟩
    · exact .inr ⟨hpe, rfl⟩
  | apply seen message =>
    refine ends_withConnection (.inl rfl) ?_
    refine ends_mono (ends_transact ?_) (fun _ _ facts => facts) fun _ hs => .inr hs
    refine ends_bind (ends_mono (ends_markDeliveredConn seen.deliveredAt message.id)
      (fun _ _ facts => facts) fun _ _ => trivial) ?_
    rintro _ _ ⟨rfl, rfl⟩
    split
    · next hpe =>
        refine ends_mono (ends_applySideEffects _ _) ?_ fun _ _ => trivial
        intro _ after applied
        exact .inr ⟨hpe, applied⟩
    · next hab =>
        have none_pending : start.isPending message.id = false := (not_eq_true _).mp hab
        refine ends_pure (.inl ⟨none_pending, ?_⟩)
        exact Database.markDelivered_of_not_pending seen.deliveredAt none_pending

end

section

variable {start : Database}

def Database.Done (db : Database) (messageId : String) : Prop :=
  (∃ message ∈ db.messages, message.id = messageId) ∧ db.isPending messageId = false

variable {seen : DeliverySeen} {message : PendingMessage} {after : Database} {messageId : String}
  {call : DeliveryCall}

theorem Database.withRemind_messages (reminded : start.withRemind seen message = .ok after) :
    after.messages = start.messages := by
  unfold Database.withRemind at reminded
  split at reminded
  · cases reminded
    rfl
  · obtain ⟨_, _, reminded⟩ := bind_eq_ok.mp reminded
    obtain ⟨_, _, reminded⟩ := bind_eq_ok.mp reminded
    cases reminded
    rfl

theorem Database.withSideEffects_messages
    (applied : start.withSideEffects seen message = .ok after) :
    ∃ rows, after.messages = start.messages ++ rows ∧
      ∀ row ∈ rows, start.holdsMessage row.id = false := by
  obtain ⟨noticed, noticedIs, applied⟩ := bind_eq_ok.mp applied
  obtain ⟨reminded, remindedIs, applied⟩ := bind_eq_ok.mp applied
  have stop : (noticed.withStopNotify seen message).messages = noticed.messages := by
    unfold Database.withStopNotify
    split <;> rfl
  have wake : (reminded.withParentWake seen message).messages = reminded.messages := by
    unfold Database.withParentWake
    split <;> rfl
  cases applied
  rw [wake, Database.withRemind_messages remindedIs, stop]
  unfold Database.withNotice at noticedIs
  split at noticedIs
  · obtain ⟨row, made, noticedIs⟩ := bind_eq_ok.mp noticedIs
    split at noticedIs
    · cases noticedIs
    rename_i unused
    cases noticedIs
    refine ⟨[row], rfl, ?_⟩
    intro _ hm
    rw [mem_singleton.mp hm, messageRow_id made]
    exact (not_eq_true _).mp unused
  · cases noticedIs
    exact ⟨[], by simp, by simp⟩

theorem Database.isPending_eq_false {db : Database} : db.isPending messageId = false ↔
      ∀ message ∈ db.messages, message.id = messageId → message.deliveredAt ≠ none := by
  simp [Database.isPending]

theorem Database.done_markDelivered (hpe : start.isPending messageId) :
    (start.markDelivered messageId deliveredAt).Done messageId := by
  refine ⟨?_, ?_⟩
  · obtain ⟨message, hm, chosen⟩ := any_eq_true.mp hpe
    refine ⟨_, mem_map.mpr ⟨_, hm, rfl⟩, ?_⟩
    rw [if_pos chosen]
    simp only [and_eq_true, decide_eq_true_eq] at chosen
    exact chosen.1
  · refine Database.isPending_eq_false.mpr ?_
    intro message hm hs
    obtain ⟨_, _, rfl⟩ := mem_map.mp hm
    split
    · exact Option.some_ne_none _
    · next spared =>
        rw [if_neg spared] at hs
        simpa [hs] using spared

theorem Database.Done.markDelivered (hd : start.Done messageId)
    (other deliveredAt : String) : (start.markDelivered other deliveredAt).Done messageId := by
  obtain ⟨⟨message, hm, hs⟩, delivered⟩ := hd
  refine ⟨⟨_, mem_map.mpr ⟨_, hm, rfl⟩, ?_⟩, ?_⟩
  · split
    · exact hs
    · exact hs
  · refine Database.isPending_eq_false.mpr ?_
    intro message hm hs
    obtain ⟨old, ht, rfl⟩ := mem_map.mp hm
    split
    · exact Option.some_ne_none _
    · next spared =>
        rw [if_neg spared] at hs
        exact Database.isPending_eq_false.mp delivered old ht hs

theorem Database.Done.withSideEffects (hd : start.Done messageId)
    (applied : start.withSideEffects seen message = .ok after) : after.Done messageId := by
  obtain ⟨_, appended, hfr⟩ := Database.withSideEffects_messages applied
  obtain ⟨⟨old, hm, hs⟩, delivered⟩ := hd
  refine ⟨⟨old, by rw [appended]; exact mem_append_left _ hm, hs⟩, ?_⟩
  refine Database.isPending_eq_false.mpr ?_
  intro row ht hna
  rw [appended] at ht
  rcases mem_append.mp ht with hk | new
  · exact Database.isPending_eq_false.mp delivered row hk hna
  · have unused := Database.holdsMessage_eq_false.mp (hfr row new) old hm
    exact absurd (hs.trans hna.symm) unused

theorem DeliveryCall.Effect.done
    (effect : call.Effect start after) (hpe : start.isPending call.messageId) :
    after.Done call.messageId := by
  cases call with
  | mark =>
    rw [show _ = start.markDelivered _ _ from effect]
    exact Database.done_markDelivered _ hpe
  | apply seen =>
    exact (Database.done_markDelivered seen.deliveredAt hpe).withSideEffects effect

theorem DeliveryCall.Effect.keeps (effect : call.Effect start after) (hd : start.Done messageId) :
    after.Done messageId := by
  cases call with
  | mark =>
    rw [show _ = start.markDelivered _ _ from effect]
    exact hd.markDelivered _ _
  | apply => exact (hd.markDelivered _ _).withSideEffects effect

/-- One call, however its statements fare. -/
structure DeliversAtomically (db : Database) (call : DeliveryCall) (fates : List Fate) : Prop where
  /-- A call that fails leaves no trace. -/
  failed : (call.run.perform db fates).2 = none →
    (call.run.perform db fates).1.delivery = db.delivery
  /-- A call that leaves a trace has set the delivery time of a pending message, and has applied all
  effects that go with it. -/
  changed : (call.run.perform db fates).1.delivery ≠ db.delivery →
    db.isPending call.messageId = true ∧ (call.run.perform db fates).1.Done call.messageId ∧
      call.Effect db.initSchema (call.run.perform db fates).1

theorem deliversAtomically (db : Database) (call : DeliveryCall) (fates : List Fate) :
    DeliversAtomically db call fates := by
  rcases perform_of_ends (@DeliveryCall.ends_run db call) fates with
    ⟨_, answered, ⟨_, hs⟩ | ⟨hpe, effect⟩⟩ | ⟨answered, hs | hs⟩
  · refine ⟨?_, ?_⟩
    · intro _
      rw [hs]
      rfl
    · intro changed
      rw [hs] at changed
      exact absurd rfl changed
  · refine ⟨?_, ?_⟩
    · intro failed
      rw [answered] at failed
      cases failed
    · intro _
      exact ⟨hpe, effect.done hpe, effect⟩
  · refine ⟨fun _ => by rw [hs], ?_⟩
    intro changed
    rw [hs] at changed
    exact absurd rfl changed
  · refine ⟨fun _ => by rw [hs]; rfl, ?_⟩
    intro changed
    rw [hs] at changed
    exact absurd rfl changed

theorem done_of_delivery {one other : Database} (hs : one.delivery = other.delivery)
    (hd : one.Done messageId) : other.Done messageId := by
  have messages : one.messages = other.messages := congrArg Prod.fst hs
  unfold Database.Done Database.isPending at hd ⊢
  rw [← messages]
  exact hd

theorem stepDelivery_done (hd : start.Done messageId)
    (event : List Fate × DeliveryCall) : (stepDelivery start event).1.Done messageId := by
  by_cases hs : (event.2.run.perform start event.1).1.delivery = start.delivery
  · exact done_of_delivery hs.symm hd
  · exact ((deliversAtomically _ event.2 event.1).changed hs).2.2.keeps hd

/-- In every run, whatever fails, a call that fails leaves no trace, effects appear only together with
the delivery time of their message, and a message is delivered with its effects at most once. -/
theorem delivery_effects_once (db : Database) (events : List (List Fate × DeliveryCall)) :
    (∀ call fates, DeliversAtomically (reached stepDelivery db events) call fates) ∧
      ∀ messageId, (answers stepDelivery db events).countP (fun delivered =>
        decide (delivered.messageId = messageId) && delivered.changed) ≤ 1 := by
  refine ⟨fun call fates => deliversAtomically _ call fates, ?_⟩
  intro messageId
  have excludes : (answers stepDelivery db events).Pairwise fun earlier later =>
      earlier.changed = true → later.messageId = earlier.messageId → later.changed = false := by
    refine @pairwise_answers _ _ _ stepDelivery (fun _ => True) (fun delivered db =>
      delivered.changed = true → db.Done delivered.messageId) _ (fun _ _ _ => trivial) ?_ ?_ ?_ db
      trivial events
    · intro state event _ changed
      exact ((deliversAtomically state event.2 event.1).changed (of_decide_eq_true changed)).2.1
    · intro delivered state event _ done changed
      exact stepDelivery_done (done changed) event
    · intro earlier state event _ done changed same
      refine decide_eq_false ?_
      intro traced
      have pending := ((deliversAtomically state event.2 event.1).changed traced).1
      rw [show event.2.messageId = earlier.messageId from same, (done changed).2] at pending
      cases pending
  refine countP_le_one (excludes.imp ?_)
  intro earlier later excluded first
  simp only [and_eq_true, decide_eq_true_eq] at first
  by_cases same : later.messageId = messageId
  · rw [excluded first.2 (same.trans first.1.symm), Bool.and_false]
  · rw [decide_eq_false same, Bool.false_and]

end

end SessionManager.Messages
