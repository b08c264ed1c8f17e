import SessionManager.Reparent.Moves
import SessionManager.Reparent.Retarget

/-! The replay of deferred intents. The queue writes of an intent are given as data, so that one can
say what each write does to the lookups; a replay of an intent succeeds when its messages are either
not stored yet or stored with the same content. -/
namespace SessionManager.Reparent
open Foundation Queue List

variable {requestId : String}

section

/-- What a replay acts on: an intent without its times. -/
structure Job where
  key : String
  operation : DeferredOperation
  childSessionId : String
  deriving DecidableEq, Repr

def DeferredRoutingIntent.job (intent : DeferredRoutingIntent) : Job :=
  ⟨intent.key, intent.operation, intent.childSessionId⟩

structure DeferredMessage where
  id : String
  targetSessionId : String
  text : String
  deliveryMode : String
  metadata : QueueMessageMetadata
  deriving DecidableEq, Repr

inductive ReplayWrite
  | enqueue (message : DeferredMessage)
  | cancel (childSessionId : String)
  | insert (childSessionId parentSessionId : String) (periodSeconds : Int)
  deriving DecidableEq, Repr

namespace Job

variable (env : Env) (requestId : String) (job : Job) (parent : Option String)

def rewakes : Bool :=
  match job.operation with
  | .parentWake _ | .taskComplete _ => true
  | .parentMessage _ _ _ | .parentInput _ _ _ => false

def message : Option DeferredMessage :=
  match job.operation, parent with
  | .taskComplete text, some parent =>
    some ⟨deferredTaskCompleteMessageId env requestId job.key, parent, text, "important",
      { QueueMessageMetadata.default with messageCategory := some "task_complete" }⟩
  | .parentMessage text deliveryMode category, some parent =>
    some ⟨deferredParentMessageId env requestId job.key, parent, text, deliveryMode,
      { QueueMessageMetadata.default with
        senderSessionId := some job.childSessionId, messageCategory := some category }⟩
  | .parentInput text deliveryMode payload, parent =>
    some ⟨deferredParentMessageId env requestId job.key, job.childSessionId, text, deliveryMode,
      deferredParentInputMetadata payload parent⟩
  | _, _ => none

/-- The message that the registry retains; inputs are not retained. -/
def retained : Option RetainedMessage :=
  match job.operation with
  | .parentInput _ _ _ => none
  | _ => (job.message env requestId parent).map fun message =>
    ⟨message.id, message.targetSessionId, message.text, message.deliveryMode,
      message.metadata.messageCategory⟩

def rewake : List ReplayWrite :=
  match job.operation, parent with
  | .parentWake period, some parent =>
    [.cancel job.childSessionId, .insert job.childSessionId parent period]
  | .taskComplete _, some _ => [.cancel job.childSessionId]
  | _, _ => []

def writes : List ReplayWrite :=
  ((job.message env requestId parent).map ReplayWrite.enqueue).toList ++ job.rewake parent

end Job

namespace ReplayWrite

variable (ids : RowIds)

def run : ReplayWrite → QueueDb → Except String QueueDb
  | .enqueue message, db =>
    enqueueMessageOnceWithMetadata db message.id message.targetSessionId message.text
      message.deliveryMode message.metadata
  | .cancel child, db => .ok (cancelParentWake db child)
  | .insert child parent period, db => .ok (insertParentWake db ids child parent period)

end ReplayWrite

theorem replayQueueWrites_eq (env : Env) (requestId : String) (ids : RowIds)
    (intent : DeferredRoutingIntent) (parent : Option String) :
    replayQueueWrites env requestId ids intent parent =
      (intent.job.writes env requestId parent).map (ReplayWrite.run ids) := by
  obtain ⟨_, operation, _, _, _, _⟩ := intent
  cases operation <;> cases parent <;> rfl

theorem Job.writes_length (env : Env) (requestId : String) (job : Job) (parent : Option String) :
    (job.writes env requestId parent).length ≤ 2 := by
  obtain ⟨_, operation, _⟩ := job
  cases operation <;> cases parent <;> simp [Job.writes, Job.rewake, Job.message]

theorem Job.message_of_mem {env : Env} {job : Job} {parent : Option String}
    {message : DeferredMessage}
    (hm : ReplayWrite.enqueue message ∈ job.writes env requestId parent) :
    job.message env requestId parent = some message := by
  obtain ⟨_, operation, _⟩ := job
  cases operation <;> cases parent <;> simp_all [Job.writes, Job.rewake, Job.message]

theorem Job.rewake_mem {env : Env} {job : Job} {parent : Option String}
    {write : ReplayWrite} (hm : write ∈ job.writes env requestId parent) :
    (∃ message, write = .enqueue message) ∨ job.rewakes ∧ ∃ target, parent = some target ∧
      (write = .cancel job.childSessionId ∨
        ∃ period, write = .insert job.childSessionId target period) := by
  obtain ⟨_, operation, _⟩ := job
  cases operation <;> cases parent <;>
    simp_all [Job.writes, Job.rewake, Job.message, Job.rewakes]
  all_goals grind

end

section

variable {env : Env}

/-- The id of the message that the job sends, if it sends one. -/
def Job.messageId (env : Env) (requestId : String) (job : Job) : Option String :=
  match job.operation with
  | .parentWake _ => none
  | .taskComplete _ => some (deferredTaskCompleteMessageId env requestId job.key)
  | .parentMessage _ _ _ | .parentInput _ _ _ =>
    some (deferredParentMessageId env requestId job.key)

theorem Job.messageId_of_message {job : Job} {parent : Option String} {message : DeferredMessage}
    (deferred : job.message env requestId parent = some message) :
    job.messageId env requestId = some message.id := by
  obtain ⟨_, operation, _⟩ := job
  cases operation <;> cases parent <;> simp [Job.message] at deferred <;>
    simp [← deferred, Job.messageId]

/-- The digests tell the messages of the intents apart. -/
def IdsApart (env : Env) (requestId : String) (intents : List DeferredRoutingIntent) : Prop :=
  ∀ one ∈ intents, ∀ two ∈ intents, ∀ id ∈ one.job.messageId env requestId,
    two.job.messageId env requestId = some id → one.job.key = two.job.key

theorem IdsApart.of_subset {env : Env} {intents fewer : List DeferredRoutingIntent}
    (apart : IdsApart env requestId intents) (within : fewer ⊆ intents) :
    IdsApart env requestId fewer :=
  fun _ hone _ htwo => apart _ (within hone) _ (within htwo)

end

section

variable {db : QueueDb}

def DeferredMessage.row (message : DeferredMessage) : MessageRow :=
  { id := message.id
    targetSessionId := message.targetSessionId
    senderSessionId := message.metadata.senderSessionId
    text := message.text
    deliveryMode := message.deliveryMode
    messageCategory := message.metadata.messageCategory
    parentSessionId := message.metadata.parentSessionId
    remindSoftThreshold := message.metadata.remindSoftThreshold
    timeoutAt := message.metadata.timeoutAt
    delivered := false }

/-- A stored message under the same identifier has the same content. -/
def MessageFits (db : QueueDb) (message : DeferredMessage) : Prop :=
  ∀ row, messageRow db message.id = some row →
    row.targetSessionId = message.targetSessionId ∧ row.text = message.text ∧
      row.deliveryMode = message.deliveryMode ∧
      row.messageCategory = message.metadata.messageCategory

def enqueued (db : QueueDb) (message : DeferredMessage) : QueueDb :=
  match messageRow db message.id with
  | some _ => db
  | none => { db with messages := db.messages ++ [message.row] }

variable (message : DeferredMessage) (id : String)

theorem messageRow_enqueued : messageRow (enqueued db message) id =
      (messageRow db id).or (if message.id = id then some message.row else none) := by
  unfold enqueued
  cases hf : messageRow db message.id with
  | none => exact messageRow_append message.row id
  | some =>
    by_cases hs : message.id = id
    · rw [← hs, hf, Option.some_or]
    · rw [if_neg hs, Option.or_none]

@[simp] theorem enqueued_wakes : (enqueued db message).wakes = db.wakes := by
  unfold enqueued
  split <;> rfl

theorem enqueueMessageOnceWithMetadata_ok {message : DeferredMessage}
    (fits : MessageFits db message) :
    enqueueMessageOnceWithMetadata db message.id message.targetSessionId message.text
      message.deliveryMode message.metadata = .ok (enqueued db message) := by
  unfold enqueueMessageOnceWithMetadata enqueueMessageWithId enqueued
  cases hf : messageRow db message.id with
  | none => rfl
  | some row =>
    have content := fits row hf
    have hst : db.messages.any (fun row => row.id = message.id &&
        row.targetSessionId = message.targetSessionId && row.text = message.text &&
        row.deliveryMode = message.deliveryMode &&
        row.messageCategory = message.metadata.messageCategory) := by
      rw [any_eq_true]
      exact ⟨row, (messageRow_mem hf).1, by simp [(messageRow_mem hf).2, content]⟩
    simp [hst]

namespace ReplayWrite

def Fits (db : QueueDb) : ReplayWrite → Prop
  | .enqueue message => MessageFits db message
  | .cancel _ | .insert _ _ _ => True

def apply (ids : RowIds) : ReplayWrite → QueueDb → QueueDb
  | .enqueue message, db => enqueued db message
  | .cancel child, db => cancelParentWake db child
  | .insert child parent period, db => insertParentWake db ids child parent period

variable {ids : RowIds} {write : ReplayWrite}

theorem run_ok (fits : write.Fits db) : write.run ids db = .ok (write.apply ids db) := by
  cases write with
  | enqueue => exact enqueueMessageOnceWithMetadata_ok fits
  | cancel | insert => rfl

theorem messageRow_apply : messageRow (write.apply ids db) id = (messageRow db id).or
      (match write with
        | .enqueue message => if message.id = id then some message.row else none
        | .cancel _ | .insert _ _ _ => none) := by
  cases write with
  | enqueue message => exact messageRow_enqueued _ id
  | cancel | insert => exact Option.or_none.symm

theorem messageRow_apply_of_some {id : String} {row : MessageRow}
    (hf : messageRow db id = some row) : messageRow (write.apply ids db) id = some row := by
  rw [messageRow_apply, hf, Option.some_or]

theorem apply_keyed (keyed : db.Keyed) : (write.apply ids db).Keyed := by
  cases write with
  | enqueue message =>
    have hs : (enqueued db message).wakes = db.wakes := enqueued_wakes _
    exact ⟨hs ▸ keyed.ids, hs ▸ keyed.children⟩
  | cancel child => exact keyed.cancelParentWake _
  | insert child => exact keyed.insertParentWake ids _ _ _

theorem messageFits_apply {message : DeferredMessage} (fits : MessageFits db message)
    (hk : ∀ other, write = .enqueue other → other.id = message.id → other = message) :
    MessageFits (write.apply ids db) message := by
  intro _ hf
  rw [messageRow_apply] at hf
  cases before : messageRow db message.id with
  | some =>
    rw [before] at hf
    cases hf
    exact fits _ before
  | none =>
    rw [before] at hf
    cases write with
    | cancel | insert => cases hf
    | enqueue other =>
      dsimp only at hf
      split at hf
      · rename_i hs
        cases hf
        rw [hk _ rfl hs]
        exact ⟨rfl, rfl, rfl, rfl⟩
      · cases hf

end ReplayWrite

end

section

variable {env : Env} {registry : Registry} {requestId : String} {message : RetainedMessage}

def Job.retainedWakes (job : Job) (parent : Option String) (wakes : List RetainedWake) :
    List RetainedWake :=
  match job.operation, parent with
  | .parentWake period, some parent =>
    let entry : RetainedWake :=
      ⟨retainedWakeId job.childSessionId, job.childSessionId, some parent, period, true⟩
    if wakes.any fun entry => entry.childSessionId = job.childSessionId then
      modifyFirst (fun entry => entry.childSessionId = job.childSessionId) (fun _ => entry) wakes
    else wakes ++ [entry]
  | .taskComplete _, some _ => wakes.map fun entry =>
    if entry.childSessionId = job.childSessionId then { entry with isActive := false } else entry
  | _, _ => wakes

def retainOnce (message : Option RetainedMessage) (messages : List RetainedMessage) :
    List RetainedMessage :=
  match message with
  | none => messages
  | some message =>
    match messages.find? fun existing => existing.id = message.id with
    | some _ => messages
    | none => messages ++ [message]

def RetainedFits (messages : List RetainedMessage) (message : RetainedMessage) : Prop :=
  ∀ existing, messages.find? (fun other => other.id = message.id) = some existing →
    existing = message

theorem pushRetainedMessageOnceRaw_ok
    (fits : RetainedFits registry.retainedPendingMessages message) :
    pushRetainedMessageOnceRaw registry message = .ok { registry with
      retainedPendingMessages := retainOnce (some message) registry.retainedPendingMessages } := by
  unfold pushRetainedMessageOnceRaw retainOnce
  dsimp only
  cases hf : registry.retainedPendingMessages.find? fun other => other.id = message.id with
  | none => rfl
  | some existing => exact if_pos (fits existing hf)

theorem replayRegistry_ok {intent : DeferredRoutingIntent} {parent : Option String}
    (fits : ∀ message, intent.job.retained env requestId parent = some message →
      RetainedFits registry.retainedPendingMessages message) :
    replayRegistry env registry requestId intent parent = .ok { registry with
      retainedParentWakes := intent.job.retainedWakes parent registry.retainedParentWakes
      retainedPendingMessages := retainOnce (intent.job.retained env requestId parent)
        registry.retainedPendingMessages } := by
  obtain ⟨_, operation, _, _, _, _⟩ := intent
  cases operation with
  | parentWake | parentInput => cases parent <;> rfl
  | taskComplete =>
    cases parent with
    | none => rfl
    | some =>
      have pushed := pushRetainedMessageOnceRaw_ok (fits _ rfl)
      exact Fallible.bind_eq_ok.mpr ⟨_, pushed, rfl⟩
  | parentMessage =>
    cases parent with
    | none => rfl
    | some => exact pushRetainedMessageOnceRaw_ok (fits _ rfl)

theorem find?_retainOnce {pushed : Option RetainedMessage}
    {messages : List RetainedMessage} (fits : RetainedFits messages message)
    (hk : ∀ other, pushed = some other → other.id = message.id → other = message) :
    RetainedFits (retainOnce pushed messages) message := by
  intro existing hf
  cases pushed with
  | none => exact fits existing hf
  | some =>
    simp only [retainOnce] at hf
    split at hf
    · exact fits existing hf
    rw [find?_append] at hf
    cases before : messages.find? fun existing => existing.id = message.id with
    | some =>
      rw [before] at hf
      cases hf
      exact fits _ before
    | none =>
      rw [before, find?_singleton] at hf
      split at hf
      · rename_i hs
        cases hf
        exact hk _ rfl (by simpa using hs)
      · cases hf

end

section

variable {env : Env} {requestId : String} {stores : Stores} {job own : Job}

/-- The replay of a job will not run into a message with its identifier and another content. -/
structure JobReady (env : Env) (requestId : String) (stores : Stores) (job : Job) : Prop where
  message : ∀ message,
    job.message env requestId (parentOf stores.registry job.childSessionId) = some message →
      MessageFits stores.queue message
  retained : ∀ message,
    job.retained env requestId (parentOf stores.registry job.childSessionId) = some message →
      RetainedFits stores.registry.retainedPendingMessages message

theorem Job.retained_message {parent : Option String} {kept : RetainedMessage}
    (retained : job.retained env requestId parent = some kept) :
    ∃ message, job.message env requestId parent = some message ∧ kept.id = message.id := by
  obtain ⟨_, operation, _⟩ := job
  cases operation <;> cases parent <;> simp [Job.retained, Job.message] at retained ⊢ <;>
    simp [← retained]

theorem JobReady.fits (hrd : JobReady env requestId stores job) {write : ReplayWrite}
    (hm : write ∈ job.writes env requestId (parentOf stores.registry job.childSessionId))
    : write.Fits stores.queue := by
  cases write with
  | enqueue => exact hrd.message _ (Job.message_of_mem hm)
  | cancel | insert => trivial

theorem JobReady.of_unrouted {queue : QueueDb} (hrd : JobReady env requestId stores job)
    (hs : ∀ id, (messageRow queue id).map unrouted = (messageRow stores.queue id).map unrouted) :
    JobReady env requestId (stores.withQueue queue) job where
  message message deferred := by
    intro row hf
    have hh := hs message.id
    rw [show messageRow queue message.id = some row from hf] at hh
    obtain ⟨old, ht, heq⟩ := Option.map_eq_some_iff.mp hh.symm
    have fits := hrd.message _ deferred old ht
    simp only [unrouted, MessageRow.mk.injEq] at heq
    obtain ⟨_, target, _, text, mode, category, _⟩ := heq
    exact ⟨target ▸ fits.1, text ▸ fits.2.1, mode ▸ fits.2.2.1, category ▸ fits.2.2.2⟩
  retained := hrd.retained

/-- The registry once it retains what a job leaves behind. -/
def Job.retainedIn (env : Env) (requestId : String) (job : Job) (registry : Registry) : Registry :=
  let parent := parentOf registry job.childSessionId
  { registry with
    retainedParentWakes := job.retainedWakes parent registry.retainedParentWakes
    retainedPendingMessages := retainOnce (job.retained env requestId parent)
      registry.retainedPendingMessages }

section

variable (hrd : JobReady env requestId stores job)
  (apart : ∀ id ∈ own.messageId env requestId, job.messageId env requestId = some id → own = job)
include hrd apart

theorem JobReady.write
    {write : ReplayWrite} {ids : RowIds}
    (hm : write ∈ own.writes env requestId (parentOf stores.registry own.childSessionId)) :
    JobReady env requestId (stores.withQueue (write.apply ids stores.queue)) job where
  message message deferred := by
    refine ReplayWrite.messageFits_apply (hrd.message _ deferred) ?_
    intro _ hw heq
    have sent := Job.message_of_mem (hw ▸ hm)
    have hh := apart _ (Job.messageId_of_message sent) (heq ▸ Job.messageId_of_message deferred)
    rw [hh] at sent
    exact Option.some.inj (sent.symm.trans deferred)
  retained := hrd.retained

theorem JobReady.record
    {registry : Registry} (hierarchy : parentOf registry = parentOf stores.registry)
    (kept : registry.retainedPendingMessages =
      (own.retainedIn env requestId stores.registry).retainedPendingMessages) :
    JobReady env requestId (stores.withRegistry registry) job where
  message message deferred := by
    refine hrd.message _ ?_
    rw [← hierarchy]
    exact deferred
  retained message deferred := by
    have old : job.retained env requestId (parentOf stores.registry job.childSessionId) =
        some message := by
      rw [← hierarchy]
      exact deferred
    change RetainedFits registry.retainedPendingMessages message
    rw [kept]
    refine find?_retainOnce (hrd.retained _ old) ?_
    intro _ pushed heq
    obtain ⟨one, first, firstId⟩ := Job.retained_message pushed
    obtain ⟨two, second, secondId⟩ := Job.retained_message old
    have ids : one.id = two.id := by rw [← firstId, ← secondId, heq]
    have hh := apart _ (Job.messageId_of_message first) (ids ▸ Job.messageId_of_message second)
    rw [hh] at pushed
    exact Option.some.inj (pushed.symm.trans old)

end

end

section

variable {env : Env} {registry : Registry} {requestId : String} {record : RequestRecord}
  {run : Replay}

def Replay.wants (run : Replay) (intent : DeferredRoutingIntent) : Bool :=
  intent.replayedAt.isNone || run.reapplyCompleted && !run.reapplied.contains intent.key

def Replay.todo (run : Replay) (record : RequestRecord) : List DeferredRoutingIntent :=
  record.deferredRoutingIntents.filter run.wants

def Replay.past (run : Replay) (intent : DeferredRoutingIntent) : Replay :=
  { run with reapplied := run.reapplied ++ [intent.key] }

def RequestRecord.withReplayed (env : Env) (record : RequestRecord) (intent : DeferredRoutingIntent)
    (parent : Option String) : RequestRecord :=
  { record with
    deferredRoutingIntents := modifyFirst (fun current => current.key = intent.key)
      (markReplayed env parent) record.deferredRoutingIntents }

def RequestRecord.Keyed (record : RequestRecord) : Prop :=
  (record.deferredRoutingIntents.map DeferredRoutingIntent.key).Nodup

theorem nextDeferredIntent_eq (hl : leasedReparentRequest registry requestId = .ok record) :
    nextDeferredIntent registry requestId run.reapplyCompleted run.reapplied =
      .ok (run.todo record).head? := by
  refine Fallible.bind_eq_ok.mpr ⟨_, hl, ?_⟩
  rw [Replay.todo, head?_filter]
  rfl

section

variable (parent : Option String) (intent : DeferredRoutingIntent)
include parent intent

@[simp] theorem markReplayed_key : (markReplayed env parent intent).key = intent.key := by
  unfold markReplayed
  split <;> rfl

@[simp] theorem markReplayed_replayed :
    (markReplayed env parent intent).replayedAt.isNone = false := by
  unfold markReplayed
  split
  · rfl
  · rename_i hry
    exact Bool.eq_false_iff.mpr hry

end

theorem RequestRecord.Keyed.withReplayed (keyed : record.Keyed) (intent : DeferredRoutingIntent)
    (parent : Option String) : (record.withReplayed env intent parent).Keyed := by
  unfold RequestRecord.Keyed RequestRecord.withReplayed
  rw [map_modifyFirst (fun _ => markReplayed_key _ _)]
  exact keyed

theorem todo_withReplayed (env : Env) (keyed : record.Keyed) {intent : DeferredRoutingIntent}
    {rest : List DeferredRoutingIntent} (next : run.todo record = intent :: rest)
    (parent : Option String) :
    (run.past intent).todo (record.withReplayed env intent parent) = rest := by
  have wanted : ∀ current : DeferredRoutingIntent, (run.past intent).wants
        (if current.key = intent.key then markReplayed env parent current else current) =
        (run.wants current && decide (current.key ≠ intent.key)) := by
    intro current
    by_cases hs : current.key = intent.key
    · simp [Replay.wants, Replay.past, hs]
    · simp [Replay.wants, Replay.past, hs]
  have hn : ((intent :: rest).map DeferredRoutingIntent.key).Nodup := by
    rw [← next]
    exact keyed.sublist (filter_sublist.map _)
  rw [map_cons, nodup_cons] at hn
  have others : ∀ current ∈ rest, current.key ≠ intent.key := by
    intro current hm hs
    exact hn.1 (hs ▸ mem_map_of_mem hm)
  unfold Replay.todo at next ⊢
  rw [RequestRecord.withReplayed, modifyFirst_eq_map intent.key keyed, filter_map]
  simp only [Function.comp_def, wanted]
  rw [← filter_filter, filter_comm, next]
  rw [filter_cons_of_neg (by simp),
    filter_eq_self.mpr fun _ hm => by simpa using others _ hm]
  refine (map_congr_left ?_).trans (map_id' _)
  intro current hm
  rw [if_neg (others _ hm)]

end

end SessionManager.Reparent
