import Mathlib.Data.List.Sort
import SessionManager.Foundation.Timestamps
import SessionManager.Messages.Delivery

/-! The order in which the messages of a target are read. The database sorts them by the text of the
time at which they were queued, and that text does not always sort as the time does. -/
namespace SessionManager.Messages
open Foundation Operation List

/-- An instant that cannot be formatted is written as the epoch. -/
def nowRfc3339 (instant : Instant) : String :=
  instant.formatRfc3339.getD "1970-01-01T00:00:00Z"

/-- Text with a character other than a blank, as the database trims it. -/
def isNonBlank (text : String) : Bool := text.toList.any fun character => character ≠ ' '

namespace Message

def hasDeliverySideEffects (message : Message) : Bool :=
  message.notifyOnDelivery || message.notifyAfterSeconds.isSome || message.notifyOnStop ||
    message.remindSoftThreshold.isSome || message.remindHardThreshold.isSome ||
    message.remindCancelOnReplySessionId.any isNonBlank || message.parentSessionId.any isNonBlank

def toPending (message : Message) : PendingMessage where
  id := message.id
  targetSessionId := message.targetSessionId
  text := message.text
  deliveryMode := message.deliveryMode
  hasDeliverySideEffects := message.hasDeliverySideEffects
  senderSessionId := message.senderSessionId
  senderName := message.senderName
  fromSmSend := message.fromSmSend
  notifyOnDelivery := message.notifyOnDelivery
  notifyAfterSeconds := message.notifyAfterSeconds.map Int.toNat
  notifyOnStop := message.notifyOnStop
  remindSoftThreshold := message.remindSoftThreshold.map Int.toNat
  remindHardThreshold := message.remindHardThreshold.map Int.toNat
  remindCancelOnReplySessionId := message.remindCancelOnReplySessionId
  parentSessionId := message.parentSessionId
  messageCategory := message.messageCategory
  responseRelaySource := message.responseRelaySource

/-- `ORDER BY queued_at ASC, id ASC`. -/
def NotAfter (one other : Message) : Prop :=
  one.queuedAt < other.queuedAt ∨ one.queuedAt = other.queuedAt ∧ one.id ≤ other.id

instance : DecidableRel NotAfter := fun one other =>
  inferInstanceAs (Decidable (one.queuedAt < other.queuedAt ∨
    one.queuedAt = other.queuedAt ∧ one.id ≤ other.id))

end Message

def timeoutIsExpired (nowUtc : Int) (nowLocal : Option Int) : Stamp → Bool
  | .utc deadline => deadline ≤ nowUtc
  | .naive deadline => nowLocal.any fun nowLocal => decide (deadline ≤ nowLocal)
  | .unreadable _ => false

namespace Database

variable (targetSessionId : String)

def undelivered (db : Database) : List Message :=
  db.messages.filter fun message =>
    decide (message.targetSessionId = targetSessionId) && message.deliveredAt.isNone

/-- Undelivered messages are deleted once their deadline has passed. -/
def expirePendingMessagesForTarget (nowUtc : Int) (nowLocal : Option Int) (db : Database) :
    Database :=
  let expired := ((db.undelivered targetSessionId).filter fun message =>
    message.timeoutAt.any (timeoutIsExpired nowUtc nowLocal)).map Message.id
  { db with
    messages := db.messages.filter fun message =>
      !(decide (message.id ∈ expired) && message.deliveredAt.isNone) }

def selectPending (limit : Nat) (db : Database) : List PendingMessage :=
  (((db.undelivered targetSessionId).insertionSort Message.NotAfter).take (max limit 1)).map
    Message.toPending

def pendingMessagesForTarget (nowUtc : Int) (nowLocal : Option Int) (limit : Nat) (db : Database) :
    Database × List PendingMessage :=
  let live := db.expirePendingMessagesForTarget targetSessionId nowUtc nowLocal
  (live, live.selectPending targetSessionId limit)

end Database

structure Arrival where
  id : String
  targetSessionId : String
  instant : Instant
  deriving DecidableEq

inductive MailEvent
  | enqueue (arrival : Arrival) (nanos : Int) (text deliveryMode : String)
      (metadata : QueueMessageMetadata)
  | deliver (deliveredAt messageId : String)
  | read (targetSessionId : String) (nowUtc : Int) (nowLocal : Option Int) (limit : Nat)

def enqueueAt (arrival : Arrival) (nanos : Int) (text deliveryMode : String)
    (metadata : QueueMessageMetadata) : Operation Database Bool :=
  withConnection (enqueueMessageWithIdAndMetadataConn
    ⟨arrival.id, nowRfc3339 arrival.instant, nanos⟩ arrival.id arrival.targetSessionId text
    deliveryMode metadata)

def stepMail (db : Database) : List Fate × MailEvent → Database × Option Arrival
  | (fates, .enqueue arrival nanos text deliveryMode metadata) =>
    let (after, inserted) := (enqueueAt arrival nanos text deliveryMode metadata).perform db fates
    (after, if inserted = some true then some arrival else none)
  | (fates, .deliver deliveredAt messageId) =>
    (((markDelivered deliveredAt messageId).perform db fates).1, none)
  | (_, .read targetSessionId nowUtc nowLocal limit) =>
    ((db.pendingMessagesForTarget targetSessionId nowUtc nowLocal limit).1, none)

/-- The messages of a target that a run has put into the queue, in this order. -/
def arrivals (targetSessionId : String) (db : Database) (events : List (List Fate × MailEvent)) :
    List Arrival :=
  (answers stepMail db events).filterMap fun arrival =>
    arrival.filter fun arrival => arrival.targetSessionId = targetSessionId

variable {known : List Arrival}

section

def Message.key (message : Message) : String × String := (message.queuedAt, message.id)

def Arrival.key (arrival : Arrival) : String × String := (nowRfc3339 arrival.instant, arrival.id)

def Database.keys (targetSessionId : String) (db : Database) : List (String × String) :=
  (db.messages.filter fun message => decide (message.targetSessionId = targetSessionId)).map
    Message.key

variable {targetSessionId : String} {db : Database}

theorem keys_markDelivered (messageId deliveredAt : String) :
    (db.markDelivered messageId deliveredAt).keys targetSessionId = db.keys targetSessionId := by
  unfold Database.keys Database.markDelivered
  rw [filter_map, map_map]
  have kept : ∀ message : Message, (if decide (message.id = messageId) && message.deliveredAt.isNone
      then { message with deliveredAt := some deliveredAt } else message).targetSessionId =
        message.targetSessionId ∧
      (if decide (message.id = messageId) && message.deliveredAt.isNone
        then { message with deliveredAt := some deliveredAt } else message).key = message.key := by
    intro message
    split
    · exact ⟨rfl, rfl⟩
    · exact ⟨rfl, rfl⟩
  congr 1
  · funext message
    exact (kept _).2
  · refine filter_congr ?_
    intro message _
    change decide (_ = _) = decide (_ = _)
    rw [(kept _).1]

theorem keys_expire (other : String) (nowUtc : Int) (nowLocal : Option Int) :
    ((db.expirePendingMessagesForTarget other nowUtc nowLocal).keys targetSessionId).Sublist
      (db.keys targetSessionId) :=
  (filter_sublist.filter _).map _

theorem keys_stepMail (event : List Fate × MailEvent) :
    ((stepMail db event).1.keys targetSessionId).Sublist
      (db.keys targetSessionId ++ ((stepMail db event).2.filter fun arrival =>
        arrival.targetSessionId = targetSessionId).toList.map Arrival.key) := by
  obtain ⟨fates, event⟩ := event
  cases event with
  | enqueue arrival nanos text deliveryMode metadata =>
    have ran : Ends db (enqueueAt arrival nanos text deliveryMode metadata)
        (fun inserted after => ∃ message, messageRow ⟨arrival.id, nowRfc3339 arrival.instant, nanos⟩
          arrival.id arrival.targetSessionId text deliveryMode metadata = .ok message ∧
            inserted = !db.holdsMessage arrival.id ∧ after = db.initSchema.insertMessage message)
        fun after => after.messages = db.messages := by
      refine ends_withConnection rfl ?_
      refine ends_mono ends_enqueueMessageWithIdAndMetadataConn (fun _ _ facts => facts) ?_
      rintro _ rfl
      rfl
    rw [stepMail]
    dsimp only
    rcases perform_of_ends ran fates with
      ⟨_, answered, message, made, rfl, after⟩ | ⟨answered, after⟩
    · rw [answered, after]
      obtain ⟨id, target, _, _, queuedAt, _, _⟩ := messageRow_ok made
      rcases known : db.holdsMessage arrival.id with _ | _
      · rw [Database.insertMessage_of_fresh (by rw [id]; exact known), Database.keys,
          filter_append, map_append]
        refine List.Sublist.append (List.Sublist.refl _) ?_
        by_cases own : arrival.targetSessionId = targetSessionId
        · simp [own, target, Option.filter, Message.key, Arrival.key, id, queuedAt]
        · simp [own, target]
      · rw [Database.insertMessage, if_pos (by rw [id]; exact known)]
        exact sublist_append_left _ _
    · rw [Database.keys, after]
      exact sublist_append_left _ _
  | deliver deliveredAt messageId =>
    have ran : Ends db (markDelivered deliveredAt messageId)
        (fun _ after => after = db.initSchema.markDelivered messageId deliveredAt)
        fun after => after.messages = db.messages := by
      refine ends_withConnection rfl ?_
      refine ends_bind (ends_mono (ends_markDeliveredConn _ _)
        (fun _ _ facts => facts) (by rintro _ rfl; rfl)) ?_
      rintro _ _ ⟨_, rfl⟩
      exact ends_pure rfl
    rw [stepMail]
    refine List.Sublist.trans ?_ (sublist_append_left _ _)
    rcases perform_of_ends ran fates with ⟨_, _, after⟩ | ⟨_, after⟩
    · rw [after, keys_markDelivered]
      exact List.Sublist.refl _
    · rw [Database.keys, after]
      exact List.Sublist.refl _
  | read =>
    exact (keys_expire _ _ _).trans (sublist_append_left _ _)

theorem keys_reached (events : List (List Fate × MailEvent))
    (begins : (db.keys targetSessionId).Sublist (known.map Arrival.key)) :
    ((reached stepMail db events).keys targetSessionId).Sublist
      ((known ++ arrivals targetSessionId db events).map Arrival.key) := by
  induction events generalizing db known with
  | nil =>
    rw [show arrivals _ db [] = [] from rfl, append_nil]
    exact begins
  | cons event later ih =>
    have next : ((stepMail db event).1.keys targetSessionId).Sublist
        ((known ++ ((stepMail db event).2.filter fun arrival =>
          arrival.targetSessionId = targetSessionId).toList).map Arrival.key) := by
      rw [map_append]
      exact (keys_stepMail _).trans (begins.append (List.Sublist.refl _))
    have rest := ih next
    rw [append_assoc] at rest
    have split : arrivals targetSessionId db (event :: later) =
        ((stepMail db event).2.filter fun arrival =>
          arrival.targetSessionId = targetSessionId).toList ++
        arrivals targetSessionId (stepMail db event).1 later := by
      unfold arrivals
      rw [answers, filterMap_cons]
      cases (stepMail db event).2.filter fun arrival =>
        decide (arrival.targetSessionId = targetSessionId) <;> rfl
    rw [split]
    exact rest

end

section

/-- The instant whose text is written for an instant. -/
def printed (instant : Instant) : Instant := if 0 ≤ instant.year then instant else epoch

theorem printed_year (instant : Instant) : 0 ≤ (printed instant).year := by
  unfold printed
  split
  · assumption
  · decide

theorem nowRfc3339_eq (instant : Instant) :
    nowRfc3339 instant = String.ofList (printed instant).text := by
  unfold nowRfc3339 Instant.formatRfc3339 printed
  split
  · rfl
  · decide +kernel

theorem nowRfc3339_lt (one other : Instant) :
    nowRfc3339 one < nowRfc3339 other ↔ (printed one).text < (printed other).text := by
  rw [nowRfc3339_eq, nowRfc3339_eq, String.lt_iff, String.toList_ofList, String.toList_ofList]

/-- Of two instants in order, what is printed for the second one is not an earlier instant within the
same second. -/
theorem calendar_lt_of_printed {one other : Instant} (order : one.Before other)
    (reversed : (printed other).Before (printed one)) :
    (printed other).calendar < (printed one).calendar := by
  have years := order.year_le
  by_cases hpo : 0 ≤ one.year
  · rw [printed, printed, if_pos hpo, if_pos (by omega)] at reversed
    exact absurd reversed order.asymm
  · rcases reversed with less | ⟨_, less⟩
    · exact less
    · rw [show printed one = epoch from if_neg hpo] at less
      exact absurd less (Nat.not_lt_zero _)

/-- What is printed for the two arrivals sorts the first one first. -/
def Arrival.InOrder (one other : Arrival) : Prop :=
  (printed one.instant).Before (printed other.instant) ∧
      ¬ (printed one.instant).Clash (printed other.instant) ∨
    printed one.instant = printed other.instant ∧ one.id < other.id

instance : DecidableRel Arrival.InOrder := fun one other =>
  inferInstanceAs (Decidable ((printed one.instant).Before (printed other.instant) ∧
      ¬ (printed one.instant).Clash (printed other.instant) ∨
    printed one.instant = printed other.instant ∧ one.id < other.id))

def KeyNotAfter (one other : String × String) : Prop :=
  one.1 < other.1 ∨ one.1 = other.1 ∧ one.2 ≤ other.2

theorem keyNotAfter_iff {one other : Arrival} (order : one.instant.Before other.instant)
    (differ : one.id ≠ other.id) : KeyNotAfter one.key other.key ↔ one.InOrder other := by
  unfold KeyNotAfter Arrival.key Arrival.InOrder
  rw [nowRfc3339_lt]
  have hpo := printed_year one.instant
  have after := printed_year other.instant
  rcases Instant.before_trichotomy (printed one.instant) (printed other.instant) with
    forth | hs | back
  · have hap : printed one.instant ≠ printed other.instant := by
      intro heq
      rw [heq] at forth
      exact forth.asymm forth
    by_cases clash : (printed one.instant).Clash (printed other.instant)
    · have more := Instant.text_gt_of_clash hpo after forth clash
      have texts : nowRfc3339 one.instant ≠ nowRfc3339 other.instant := by
        intro heq
        have less := (nowRfc3339_lt other.instant one.instant).mpr more
        rw [heq] at less
        exact lt_irrefl _ less
      simp [lt_asymm more, texts, clash, hap]
    · simp [Instant.text_lt_of_not_clash hpo after forth clash, forth, clash]
  · have texts : nowRfc3339 one.instant = nowRfc3339 other.instant := by
      rw [nowRfc3339_eq, nowRfc3339_eq, hs]
    have still : ¬ (printed other.instant).Before (printed other.instant) :=
      fun self => self.asymm self
    simp [hs, texts, still, le_iff_lt_or_eq, differ]
  · have less := calendar_lt_of_printed order back
    have texts := (Instant.text_lt after hpo).mpr (.inl less)
    have hap : nowRfc3339 one.instant ≠ nowRfc3339 other.instant := by
      intro heq
      have strict := (nowRfc3339_lt other.instant one.instant).mpr texts
      rw [heq] at strict
      exact lt_irrefl _ strict
    have hn : printed one.instant ≠ printed other.instant := by
      intro heq
      rw [heq] at back
      exact back.asymm back
    simp [lt_asymm texts, hap, hn, back.asymm]

end

section

instance : Std.Total Message.NotAfter where
  total one other := by
    unfold Message.NotAfter
    rcases lt_trichotomy one.queuedAt other.queuedAt with less | same | more
    · exact .inl (.inl less)
    · rcases le_total one.id other.id with before | after
      · exact .inl (.inr ⟨same, before⟩)
      · exact .inr (.inr ⟨same.symm, after⟩)
    · exact .inr (.inl more)

instance : IsTrans Message Message.NotAfter where
  trans one two three := by
    rintro (less | ⟨same, before⟩) (more | ⟨equal, after⟩)
    · exact .inl (lt_trans less more)
    · exact .inl (equal ▸ less)
    · exact .inl (same ▸ more)
    · exact .inr ⟨same.trans equal, le_trans before after⟩

theorem eq_of_map_eq {α β : Type} {name : α → β} {first second : List α}
    (hap : ∀ one ∈ first, ∀ other ∈ second, name one = name other → one = other)
    (hs : first.map name = second.map name) : first = second := by
  induction first generalizing second with
  | nil => exact (map_eq_nil_iff.mp hs.symm).symm
  | cons one _ ih =>
    cases second with
    | nil => cases hs
    | cons other =>
      obtain ⟨heads, tails⟩ := List.cons.inj hs
      rw [hap one mem_cons_self _ mem_cons_self heads,
        ih (fun left hm right hi => hap left (mem_cons_of_mem _ hm) right
          (mem_cons_of_mem _ hi)) tails]

variable {messages : List Message}

/-- Messages with different ids are read in their own order if and only if they are sorted. -/
theorem take_sorted_iff (ids : (messages.map Message.id).Nodup) :
    (∀ limit, ((messages.insertionSort Message.NotAfter).take (max limit 1)).map Message.id =
      (messages.map Message.id).take (max limit 1)) ↔ messages.Pairwise Message.NotAfter := by
  constructor
  · intro read
    have whole := read messages.length
    rw [← map_take, take_of_length_le (by rw [length_insertionSort]; omega),
      take_of_length_le (by omega)] at whole
    have hs : messages.insertionSort Message.NotAfter = messages := by
      refine eq_of_map_eq ?_ whole
      intro _ sorted _ hm hna
      exact inj_on_of_nodup_map ids ((mem_insertionSort _).mp sorted) hm hna
    rw [← hs]
    exact pairwise_insertionSort Message.NotAfter _
  · intro sorted limit
    rw [sorted.insertionSort_eq, map_take]

theorem filter_mem_of_sublist {α : Type} [DecidableEq α] {part whole : List α}
    (sublist : part.Sublist whole) (hn : whole.Nodup) :
    whole.filter (fun value => decide (value ∈ part)) = part := by
  induction sublist with
  | slnil => rfl
  | @cons _ _ _ sublist ih =>
    obtain ⟨hfr, rest⟩ := nodup_cons.mp hn
    rw [filter_cons_of_neg (by simpa using fun hm => hfr (sublist.subset hm))]
    exact ih rest
  | @cons_cons _ _ value _ ih =>
    obtain ⟨hfr, rest⟩ := nodup_cons.mp hn
    rw [filter_cons_of_pos (by simp), cons_inj_right]
    refine (filter_congr ?_).trans (ih rest)
    intro other hm
    have hne : other ≠ value := fun hs => hfr (hs ▸ hm)
    simp [hne]

/-- The arrivals that a list of messages has kept, by their ids. -/
def kept (known : List Arrival) (messages : List Message) : List Arrival :=
  known.filter fun arrival => decide (arrival.id ∈ messages.map Message.id)

theorem kept_keys (sublist : (messages.map Message.key).Sublist (known.map Arrival.key))
    (ids : (known.map Arrival.id).Nodup) :
    (kept known messages).map Arrival.key = messages.map Message.key := by
  have hn : (known.map Arrival.key).Nodup :=
    List.Nodup.of_map Prod.snd (by rw [map_map]; exact ids)
  rw [← filter_mem_of_sublist sublist hn, filter_map]
  refine congrArg _ (filter_congr ?_)
  intro arrival hm
  refine decide_eq_decide.mpr ⟨?_, ?_⟩
  · intro ht
    obtain ⟨message, hi, hs⟩ := mem_map.mp ht
    have hli := sublist.subset (mem_map.mpr ⟨_, hi, rfl⟩)
    obtain ⟨other, known, heq⟩ := mem_map.mp hli
    have hna : other.id = arrival.id := (congrArg Prod.snd heq).trans hs
    rw [← inj_on_of_nodup_map ids known hm hna]
    exact mem_map.mpr ⟨_, hi, heq.symm⟩
  · intro ht
    obtain ⟨message, hi, hs⟩ := mem_map.mp ht
    exact mem_map.mpr ⟨_, hi, congrArg Prod.snd hs⟩

theorem pairwise_iff_inOrder (keys : known.map Arrival.key = messages.map Message.key)
    (order : known.Pairwise fun one other => one.instant.Before other.instant)
    (ids : (known.map Arrival.id).Nodup) :
    messages.Pairwise Message.NotAfter ↔ known.Pairwise Arrival.InOrder := by
  have byKey : messages.Pairwise Message.NotAfter ↔
      (messages.map Message.key).Pairwise KeyNotAfter := by
    rw [pairwise_map]
    exact Iff.rfl
  have hap := pairwise_map.mp ids
  rw [byKey, ← keys, pairwise_map]
  constructor
  · intro sorted
    refine ((order.and hap).and sorted).imp ?_
    rintro one other ⟨⟨before, differ⟩, notAfter⟩
    exact (keyNotAfter_iff before differ).mp notAfter
  · intro inOrder
    refine ((order.and hap).and inOrder).imp ?_
    rintro one other ⟨⟨before, differ⟩, printedBefore⟩
    exact (keyNotAfter_iff before differ).mpr printedBefore

end

section

variable {targetSessionId : String} {db : Database}

/-- The arrivals at a target that still wait for their delivery after a run and a look at the
clock. -/
def waiting (targetSessionId : String) (db : Database) (events : List (List Fate × MailEvent))
    (nowUtc : Int) (nowLocal : Option Int) : List Arrival :=
  kept (arrivals targetSessionId db events)
    (((reached stepMail db events).expirePendingMessagesForTarget targetSessionId nowUtc
      nowLocal).undelivered targetSessionId)

/-- After every run that puts messages for a target into the queue at increasing instants, those that
wait are read in this order, whatever the limit, if and only if what is printed of their instants is
in order. -/
theorem read_in_order_iff (unused : ∀ message ∈ db.messages,
      message.targetSessionId ≠ targetSessionId) (events : List (List Fate × MailEvent))
    (order : (arrivals targetSessionId db events).Pairwise fun one other =>
      one.instant.Before other.instant)
    (ids : ((arrivals targetSessionId db events).map Arrival.id).Nodup)
    (nowUtc : Int) (nowLocal : Option Int) :
    (∀ limit, ((reached stepMail db events).pendingMessagesForTarget targetSessionId nowUtc nowLocal
        limit).2.map PendingMessage.id =
      ((waiting targetSessionId db events nowUtc nowLocal).map Arrival.id).take (max limit 1)) ↔
      (waiting targetSessionId db events nowUtc nowLocal).Pairwise Arrival.InOrder := by
  have begins : (db.keys targetSessionId).Sublist (([] : List Arrival).map Arrival.key) := by
    rw [Database.keys, filter_eq_nil_iff.mpr (by simpa using unused)]
    exact List.Sublist.refl _
  have listed := keys_reached events begins
  rw [nil_append] at listed
  unfold waiting Database.pendingMessagesForTarget Database.selectPending
  dsimp only
  generalize (reached stepMail db events) = final at listed ⊢
  have live := (keys_expire targetSessionId nowUtc nowLocal).trans listed
  generalize final.expirePendingMessagesForTarget targetSessionId nowUtc nowLocal = left at live ⊢
  have sublist : ((left.undelivered targetSessionId).map Message.key).Sublist
      ((arrivals targetSessionId db events).map Arrival.key) := by
    refine List.Sublist.trans (List.Sublist.map _ ?_) live
    unfold Database.undelivered
    rw [← filter_filter]
    exact filter_sublist.filter _
  generalize left.undelivered targetSessionId = messages at sublist ⊢
  have keys := kept_keys sublist ids
  have names : (kept (arrivals targetSessionId db events) messages).map Arrival.id =
      messages.map Message.id := by
    have seconds := congrArg (List.map Prod.snd) keys
    rwa [map_map, map_map] at seconds
  have part : (kept (arrivals targetSessionId db events) messages).Sublist
      (arrivals targetSessionId db events) := filter_sublist
  have distinct := ids.sublist (part.map Arrival.id)
  rw [names, ← pairwise_iff_inOrder keys (order.sublist part) distinct,
    ← take_sorted_iff (names ▸ distinct)]
  refine forall_congr' fun limit => ?_
  rw [map_map]
  exact Iff.rfl

end

section

def newYear (nanosecond : Nat) (small : nanosecond < 10 ^ 9) : Instant :=
  { epoch with year := 2026, nanosecond, year_range := year_range_2026, nanosecond_lt := small }

def silence : Database := ⟨[], [], [], [], []⟩

/-- Two messages for one target, the second one at the given nanosecond. -/
def twoNotes (nanosecond : Nat) (small : nanosecond < 10 ^ 9) : List (List Fate × MailEvent) :=
  [([], .enqueue ⟨"first", "seat", newYear 500000000 (by decide)⟩ 0 "one" "sequential" {}),
    ([], .enqueue ⟨"second", "seat", newYear nanosecond small⟩ 0 "two" "sequential" {})]

theorem read_in_order_iff_of_seat :
    ((reached stepMail silence (twoNotes 600000000 (by decide))).pendingMessagesForTarget "seat" 0
        none 2).2.map PendingMessage.id =
      ((waiting "seat" silence (twoNotes 600000000 (by decide)) 0 none).map Arrival.id).take
        (max 2 1) := by
  have unused : ∀ message ∈ silence.messages, message.targetSessionId ≠ "seat" := by
    intro message impossible
    cases impossible
  refine (read_in_order_iff unused (twoNotes 600000000 (by decide)) ?_ ?_ 0 none).mpr ?_ 2
  all_goals decide +kernel

/-- A message that is queued at half past the second is read after one that is queued a millisecond
later. -/
theorem later_message_read_first :
    (arrivals "seat" silence (twoNotes 501000000 (by decide))).Pairwise
        (fun one other => one.instant.Before other.instant) ∧
      (waiting "seat" silence (twoNotes 501000000 (by decide)) 0 none).map Arrival.id =
        ["first", "second"] ∧
      ((reached stepMail silence (twoNotes 501000000 (by decide))).pendingMessagesForTarget "seat" 0
        none 10).2.map PendingMessage.id = ["second", "first"] := by
  decide +kernel

end

end SessionManager.Messages
