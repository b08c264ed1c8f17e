import SessionManager.Reparent.PlannedRows

/-! The quiesce and the retarget of a snapshot as transactions. Each runs over the listed wakes and then
over the listed messages; an error rolls the transaction back. A row is rewritten only if it is as the
snapshot saw it, as the quiesce leaves it, or as the retarget leaves it. -/
namespace SessionManager.Reparent
open Foundation Queue List Fallible

variable {db next : QueueDb} {snapshot : ParentRoutingSnapshot} {target : Option String}

section

def unrouted (row : MessageRow) : MessageRow := { row with parentSessionId := none }

theorem id_of_unrouted {row other : MessageRow} (hs : unrouted row = unrouted other) :
    row.id = other.id := by
  simpa [unrouted] using congrArg MessageRow.id hs

def isDelivered (db : QueueDb) (message : ParentRoutingMessageRow) : Bool :=
  (messageRow db message.id).any MessageRow.delivered

theorem delivered_of_unrouted
    (hs : ∀ id, (messageRow next id).map unrouted = (messageRow db id).map unrouted) :
    isDelivered next = isDelivered db := by
  funext message
  have heq := congrArg (fun row => row.any MessageRow.delivered) (hs message.id)
  simp only [Option.any_map] at heq
  exact heq

/-- Nothing has happened but that listed wakes got another parent or activity, and listed messages
that wait got another parent. -/
structure Rewritten (wakes messages : List String) (db next : QueueDb) : Prop where
  wakes : ∃ change, KeepsKeys change ∧ (∀ row, row.id ∉ wakes → change row = row) ∧
    next.wakes = db.wakes.map change
  messages : ∃ change : MessageRow → MessageRow,
    (∀ row, unrouted (change row) = unrouted row) ∧
    (∀ row, row.id ∉ messages ∨ row.delivered → change row = row) ∧
    next.messages = db.messages.map change

variable {wakes messages : List String} {key : String}

theorem Rewritten.refl (wakes messages : List String) (db : QueueDb) :
    Rewritten wakes messages db db :=
  ⟨⟨fun row => row, ⟨fun _ => rfl, fun _ => rfl⟩, fun _ _ => rfl, (map_id' _).symm⟩,
    ⟨fun row => row, fun _ => rfl, fun _ _ => rfl, (map_id' _).symm⟩⟩

theorem Rewritten.trans {last : QueueDb} (one : Rewritten wakes messages db next)
    (two : Rewritten wakes messages next last) : Rewritten wakes messages db last := by
  obtain ⟨⟨wake, hke, otherWake, wakeRows⟩, message, hs, otherMessage, messageRows⟩ := one
  obtain ⟨⟨wake', keeps', otherWake', wakeRows'⟩, message', same', otherMessage', messageRows'⟩ := two
  refine ⟨⟨fun row => wake' (wake row), ⟨?_, ?_⟩, ?_, ?_⟩, fun row => message' (message row), ?_, ?_, ?_⟩
  · intro row
    rw [keeps'.id, hke.id]
  · intro row
    rw [keeps'.child, hke.child]
  · intro row unlisted
    simp only [otherWake row unlisted, otherWake' row unlisted]
  · rw [wakeRows', wakeRows, map_map]
    rfl
  · intro row
    rw [same', hs]
  · intro row fixed
    simp only [otherMessage row fixed, otherMessage' row fixed]
  · rw [messageRows', messageRows, map_map]
    rfl

theorem Rewritten.wake {change : ParentWakeRow → ParentWakeRow} (hke : KeepsKeys change)
    (hli : key ∈ wakes) :
    Rewritten wakes messages db (updateWakes db (fun row => row.id = key) change) := by
  refine ⟨⟨_, hke.ite fun row => row.id = key, ?_, rfl⟩, (Rewritten.refl wakes _ db).messages⟩
  intro row unlisted
  rw [if_neg]
  simp only [decide_eq_true_eq]
  intro hs
  exact unlisted (hs ▸ hli)

theorem Rewritten.message (hli : key ∈ messages) :
    Rewritten wakes messages db (setMessageParent db target key) := by
  refine ⟨(Rewritten.refl _ messages db).wakes, _, ?_, ?_, rfl⟩
  · intro row
    split <;> rfl
  · intro row fixed
    rw [if_neg]
    simp only [Bool.and_eq_true, decide_eq_true_eq, Bool.not_eq_true', not_and, Bool.not_eq_false]
    intro hs
    exact fixed.resolve_left fun unlisted => unlisted (hs ▸ hli)

section

variable (rewritten : Rewritten wakes messages db next)
include rewritten

theorem Rewritten.lookup : ∃ change, KeepsKeys change ∧
    (∀ key, wakeRow next key = (wakeRow db key).map change) ∧
    ∀ child, childRow next child = (childRow db child).map change := by
  obtain ⟨change, hke, -, rows⟩ := rewritten.wakes
  refine ⟨change, hke, ?_, ?_⟩
  · intro key
    rw [wakeRow, rows]
    exact find?_map_of_blind (fun row => by rw [hke.id]) db.wakes
  · intro child
    rw [childRow, rows]
    exact find?_map_of_blind (fun row => by rw [hke.child]) db.wakes

theorem Rewritten.wakeIds : next.wakes.map ParentWakeRow.id = db.wakes.map ParentWakeRow.id := by
  obtain ⟨_, hke, -, rows⟩ := rewritten.wakes
  rw [rows, map_map]
  exact map_congr_left fun row _ => hke.id row

theorem Rewritten.keyed (keyed : db.Keyed) : next.Keyed := by
  obtain ⟨_, hke, -, rows⟩ := rewritten.wakes
  constructor
  · exact rewritten.wakeIds ▸ keyed.ids
  · rw [rows, map_map]
    exact (map_congr_left fun row _ => hke.child row) ▸ keyed.children

theorem Rewritten.unrouted (key : String) :
    (messageRow next key).map unrouted = (messageRow db key).map unrouted := by
  obtain ⟨_, hs, -, rows⟩ := rewritten.messages
  rw [messageRow, rows, find?_map_of_blind (fun row => by rw [id_of_unrouted (hs row)]),
    Option.map_map]
  exact Option.map_congr fun row _ => hs row

theorem Rewritten.wakeRow_other (unlisted : key ∉ wakes) : wakeRow next key = wakeRow db key := by
  obtain ⟨change, hke, other, rows⟩ := rewritten.wakes
  rw [wakeRow, rows, find?_map_of_blind fun row => by rw [hke.id]]
  cases hf : wakeRow db key with
  | none => exact congrArg (Option.map change) hf
  | some row =>
    refine (congrArg (Option.map change) hf).trans (congrArg some (other row ?_))
    rwa [(wakeRow_mem hf).2]

theorem Rewritten.messageRow_other (unlisted : key ∉ messages) :
    messageRow next key = messageRow db key := by
  obtain ⟨change, hs, other, rows⟩ := rewritten.messages
  rw [messageRow, rows, find?_map_of_blind fun row => by rw [id_of_unrouted (hs row)]]
  cases hf : messageRow db key with
  | none => exact congrArg (Option.map change) hf
  | some row =>
    refine (congrArg (Option.map change) hf).trans (congrArg some (other row (.inl ?_)))
    rwa [(messageRow_mem hf).2]

theorem Rewritten.eq (ids : (db.wakes.map ParentWakeRow.id).Nodup)
    (messageIds : (db.messages.map MessageRow.id).Nodup)
    (sameWakes : ∀ key ∈ wakes, wakeRow next key = wakeRow db key)
    (sameMessages : ∀ key ∈ messages, messageRow next key = messageRow db key) : next = db := by
  obtain ⟨_, hke, otherWake, wakeRows⟩ := rewritten.wakes
  obtain ⟨_, hs, otherMessage, messageRows⟩ := rewritten.messages
  have wakesSame : next.wakes = db.wakes := by
    refine wakeRows.trans ((map_congr_left fun row hm => ?_).trans (map_id _))
    by_cases hli : row.id ∈ wakes
    · have hf : wakeRow db row.id = some row := find?_key ids hm
      have moved := sameWakes row.id hli
      rw [hf, wakeRow, wakeRows, find?_map_of_blind fun row => by rw [hke.id]] at moved
      exact Option.some.inj ((congrArg (Option.map _) hf).symm.trans moved)
    · exact otherWake row hli
  have messagesSame : next.messages = db.messages := by
    refine messageRows.trans ((map_congr_left fun row hm => ?_).trans (map_id _))
    by_cases hli : row.id ∈ messages
    · have hf : messageRow db row.id = some row := find?_key messageIds hm
      have moved := sameMessages row.id hli
      rw [hf, messageRow, messageRows,
        find?_map_of_blind fun row => by rw [id_of_unrouted (hs row)]] at moved
      exact Option.some.inj ((congrArg (Option.map _) hf).symm.trans moved)
    · exact otherMessage row (.inl hli)
  cases next
  simp_all

theorem Rewritten.messageIds : next.messages.map MessageRow.id = db.messages.map MessageRow.id := by
  obtain ⟨_, hs, -, rows⟩ := rewritten.messages
  rw [rows, map_map]
  exact map_congr_left fun row _ => id_of_unrouted (hs row)

end

end

section

variable {σ : Type} {accepts : ParentRoutingMessageRow → MessageRow → Prop}
  {step : σ → ParentRoutingMessageRow → Except String σ} {table : σ → QueueDb} {start : QueueDb → σ}
  {final : σ}

/-- The two loops of a transaction. -/
def routingRun (target : Option String) (step : σ → ParentRoutingMessageRow → Except String σ)
    (start : QueueDb → σ) (snapshot : ParentRoutingSnapshot) (db : QueueDb) : Except String σ := do
  let rewoken ← snapshot.wakeRows.foldlM (retargetWake target) db
  snapshot.messageRows.foldlM step (start rewoken)

theorem quiesceParentRouting_eq :
    quiesceParentRouting db snapshot = routingRun none quiesceMessage (fun db => db) snapshot db := by
  rw [quiesceParentRouting, quiesceWake_eq]
  rfl

/-- A loop over messages that only moves the routes of the listed ones. -/
structure MovesMessages (target : Option String)
    (step : σ → ParentRoutingMessageRow → Except String σ) (table : σ → QueueDb)
    (start : QueueDb → σ) (accepts : ParentRoutingMessageRow → MessageRow → Prop) : Prop where
  begun : ∀ db, table (start db) = db
  moved : ∀ {before message after}, step before message = .ok after → table after = table before ∨
    table after = setMessageParent (table before) target message.id
  rows : RowStep step (fun state => messageRow (table state)) ParentRoutingMessageRow.id accepts
    fun _ => retargetedMessage target

theorem retargetMessage_moves : MovesMessages target (retargetMessage target) Prod.fst (·, [])
    fun message => MessageReady message target where
  begun _ := rfl
  moved hd := by
    obtain ⟨_, -, -, rfl⟩ := retargetMessage_eq_ok.mp hd
    split
    · exact .inl rfl
    · exact .inr rfl
  rows := retargetMessage_rowStep

theorem quiesceMessage_moves : MovesMessages none quiesceMessage (fun db => db) (fun db => db)
    fun message row => MessageReady message none row ∧ row.delivered = false where
  begun _ := rfl
  moved hd := .inr (quiesceMessage_eq_ok.mp hd).2.symm
  rows := quiesceMessage_rowStep

theorem retargetWakes_messages {wakes : List ParentWakeRow}
    (hd : wakes.foldlM (retargetWake target) db = .ok next) : next.messages = db.messages := by
  apply foldlM_keeps (fun state => state.messages = db.messages) hd
  · intro _ _ _ _ hsp held
    rw [← (retargetWake_eq_ok.mp hsp).2]
    exact held
  · rfl

namespace MovesMessages

variable (moves : MovesMessages target step table start accepts)
include moves

theorem split (hd : routingRun target step start snapshot db = .ok final) :
    ∃ rewoken, snapshot.wakeRows.foldlM (retargetWake target) db = .ok rewoken ∧
      snapshot.messageRows.foldlM step (start rewoken) = .ok final ∧
      rewoken.messages = db.messages ∧ (table final).wakes = rewoken.wakes := by
  obtain ⟨rewoken, wakes, messages⟩ := bind_eq_ok.mp hd
  refine ⟨rewoken, wakes, messages, retargetWakes_messages wakes, ?_⟩
  apply foldlM_keeps (fun state => (table state).wakes = rewoken.wakes) messages
  · intro _ _ _ _ hsp held
    rcases moves.moved hsp with hs | moved
    · rw [hs, held]
    · rw [moved]
      exact held
  · rw [moves.begun]

theorem rewritten (hd : routingRun target step start snapshot db = .ok final) :
    Rewritten (snapshot.wakeRows.map ParentWakeRow.id)
      (snapshot.messageRows.map ParentRoutingMessageRow.id) db (table final) := by
  obtain ⟨_, wakes, messages⟩ := bind_eq_ok.mp hd
  apply foldlM_keeps (fun state => Rewritten _ _ db (table state)) messages
  · intro _ hm before after hsp held
    rcases moves.moved hsp with hs | moved
    · rw [hs]
      exact held
    · rw [moved]
      exact held.trans (.message (mem_map_of_mem hm))
  · rw [moves.begun]
    apply foldlM_keeps (Rewritten _ _ db) wakes
    · intro _ hm before after hsp held
      rw [← (retargetWake_eq_ok.mp hsp).2]
      exact held.trans (.wake (retargetedWake_keepsKeys _ _) (mem_map_of_mem hm))
    · exact .refl _ _ db

section

variable (distinct : Set.InjOn ParentWakeRow.id {wake | wake ∈ snapshot.wakeRows})
include distinct

theorem wake (hd : routingRun target step start snapshot db = .ok final) :
    ∀ wake ∈ snapshot.wakeRows, ∃ row, wakeRow db wake.id = some row ∧ WakeReady wake target row ∧
      wakeRow (table final) wake.id = some (retargetedWake wake target row) := by
  obtain ⟨_, wakes, -, -, hs⟩ := moves.split hd
  unfold wakeRow
  rw [hs]
  exact retargetWake_rowStep.foldlM_found wakes distinct

variable (apart : Set.InjOn ParentRoutingMessageRow.id {message | message ∈ snapshot.messageRows})
include apart

omit distinct in
theorem message (hd : routingRun target step start snapshot db = .ok final) :
    ∀ message ∈ snapshot.messageRows, ∃ row, messageRow db message.id = some row ∧
      accepts message row ∧
      messageRow (table final) message.id = some (retargetedMessage target row) := by
  obtain ⟨_, -, messages, hs, -⟩ := moves.split hd
  have hf := moves.rows.foldlM_found messages apart
  rw [moves.begun] at hf
  unfold messageRow at hf ⊢
  rwa [hs] at hf

theorem ok (wakes : ∀ wake ∈ snapshot.wakeRows, ∃ row, wakeRow db wake.id = some row ∧
      WakeReady wake target row)
    (messages : ∀ message ∈ snapshot.messageRows, ∃ row, messageRow db message.id = some row ∧
      accepts message row) : ∃ final, routingRun target step start snapshot db = .ok final := by
  obtain ⟨rewoken, hd⟩ := retargetWake_rowStep.foldlM_ok distinct wakes
  have hrd : ∀ message ∈ snapshot.messageRows, ∃ row,
      messageRow (table (start rewoken)) message.id = some row ∧ accepts message row := by
    rw [moves.begun]
    unfold messageRow at messages ⊢
    rwa [retargetWakes_messages hd]
  obtain ⟨final, finished⟩ := moves.rows.foldlM_ok apart hrd
  exact ⟨_, bind_eq_ok.mpr ⟨rewoken, hd, finished⟩⟩

theorem again (wakeIds : (db.wakes.map ParentWakeRow.id).Nodup)
    (messageIds : (db.messages.map MessageRow.id).Nodup)
    (hd : routingRun target step start snapshot db = .ok final) :
    ∃ last, routingRun target step start snapshot (table final) = .ok last ∧
      table last = table final := by
  have wakes := moves.wake distinct hd
  have messages := moves.message apart hd
  obtain ⟨last, repeated⟩ : ∃ last, routingRun target step start snapshot (table final) = .ok last := by
    apply moves.ok distinct apart
    · intro wake hli
      obtain ⟨row, -, hrd, now⟩ := wakes _ hli
      exact ⟨_, now, hrd.retargeted⟩
    · intro message hli
      obtain ⟨row, -, hrd, now⟩ := messages _ hli
      exact ⟨_, now, moves.rows.again hrd⟩
  have rewritten := moves.rewritten hd
  refine ⟨_, repeated, (moves.rewritten repeated).eq ?_ ?_ ?_ ?_⟩
  · exact rewritten.wakeIds ▸ wakeIds
  · exact rewritten.messageIds ▸ messageIds
  · intro key hli
    obtain ⟨wake, hi, rfl⟩ := mem_map.mp hli
    obtain ⟨row, -, -, now⟩ := wakes _ hi
    obtain ⟨old, hf, -, after⟩ := moves.wake distinct repeated _ hi
    obtain rfl := Option.some.inj (hf.symm.trans now)
    rw [after, now, retargetedWake_idem]
  · intro key hli
    obtain ⟨message, hi, rfl⟩ := mem_map.mp hli
    obtain ⟨row, -, -, now⟩ := messages _ hi
    obtain ⟨old, hf, -, after⟩ := moves.message apart repeated _ hi
    obtain rfl := Option.some.inj (hf.symm.trans now)
    rw [after, now, retargetedMessage_idem]

end

end MovesMessages

theorem quiesceParentRouting_rewritten (hd : quiesceParentRouting db snapshot = .ok next) :
    Rewritten (snapshot.wakeRows.map ParentWakeRow.id)
      (snapshot.messageRows.map ParentRoutingMessageRow.id) db next :=
  quiesceMessage_moves.rewritten (quiesceParentRouting_eq ▸ hd)

theorem retargetMessages_delivered {messages : List ParentRoutingMessageRow}
    {before after : QueueDb × List ParentRoutingMessageRow}
    (hd : messages.foldlM (retargetMessage target) before = .ok after) :
    after.2 = before.2 ++ messages.filter (isDelivered before.1) := by
  induction messages generalizing before with
  | nil =>
    cases hd
    rw [filter_nil, append_nil]
  | cons message _ ih =>
    obtain ⟨next, hh, later⟩ := foldlM_cons_ok.mp hd
    obtain ⟨row, hf, -, result⟩ := retargetMessage_eq_ok.mp hh
    have hmk : isDelivered before.1 message = row.delivered := by
      rw [isDelivered, hf, Option.any_some]
    have hs : isDelivered next.1 = isDelivered before.1 := by
      have hw : Rewritten [] [message.id] before.1 next.1 := by
        rcases retargetMessage_moves.moved hh with hs | moved
        · rw [hs]
          exact .refl _ _ _
        · rw [moved]
          exact .message (mem_singleton_self _)
      exact delivered_of_unrouted hw.unrouted
    rw [ih later, hs, filter_cons, hmk, ← result]
    split <;> simp

theorem retargetParentRouting_delivered {rows : List ParentRoutingMessageRow}
    (hd : retargetParentRouting db snapshot target = .ok (next, rows)) :
    rows = snapshot.messageRows.filter (isDelivered db) := by
  obtain ⟨rewoken, -, messages, hs, -⟩ := retargetMessage_moves.split hd
  have delivered : isDelivered rewoken = isDelivered db := by
    funext _
    rw [isDelivered, messageRow, hs]
    rfl
  rw [← delivered]
  exact retargetMessages_delivered messages

end

section

/-- A listed wake as the snapshot saw it, as the quiesce leaves it, or under the new parent. -/
inductive WakeState (target : Option String) (wake : ParentWakeRow) : ParentWakeRow → Prop
  | planned : WakeState target wake wake
  | quiesced : WakeState target wake { wake with isActive := false }
  | retargeted (parent : String) (aim : target = some parent) :
    WakeState target wake { wake with parentSessionId := parent }

theorem WakeReady.state {wake row : ParentWakeRow} (hrd : WakeReady wake target row)
    (hs : row.id = wake.id) : WakeState target wake row := by
  obtain ⟨id, _, _, _, _⟩ := row
  obtain ⟨rfl, rfl, ⟨rfl, rfl⟩ | ⟨rfl, rfl⟩ | ⟨aim, rfl⟩⟩ := hrd
  all_goals obtain rfl : id = wake.id := hs
  · exact .planned
  · exact .quiesced
  · exact .retargeted _ aim

variable {α : Type}

def withImmediateTransaction (db : QueueDb) (action : QueueDb → Except String (QueueDb × α)) :
    QueueDb × Except String α :=
  match action db with
  | .ok (next, value) => (next, .ok value)
  | .error reason => (db, .error reason)

def quiesce (snapshot : ParentRoutingSnapshot) (db : QueueDb) : QueueDb × Except String Unit :=
  withImmediateTransaction db fun db => (quiesceParentRouting db snapshot).map fun next => (next, ())

def retarget (snapshot : ParentRoutingSnapshot) (target : Option String) (db : QueueDb) :
    QueueDb × Except String (List ParentRoutingMessageRow) :=
  withImmediateTransaction db fun db => retargetParentRouting db snapshot target

/-- A call that refuses without a trace, or rewrites only listed rows that it knows and has nothing
left to do. -/
structure FailsClosed (call : QueueDb → QueueDb × Except String α)
    (snapshot : ParentRoutingSnapshot) (target : Option String)
    (accepts : ParentRoutingMessageRow → MessageRow → Prop) (db : QueueDb) : Prop where
  refused : ∀ reason, (call db).2 = .error reason → (call db).1 = db
  rewritten : ∀ value, (call db).2 = .ok value → Rewritten (snapshot.wakeRows.map ParentWakeRow.id)
    (snapshot.messageRows.map ParentRoutingMessageRow.id) db (call db).1
  again : ∀ value, (call db).2 = .ok value → (call (call db).1).1 = (call db).1 ∧
    ∃ value, (call (call db).1).2 = .ok value
  wakes : ∀ value, (call db).2 = .ok value → ∀ wake ∈ snapshot.wakeRows, ∃ row ∈ db.wakes,
    row.id = wake.id ∧ WakeState target wake row
  messages : ∀ value, (call db).2 = .ok value → ∀ message ∈ snapshot.messageRows,
    ∃ row ∈ db.messages, row.id = message.id ∧ accepts message row

/-- A quiesce knows the messages that a retarget to nobody knows, as long as they wait. -/
def QuiesceReady (message : ParentRoutingMessageRow) (row : MessageRow) : Prop :=
  MessageReady message none row ∧ row.delivered = false

theorem MovesMessages.failsClosed {σ : Type} {table : σ → QueueDb} {start : QueueDb → σ}
    {step : σ → ParentRoutingMessageRow → Except String σ}
    {accepts : ParentRoutingMessageRow → MessageRow → Prop}
    (moves : MovesMessages target step table start accepts) (value : σ → α)
    (wakeIds : (db.wakes.map ParentWakeRow.id).Nodup)
    (messageIds : (db.messages.map MessageRow.id).Nodup)
    (distinct : (snapshot.wakeRows.map ParentWakeRow.id).Nodup)
    (apart : (snapshot.messageRows.map ParentRoutingMessageRow.id).Nodup) :
    FailsClosed (fun db => withImmediateTransaction db fun db =>
      (routingRun target step start snapshot db).map fun final => (table final, value final))
      snapshot target accepts db := by
  have distinct' := inj_on_of_nodup_map distinct
  have apart' := inj_on_of_nodup_map apart
  cases hd : routingRun target step start snapshot db with
  | error =>
    constructor <;> simp [withImmediateTransaction, hd, Except.map]
  | ok final =>
    obtain ⟨_, repeated, hs⟩ := moves.again distinct' apart' wakeIds messageIds hd
    constructor <;> simp [withImmediateTransaction, hd, repeated, hs, Except.map]
    · exact moves.rewritten hd
    · intro _ hli
      obtain ⟨row, hf, hrd, -⟩ := moves.wake distinct' hd _ hli
      have own := wakeRow_mem hf
      exact ⟨row, own.1, own.2, hrd.state own.2⟩
    · intro message hli
      obtain ⟨row, hf, hrd, -⟩ := moves.message apart' hd _ hli
      have own := messageRow_mem hf
      exact ⟨row, own.1, own.2, hrd⟩

theorem parent_routing_fails_closed (db : QueueDb) (snapshot : ParentRoutingSnapshot)
    (wakeIds : (db.wakes.map ParentWakeRow.id).Nodup)
    (messageIds : (db.messages.map MessageRow.id).Nodup)
    (distinct : (snapshot.wakeRows.map ParentWakeRow.id).Nodup)
    (apart : (snapshot.messageRows.map ParentRoutingMessageRow.id).Nodup) :
    FailsClosed (quiesce snapshot) snapshot none QuiesceReady db ∧
      ∀ target, FailsClosed (retarget snapshot target) snapshot target (MessageReady · target) db := by
  constructor
  · have closed := quiesceMessage_moves.failsClosed (fun _ => ()) wakeIds messageIds distinct apart
    simp only [← quiesceParentRouting_eq] at closed
    exact closed
  · intro target
    have plain : ∀ db, (routingRun target (retargetMessage target) (·, []) snapshot db).map
        (fun final => (final.1, final.2)) = retargetParentRouting db snapshot target := by
      intro db
      change Except.map _ (retargetParentRouting db snapshot target) = _
      cases retargetParentRouting db snapshot target <;> rfl
    have closed : FailsClosed _ snapshot target (MessageReady · target) db :=
      retargetMessage_moves.failsClosed Prod.snd wakeIds messageIds distinct apart
    simp only [plain] at closed
    exact closed

def annWake : ParentWakeRow := ⟨"wake", "kim", "ann", 60, true⟩

def annSnapshot : ParentRoutingSnapshot :=
  ⟨[annWake], [⟨"m1", "kim", "ann", true⟩, ⟨"m2", "kim", "ann", false⟩]⟩

/-- Two messages for a child; the second may have been delivered after the snapshot. -/
def annQueue (delivered : Bool) : QueueDb :=
  ⟨[annWake], [⟨"m1", "kim", some "ann", "tests pass", "sequential", none, some "ann", none, none, false⟩,
    ⟨"m2", "kim", some "ann", "please merge", "urgent", none, some "ann", none, none, delivered⟩]⟩

theorem ann_routing_fails_closed :
    (quiesce annSnapshot (annQueue true)).2 = .error "queue message m2 delivered before quiesce" ∧
      (quiesce annSnapshot (annQueue false)).2 = .ok () ∧
      (retarget annSnapshot (some "bob") (annQueue true)).2 = .ok [⟨"m2", "kim", "ann", false⟩] ∧
      FailsClosed (quiesce annSnapshot) annSnapshot none QuiesceReady (annQueue false) ∧
      ∀ target, FailsClosed (retarget annSnapshot target) annSnapshot target (MessageReady · target)
        (annQueue true) := by
  refine ⟨by decide +kernel, by decide +kernel, by decide +kernel, ?_, ?_⟩
  · exact (parent_routing_fails_closed (annQueue false) annSnapshot (by decide) (by decide)
      (by decide) (by decide)).1
  · exact (parent_routing_fails_closed (annQueue true) annSnapshot (by decide) (by decide)
      (by decide) (by decide)).2

end

end SessionManager.Reparent
