import SessionManager.Reparent.LeaseFence
import SessionManager.Reparent.Messages
import SessionManager.Reparent.Notices

/-! Terminal outcomes of requests are final, and each recipient is told once. A terminal request is not
fenced, so it does not hold the lease, and nothing else writes what has been decided. Its notification
goes into the queue under a key made of the request, the event and the recipient, and a key that is
stored is not stored again. -/
namespace SessionManager.Reparent
open Foundation Queue List Option

section

variable {before after : Registry} {requestId : String} {record : RequestRecord}

/-- The request is still there, and what was decided about it stands. -/
def Stands (registry : Registry) (requestId : String) (fate : Fate) : Prop :=
  ∃ record, findRequest registry requestId = some record ∧ record.fate = fate

theorem not_pending_of_terminal (terminal : record.status.isTerminal) :
    record.status ≠ .pending := by
  intro hpe
  rw [hpe] at terminal
  cases terminal

theorem Replaced.stands {records : List RequestRecord} {holder : String} {next : RequestRecord}
    (replaced : Replaced records after.reparentRequests holder next)
    (hf : records.find? (fun other => other.id = requestId) = some record)
    (other : requestId ≠ holder) : Stands after requestId record.fate := by
  have ht := replaced.elsewhere _ other
  rw [hf] at ht
  exact ⟨_, ht, rfl⟩

theorem LeaseMove.stands (move : LeaseMove before after) (hag : Agrees before)
    (hf : findRequest before requestId = some record)
    (terminal : record.status.isTerminal) : Stands after requestId record.fate := by
  cases move with
  | keeps _ requests =>
    obtain ⟨next, ht, hs⟩ :=
      find?_forall₂ RequestRecord.id (fun _ _ pair => pair.1) requests hf
    exact ⟨next, ht, hs.2⟩
  | reviews reviews =>
    obtain ⟨next, ht, reviewed⟩ := reviews.find hf
    exact ⟨next, ht, reviewed.settled (not_pending_of_terminal terminal)⟩
  | leases hl plan refreshed _ _ reviewed hli hpe requests =>
    obtain ⟨next, ht, review⟩ :=
      find?_forall₂ RequestRecord.id (fun _ _ pair => pair.id) reviewed hf
    have hse := not_pending_of_terminal terminal
    have ids := forall₂_map_eq RequestRecord.id (fun _ _ pair => pair.id) reviewed
    have hn : (refreshed.map RequestRecord.id).Nodup := ids ▸ hag.distinct
    have replaced : Replaced refreshed after.reparentRequests hl.id (leasedWithPlan plan hl) := by
      rw [requests]
      exact replaced_listed hn hli rfl
    have other : requestId ≠ hl.id := by
      intro hs
      have own : next.id = requestId := by simpa using find?_some ht
      have heq : next = hl := inj_on_of_nodup_map hn (mem_of_find?_eq_some ht) hli (own.trans hs)
      have status := review.status hse
      rw [heq, hpe] at status
      exact hse status.symm
    have stands := replaced.stands ht other
    rw [review.settled hse] at stands
    exact stands
  | proceeds holder hl next held proceeds requests =>
    have own : next.id = hl.id := by cases proceeds <;> rfl
    exact (hag.rewritten held own requests).stands hf (hag.other_than_holder hf terminal held)
  | releases holder _ hse held own _ requests =>
    exact (hag.rewritten held own requests).stands hf (hag.other_than_holder hf terminal held)

end

section

variable {env : Env} {ids : RowIds} {before after : QueueDb}

/-- No message of the outbox is removed. -/
def Spares (before after : QueueDb) : Prop :=
  ∀ id row, messageRow before id = some row → row.messageCategory = some "reparent" →
    row.timeoutAt = none → ∃ other, messageRow after id = some other ∧
      other.messageCategory = some "reparent" ∧ other.timeoutAt = none

theorem Spares.refl (queue : QueueDb) : Spares queue queue := by
  intro _ row hf category timeout
  exact ⟨row, hf, category, timeout⟩

theorem SameMessages.spares (hs : SameMessages before after) : Spares before after := by
  intro _ _ hf category timeout
  obtain ⟨_, ht, heq⟩ := hs.find hf
  refine ⟨_, ht, ?_, ?_⟩
  · exact (congrArg MessageRow.messageCategory heq).trans category
  · exact (congrArg MessageRow.timeoutAt heq).trans timeout

theorem QueueMove.spares (move : QueueMove ids before after) : Spares before after := by
  cases move with
  | routes hs => exact hs.spares
  | replays _ hw =>
    intro _ row hf category timeout
    rw [hw]
    exact ⟨row, ReplayWrite.messageRow_apply_of_some hf, category, timeout⟩

theorem deleteMessages_spares {choose : MessageRow → Bool}
    (kept : ∀ row, row.messageCategory = some "reparent" → row.timeoutAt = none →
      choose row = false) : Spares before (deleteMessages before choose) := by
  intro _ row hf category timeout
  have stays := kept row category timeout
  exact ⟨row, find?_filter_of_find? hf (by simp [stays]), category, timeout⟩

theorem deliver_spares (message : MessageRow) :
    Spares before (markDeliveredAndApplySideEffects before ids message) := by
  intro id row hf category timeout
  unfold markDeliveredAndApplySideEffects
  split
  · exact ⟨row, hf, category, timeout⟩
  rename_i delivered marked
  have found : ∃ other, messageRow delivered id = some other ∧
      other.messageCategory = some "reparent" ∧ other.timeoutAt = none := by
    unfold markDelivered at marked
    split at marked <;> cases marked
    rw [messageRow_updateMessages (by intro _; rfl), hf]
    refine ⟨_, rfl, ?_⟩
    dsimp only
    split <;> exact ⟨category, timeout⟩
  split <;> exact found

/-- A message is removed when it times out or its category is cancelled; those of the outbox have no
timeout, and the service cancels two other categories. -/
theorem Traffic.spares {before after : Stores} (traffic : Traffic env ids before after) :
    Spares before.queue after.queue := by
  cases traffic with
  | send =>
    intro _ row hf category timeout
    exact ⟨row, (messageRow_append _ _).trans (by rw [hf]; rfl), category, timeout⟩
  | deliver => exact deliver_spares _
  | expire =>
    refine deleteMessages_spares fun row _ timeout => ?_
    simp [timeout]
  | cancelForTarget | cancelFromSender =>
    refine deleteMessages_spares fun row category _ => ?_
    simp [category]
  | _ => exact .refl _

theorem Step.spares {before after : System} (step : Step env ids before after) :
    Spares before.stores.queue after.stores.queue := by
  cases step with
  | drive => exact (driverStep_drives _ _ _ _).queueMove.spares
  | traffic _ _ traffic => exact traffic.spares
  | storeFails | crash | start => exact .refl _
  | _ =>
    dsimp only [Stores.withRegistry]
    exact .refl _

end

section

variable {env : Env} {registry after : Registry}

theorem projectNotifications_reviews : Reviews registry (projectNotifications env registry) := by
  unfold projectNotifications
  dsimp only
  split
  · exact Revises.reviews (.store _ fun reviewing =>
      reviewing.reconcile (reviewing.refresh env _ _)) fun _ => id
  · exact (Revises.refl _).reviews fun _ => id

theorem markEnqueued_keeps {desired : DesiredNotification}
    (hd : markEnqueued env registry desired = .ok after) : LeaseMove registry after := by
  unfold markEnqueued at hd
  dsimp only at hd
  split at hd
  · cases hd
  rename_i hf
  split at hd
  · cases hd
  split at hd
  · cases hd
    refine .keeps rfl (sameFate_modifyFirst ?_)
    intro _ chosen
    rw [← Option.some.inj (hf.symm.trans chosen)]
    exact ⟨rfl, rfl⟩
  · cases hd
    exact .untouched rfl rfl

theorem noticeStep_leaseMove (env : Env) (stores : Stores) (worker : NoticePc) :
    LeaseMove stores.registry (noticeStep env stores worker).1.registry := by
  have hun : LeaseMove stores.registry stores.registry := .untouched rfl rfl
  cases worker with
  | idle => exact .reviews projectNotifications_reviews
  | check selected =>
    cases selected with
    | nil => exact hun
    | cons =>
      simp only [noticeStep]
      split <;> exact hun
  | enqueue =>
    simp only [noticeStep]
    split <;> exact hun
  | mark =>
    simp only [noticeStep]
    split
    · exact hun
    · rename_i hmk
      exact markEnqueued_keeps hmk

/-- The message that stands for a notification. -/
def DesiredNotification.message (desired : DesiredNotification) : DeferredMessage :=
  ⟨desired.intent.key, desired.intent.recipientSessionId, desired.text, "important",
    { QueueMessageMetadata.default with messageCategory := some "reparent" }⟩

theorem noticeStep_queue (env : Env) (stores : Stores) (worker : NoticePc) :
    (noticeStep env stores worker).1.queue = stores.queue ∧ announcing stores.queue worker = [] ∨
      ∃ desired rest, worker = .enqueue desired rest ∧
        (noticeStep env stores worker).1.queue = enqueued stores.queue desired.message := by
  cases worker with
  | idle => exact .inl ⟨rfl, rfl⟩
  | check selected =>
    refine .inl ⟨?_, rfl⟩
    cases selected with
    | nil => rfl
    | cons =>
      simp only [noticeStep]
      split <;> rfl
  | mark =>
    refine .inl ⟨?_, rfl⟩
    simp only [noticeStep]
    split <;> rfl
  | enqueue desired rest =>
    simp only [noticeStep]
    split
    · rename_i refused
      refine .inl ⟨rfl, ?_⟩
      -- the queue refuses only a key that is stored already
      refine if_neg ?_
      intro hab
      have fits : MessageFits stores.queue desired.message := by
        intro row hf
        rw [show messageRow stores.queue desired.intent.key = some row from hf] at hab
        cases hab
      have hac := enqueueMessageOnceWithMetadata_ok fits
      exact absurd (refused.symm.trans hac) (by simp)
    · rename_i queue hac
      have hst : queue = enqueued stores.queue desired.message :=
        enqueueMessageOnceWithMetadata_eq hac
      exact .inr ⟨_, _, rfl, hst⟩

theorem enqueued_spares (queue : QueueDb) (message : DeferredMessage) :
    Spares queue (enqueued queue message) := by
  intro _ row hf category timeout
  refine ⟨row, ?_, category, timeout⟩
  rw [messageRow_enqueued, hf, some_or]

end

variable {record : RequestRecord}

section

section

variable {record : RequestRecord} {intent : NotificationIntent}
  (desired : intent ∈ desiredReparentNotifications record)
include desired

theorem desired_cases : ∃ event recipient, intent = reparentNotification record event recipient ∧
      ((∃ rest, event = "approval:" ++ rest ∨ event = "quarantined:" ++ rest) ∨
        record.status.isTerminal ∧ event = "terminal:" ++ record.status.text) := by
  unfold desiredReparentNotifications at desired
  split at desired
  · rcases mem_append.mp desired with first | second
    · obtain ⟨recipient, _, made⟩ := mem_map.mp first
      exact ⟨_, _, made.symm, .inl ⟨_, .inl rfl⟩⟩
    · split at second
      · obtain ⟨recipient, _, made⟩ := mem_map.mp second
        exact ⟨_, _, made.symm, .inl ⟨_, .inl rfl⟩⟩
      · cases second
  · cases desired
  · obtain ⟨recipient, _, made⟩ := mem_map.mp desired
    exact ⟨_, _, made.symm, .inl ⟨_, .inr rfl⟩⟩
  · obtain ⟨recipient, _, made⟩ := mem_map.mp desired
    refine ⟨_, _, made.symm, .inr ⟨?_, rfl⟩⟩
    cases _ : record.status <;> first | rfl | contradiction

theorem isTerminalEvent_iff (terminal : isTerminalEvent intent.event) :
    record.status.isTerminal ∧ intent.event = "terminal:" ++ record.status.text := by
  obtain ⟨_, _, rfl, ⟨_, rfl | rfl⟩ | final⟩ := desired_cases desired
  · simp [reparentNotification, isTerminalEvent, String.toList_append] at terminal
  · simp [reparentNotification, isTerminalEvent, String.toList_append] at terminal
  · exact final

end

theorem desired_key {desired : DesiredNotification} (hm : desired ∈ desiredNotifications record) :
    desired.requestId = record.id ∧ desired.intent ∈ desiredReparentNotifications record ∧
      desired.intent = reparentNotification record desired.intent.event
        desired.intent.recipientSessionId := by
  obtain ⟨_, hi, made⟩ := mem_map.mp hm
  obtain ⟨_, _, rfl, _⟩ := desired_cases hi
  rw [← made]
  exact ⟨rfl, hi, rfl⟩

end

section

/-- A notification as its request called for it; a terminal one is about the outcome that stands. -/
structure Called (registry : Registry) (desired : DesiredNotification) : Prop where
  key : ∃ record : RequestRecord, record.id = desired.requestId ∧ desired.intent =
    reparentNotification record desired.intent.event desired.intent.recipientSessionId
  outcome : isTerminalEvent desired.intent.event = true → ∃ record,
    findRequest registry desired.requestId = some record ∧ record.status.isTerminal = true ∧
      desired.intent.event = "terminal:" ++ record.status.text

structure Announced (state : Announcing) : Prop where
  agrees : Agrees state.system.stores.registry
  called : ∀ desired ∈ state.announced, Called state.system.stores.registry desired
  about : ∀ desired rest, state.worker = .enqueue desired rest →
    Called state.system.stores.registry desired
  stored : ∀ desired ∈ state.announced, ∃ row,
    messageRow state.system.stores.queue desired.intent.key = some row ∧
      row.messageCategory = some "reparent" ∧ row.timeoutAt = none
  distinct : (state.announced.map fun desired => desired.intent.key).Nodup

variable {env : Env} {ids : RowIds} {state next : Announcing}

theorem Called.move {before after : Registry} {desired : DesiredNotification}
    (called : Called before desired) (hag : Agrees before) (move : LeaseMove before after) :
    Called after desired where
  key := called.key
  outcome terminal := by
    obtain ⟨record, hf, hse, event⟩ := called.outcome terminal
    obtain ⟨later, ht, hs⟩ := move.stands hag hf hse
    have status : later.status = record.status := congrArg Fate.status hs
    exact ⟨_, ht, status ▸ hse, status ▸ event⟩

theorem Called.of_current {registry : Registry} {desired current : DesiredNotification}
    (hf : currentNotification registry desired = some current) : Called registry current := by
  obtain ⟨_, ht, chosen⟩ := bind_eq_some_iff.mp hf
  have hm := mem_of_find?_eq_some chosen
  obtain ⟨own, wanted, made⟩ := desired_key hm
  refine ⟨⟨_, own.symm, made⟩, ?_⟩
  intro terminal
  obtain ⟨hse, event⟩ := isTerminalEvent_iff wanted terminal
  have hna : desired.requestId = current.requestId := (findRequest_id ht).symm.trans own.symm
  exact ⟨_, hna ▸ ht, hse, event⟩

theorem Announced.step {after : System} (han : Announced state)
    (step : Step env ids state.system after) : Announced { state with system := after } where
  agrees := han.agrees.move step.leaseMove
  called desired hm := (han.called desired hm).move han.agrees step.leaseMove
  about desired rest working :=
    (han.about desired rest working).move han.agrees step.leaseMove
  stored desired hm := by
    obtain ⟨row, hf, category, timeout⟩ := han.stored _ hm
    exact step.spares _ row hf category timeout
  distinct := han.distinct

theorem noticeStep_about {stores : Stores} {worker : NoticePc} {desired : DesiredNotification}
    {rest : List DesiredNotification}
    (working : (noticeStep env stores worker).2 = .enqueue desired rest) :
    (noticeStep env stores worker).1 = stores ∧ Called stores.registry desired := by
  cases worker with
  | idle => cases working
  | check selected =>
    cases selected with
    | nil => cases working
    | cons =>
      simp only [noticeStep] at working ⊢
      split at working
      · cases working
      · rename_i hf
        cases working
        exact ⟨rfl, .of_current hf⟩
  | enqueue | _ =>
    simp only [noticeStep] at working
    split at working <;> cases working

theorem Announced.announce (han : Announced state) (now : Int) :
    Announced (Reparent.announce env now state) := by
  have move := noticeStep_leaseMove (env.atTime now) state.system.stores state.worker
  have kept : ∀ desired ∈ state.announced,
      Called (noticeStep (env.atTime now) state.system.stores state.worker).1.registry desired :=
    fun _ hm => (han.called _ hm).move han.agrees move
  have working : ∀ desired rest,
      (noticeStep (env.atTime now) state.system.stores state.worker).2 = .enqueue desired rest →
        Called (noticeStep (env.atTime now) state.system.stores state.worker).1.registry
          desired := by
    intro desired rest next
    obtain ⟨hs, called⟩ := noticeStep_about next
    rw [hs]
    exact called
  rcases noticeStep_queue (env.atTime now) state.system.stores state.worker with
    ⟨hs, nothing⟩ | ⟨desired, rest, worker, hw⟩
  · have list : (Reparent.announce env now state).announced = state.announced := by
      simp [Reparent.announce, nothing]
    refine ⟨han.agrees.move move, list ▸ kept, working, ?_, list ▸ han.distinct⟩
    rw [list]
    intro desired hm
    obtain ⟨row, hf, facts⟩ := han.stored _ hm
    exact ⟨row, (congrArg (messageRow · desired.intent.key) hs).trans hf, facts⟩
  · have queue : (Reparent.announce env now state).system.stores.queue =
        enqueued state.system.stores.queue desired.message := hw
    have older : ∀ other ∈ state.announced, ∃ row,
        messageRow (enqueued state.system.stores.queue desired.message) other.intent.key =
          some row ∧ row.messageCategory = some "reparent" ∧ row.timeoutAt = none := by
      intro other hm
      obtain ⟨row, hf, category, timeout⟩ := han.stored _ hm
      exact enqueued_spares _ _ _ row hf category timeout
    by_cases hab : (messageRow state.system.stores.queue desired.intent.key).isNone
    · have list : (Reparent.announce env now state).announced = state.announced ++ [desired] := by
        simp [Reparent.announce, worker, announcing, hab]
      have missing := isNone_iff_eq_none.mp hab
      refine ⟨han.agrees.move move, ?_, working, ?_, ?_⟩
      · rw [list]
        intro other hm
        rcases mem_snoc.mp hm with old | new
        · exact kept _ old
        · rw [new]
          exact (han.about _ _ worker).move han.agrees move
      · rw [list, queue]
        intro other hm
        rcases mem_snoc.mp hm with old | new
        · exact older _ old
        · rw [new, messageRow_enqueued, missing]
          exact ⟨desired.message.row, by simp [DesiredNotification.message], rfl, rfl⟩
      · rw [list]
        refine nodup_map_snoc han.distinct ?_
        intro old hi hs
        obtain ⟨row, hf, _⟩ := han.stored old hi
        rw [hs, missing] at hf
        cases hf
    · have list : (Reparent.announce env now state).announced = state.announced := by
        simp [Reparent.announce, worker, announcing, hab]
      refine ⟨han.agrees.move move, list ▸ kept, working, ?_, list ▸ han.distinct⟩
      rw [list, queue]
      exact older

theorem Announced.operation (han : Announced state)
    (operation : Operation env ids state next) : Announced next := by
  cases operation with
  | step _ step => exact han.step step
  | announce now => exact han.announce now
  | stop =>
    exact ⟨han.agrees, han.called, (fun _ _ h => by cases h), han.stored, han.distinct⟩

theorem Announced.operations (han : Announced state)
    (run : Operations env ids state next) : Announced next := by
  induction run with
  | refl => exact han
  | tail _ operation ih => exact ih.operation operation

theorem Operation.leaseMove (operation : Operation env ids state next) :
    LeaseMove state.system.stores.registry next.system.stores.registry := by
  cases operation with
  | step _ step => exact step.leaseMove
  | announce => exact noticeStep_leaseMove _ _ _
  | stop => exact .untouched rfl rfl

theorem Announced.stands (han : Announced state) (run : Operations env ids state next)
    {requestId : String}
    (hf : findRequest state.system.stores.registry requestId = some record)
    (terminal : record.status.isTerminal) :
    Stands next.system.stores.registry requestId record.fate := by
  induction run with
  | refl => exact ⟨_, hf, rfl⟩
  | @tail _ _ before operation ih =>
    obtain ⟨later, ht, hs⟩ := ih
    have status : later.status = record.status := congrArg Fate.status hs
    have hag := (han.operations before).agrees
    obtain ⟨_, hh, heq⟩ := operation.leaseMove.stands hag ht (status ▸ terminal)
    exact ⟨_, hh, heq.trans hs⟩

end

section

variable {env : Env} {ids : RowIds}

def terminalNotices (state : Announcing) (requestId recipient : String) :
    List DesiredNotification :=
  state.announced.filter fun desired => desired.requestId = requestId &&
    desired.intent.recipientSessionId = recipient && isTerminalEvent desired.intent.event

theorem length_le_one_of_nodup_map {α β : Type} {values : List α} {key : α → β} {common : β}
    (hn : (values.map key).Nodup) (hs : ∀ a ∈ values, key a = common) :
    values.length ≤ 1 := by
  match values with
  | [] => exact Nat.zero_le 1
  | [_] => exact le_refl 1
  | a :: b :: _ =>
    have heq : key a = key b :=
      (hs a (by simp)).trans (hs b (by simp)).symm
    simp [heq] at hn

/-- The terminal notifications of a request have one event, so one recipient has one key. -/
theorem Announced.terminalNotices_le_one {state : Announcing} (han : Announced state)
    (requestId recipient : String) : (terminalNotices state requestId recipient).length ≤ 1 := by
  have hn : ((terminalNotices state requestId recipient).map
      fun desired => desired.intent.key).Nodup :=
    han.distinct.sublist (filter_sublist.map _)
  cases hf : findRequest state.system.stores.registry requestId with
  | none =>
    have nothing : terminalNotices state requestId recipient = [] := by
      rw [terminalNotices, filter_eq_nil_iff]
      intro desired hm wanted
      simp only [Bool.and_eq_true, decide_eq_true_eq] at wanted
      obtain ⟨record, ht, _⟩ := (han.called _ hm).outcome wanted.2
      rw [wanted.1.1, hf] at ht
      cases ht
    rw [nothing]
    exact Nat.zero_le 1
  | some record =>
    have hs : ∀ desired ∈ terminalNotices state requestId recipient, desired.intent.key =
        (reparentNotification record ("terminal:" ++ record.status.text) recipient).key := by
      intro desired hm
      obtain ⟨hi, wanted⟩ := mem_filter.mp hm
      simp only [Bool.and_eq_true, decide_eq_true_eq] at wanted
      have called := han.called _ hi
      obtain ⟨_, ht, _, event⟩ := called.outcome wanted.2
      rw [wanted.1.1, hf] at ht
      cases ht
      obtain ⟨_, own, made⟩ := called.key
      rw [made, event, wanted.1.2]
      simp [reparentNotification, own, wanted.1.1, findRequest_id hf]
    exact length_le_one_of_nodup_map hn hs

/-- Whatever the interleaving, what has been decided about a request stands once its status is
terminal, and no recipient is ever sent two terminal notifications for one request. -/
theorem terminal_outcomes_stand {start middle finish : Announcing}
    (earlier : Operations env ids start middle) (later : Operations env ids middle finish)
    (distinct : (start.system.stores.registry.reparentRequests.map RequestRecord.id).Nodup)
    (free : start.system.stores.registry.reparentApplyLease = none)
    (unfenced : ∀ record ∈ start.system.stores.registry.reparentRequests,
      record.isApplyFenced = false)
    (idle : start.worker = .idle) (silent : start.announced = []) :
    (∀ requestId record,
      findRequest middle.system.stores.registry requestId = some record →
        record.status.isTerminal = true →
          ∃ final, findRequest finish.system.stores.registry requestId = some final ∧
            final.fate = record.fate) ∧
    ∀ requestId recipient, (terminalNotices finish requestId recipient).length ≤ 1 := by
  have opening : Announced start := by
    refine ⟨.of_unfenced distinct free unfenced, ?_, ?_, ?_, ?_⟩
    · simp [silent]
    · intro desired rest working
      rw [idle] at working
      cases working
    · simp [silent]
    · simp [silent]
  have here := opening.operations earlier
  refine ⟨?_, (here.operations later).terminalNotices_le_one⟩
  intro requestId record found terminal
  exact here.stands later found terminal

/-- The worker has moved, and nobody has been told. -/
def settledFamily : Announcing :=
  ⟨(drive familyEnv longerIds newYear)^[16] ⟨agreed.stores, .acquire⟩, .idle, []⟩

/-- The outbox worker is stopped between queueing and marking, and starts again. -/
def toldFamily : Announcing :=
  (announce familyEnv newYear)^[8] { (announce familyEnv newYear)^[3] settledFamily with worker := .idle }

theorem operations_announces (env : Env) (ids : RowIds) (now : Int) (n : Nat)
    (state : Announcing) : Operations env ids state ((announce env now)^[n] state) :=
  run_iterate (fun state => .announce state now) n state

theorem operations_drives (env : Env) (ids : RowIds) (now : Int) (n : Nat) (system : System) :
    Operations env ids ⟨system, .idle, []⟩ ⟨(drive env ids now)^[n] system, .idle, []⟩ := by
  induction n generalizing system with
  | zero => exact .refl
  | succ _ ih =>
    have moved : Operation env ids ⟨system, .idle, []⟩ ⟨drive env ids now system, .idle, []⟩ :=
      .step ⟨_, .idle, []⟩ _ (.drive _ now)
    exact .head moved (ih _)

theorem family_settles : Operations familyEnv longerIds ⟨family, .idle, []⟩ settledFamily := by
  have asks : Operation familyEnv longerIds ⟨family, .idle, []⟩
      ⟨⟨⟨askedRegistry, ⟨[], []⟩⟩, .idle⟩, .idle, []⟩ :=
    .step ⟨family, .idle, []⟩ _ (family_asks _)
  have hag : Operation familyEnv longerIds ⟨⟨⟨askedRegistry, ⟨[], []⟩⟩, .idle⟩, .idle, []⟩
      ⟨agreed, .idle, []⟩ :=
    .step ⟨_, .idle, []⟩ agreed (family_agrees _)
  have starts : Operation familyEnv longerIds ⟨agreed, .idle, []⟩
      ⟨⟨agreed.stores, .acquire⟩, .idle, []⟩ :=
    .step ⟨agreed, .idle, []⟩ _ (.start agreed.stores)
  exact .head asks (.head hag (.head starts (operations_drives _ _ _ 16 _)))

theorem family_told : Operations familyEnv longerIds settledFamily toldFamily :=
  ((operations_announces _ _ _ 3 _).tail (.stop _)).trans (operations_announces _ _ _ 8 _)

theorem told_family_outcome_stands : toldFamily.announced.length = 2 ∧
    (∀ requestId record,
      findRequest settledFamily.system.stores.registry requestId = some record →
        record.status.isTerminal = true →
          ∃ final, findRequest toldFamily.system.stores.registry requestId = some final ∧
            final.fate = record.fate) ∧
    ∀ requestId recipient, (terminalNotices toldFamily requestId recipient).length ≤ 1 :=
  ⟨by decide +kernel, terminal_outcomes_stand family_settles family_told (by decide) rfl
    (by simp [family, familyRegistry]) rfl rfl⟩

end

end SessionManager.Reparent
