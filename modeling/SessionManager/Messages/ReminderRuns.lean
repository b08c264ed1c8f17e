import SessionManager.Foundation.KeyedTable
import SessionManager.Messages.Reminders

/-! Reminders fire once. A reminder that was cancelled, or that had only one shot, is inactive for
good. A recurring reminder that was claimed at an instant is not due at it again, unless its interval
is one second: the next time is written in microseconds, and a time that is less than a second away
counts as reached. -/
namespace SessionManager.Messages
open Foundation Operation List

structure Database.Sound (db : Database) : Prop where
  ids : (db.scheduledReminders.map ScheduledReminder.id).Nodup
  tidy : ∀ reminder ∈ db.scheduledReminders, reminder.tidy = reminder
  positive : ∀ reminder ∈ db.scheduledReminders, ∀ interval,
    reminder.recurringIntervalSeconds = some interval → 1 ≤ interval

variable {localtime : Int → Option Int} {start : Database} {id : String}
  {reminder : ScheduledReminder} {after : Database} {now : Int} {desk : Desk}

section

theorem Database.Sound.initSchema (hso : start.Sound) : start.initSchema = start := by
  unfold Database.initSchema
  rw [map_congr_left hso.tidy, map_id']

variable {left : Database → Prop} {α : Type}

theorem ends_opened {statements : Operation Database α}
    {post : α → Database → Prop} (hso : start.Sound)
    (hsd : left start) (ran : Ends start statements post left) :
    Ends start (withConnection statements) post left :=
  ends_withConnection hsd (by rw [hso.initSchema]; exact ran)

theorem ends_select {read : Database → α} (hsd : left start) :
    Ends start (select read) (fun value after => value = read start ∧ after = start) left :=
  ends_call_bind hsd (ends_observe ⟨rfl, rfl⟩)

theorem Database.scheduledReminder_some (hf : start.scheduledReminder id = some reminder) :
    reminder ∈ start.scheduledReminders ∧ reminder.id = id :=
  ⟨mem_of_find?_eq_some hf, by simpa using find?_some hf⟩

theorem Database.scheduledReminder_none (missing : start.scheduledReminder id = none) :
    ∀ reminder ∈ start.scheduledReminders, reminder.id ≠ id := by
  intro reminder hm hs
  have other := find?_eq_none.mp missing _ hm
  exact other (by simpa using hs)

structure Claimed (localtime : Int → Option Int) (draw : Draw) (now : Int) (before : Database)
    (delivery : ScheduledReminderDelivery) (after : Database) : Prop where
  member : delivery.reminder ∈ before.scheduledReminders
  due : mayClaim localtime now delivery.reminder = true
  named : delivery.queueMessageId = draw.id
  inserted : ∃ message, messageRow draw draw.id delivery.reminder.targetSessionId
      (scheduledReminderMessage delivery.reminder) "urgent" reminderMetadata = .ok message ∧
    (∀ old ∈ before.messages, old.id ≠ message.id) ∧
    after.messages = before.messages ++ [message]
  updated : ∃ change,
    claimedRow localtime now delivery.reminder.recurringIntervalSeconds = .ok change ∧
      after.scheduledReminders = (before.updateReminders
        (fun row => decide (row.id = delivery.reminder.id) && row.isActive) change).scheduledReminders

theorem ends_updateClaimed (now : Int) (reminder : ScheduledReminder) :
    Ends start (updateClaimed localtime now reminder) (fun _ after => ∃ change,
        claimedRow localtime now reminder.recurringIntervalSeconds = .ok change ∧
          after = start.updateReminders
            (fun row => decide (row.id = reminder.id) && row.isActive) change)
      fun _ => True := by
  refine ends_ofExcept_bind trivial ?_
  intro change hs
  refine ends_observe_bind (ends_call_bind trivial ?_)
  split
  · exact ends_pure ⟨change, hs, rfl⟩
  · exact ends_fail trivial

theorem ends_claim (hso : start.Sound) (draw : Draw) (reminderId : String) (now : Int) :
    Ends start (claimDueScheduledReminder localtime draw reminderId now)
      (fun result after => match result with
        | none => after = start
        | some delivery => delivery.reminder.id = reminderId ∧
            Claimed localtime draw now start delivery after)
      fun after => after = start := by
  refine ends_opened hso rfl (ends_transact ?_)
  refine ends_bind (ends_select trivial) ?_
  rintro _ _ ⟨rfl, rfl⟩
  split
  · exact ends_pure rfl
  rename_i _ hf
  obtain ⟨hm, hs⟩ := Database.scheduledReminder_some hf
  split
  · exact ends_pure rfl
  rename_i taken
  refine ends_bind ends_enqueueMessageWithMetadataConn ?_
  rintro _ _ ⟨rfl, unused, _, made, rfl⟩
  refine ends_bind (ends_updateClaimed now _) ?_
  rintro _ _ ⟨change, computed, rfl⟩
  refine ends_pure ⟨hs, hm, by simpa using taken, rfl, ⟨_, made, ?_, rfl⟩,
    change, computed, rfl⟩
  rw [messageRow_id made]
  exact Database.holdsMessage_eq_false.mp unused

end

section

variable {change : ScheduledReminder → ScheduledReminder}

theorem Database.mem_updateReminders {choose : ScheduledReminder → Bool} :
    reminder ∈ (start.updateReminders choose change).scheduledReminders ↔
      ∃ old ∈ start.scheduledReminders, (if choose old then change old else old) = reminder :=
  mem_map

def Database.Knows (db : Database) (id : String) : Prop :=
  ∃ reminder ∈ db.scheduledReminders, reminder.id = id

structure Rewrites (change : ScheduledReminder → ScheduledReminder) : Prop where
  id : ∀ row, (change row).id = row.id
  interval : ∀ row, (change row).recurringIntervalSeconds = row.recurringIntervalSeconds
  tidy : ∀ row, (change row).tidy = change row

section

variable {choose : ScheduledReminder → Bool} {after : Database} (rewrites : Rewrites change)
  (updated : after.scheduledReminders = (start.updateReminders choose change).scheduledReminders)
include rewrites updated

theorem Rewrites.known (hk : start.Knows id) : after.Knows id := by
  obtain ⟨_, hm, hs⟩ := hk
  unfold Database.Knows
  rw [updated]
  refine ⟨_, Database.mem_updateReminders.mpr ⟨_, hm, rfl⟩, ?_⟩
  split
  · exact (rewrites.id _).trans hs
  · exact hs

theorem Rewrites.sound (hso : start.Sound) : after.Sound := by
  refine ⟨?_, ?_, ?_⟩ <;> rw [updated]
  · unfold Database.updateReminders
    rw [map_map, map_congr_left (g := ScheduledReminder.id)]
    · exact hso.ids
    intro reminder _
    change (if choose reminder then change reminder else reminder).id = reminder.id
    split
    · exact rewrites.id _
    · rfl
  · intro reminder hm
    obtain ⟨old, ht, rfl⟩ := Database.mem_updateReminders.mp hm
    split
    · exact rewrites.tidy old
    · exact hso.tidy old ht
  · intro reminder hm
    obtain ⟨old, ht, rfl⟩ := Database.mem_updateReminders.mp hm
    split
    · rw [rewrites.interval old]
      exact hso.positive old ht
    · exact hso.positive old ht

end

theorem rewrites_deactivation :
    Rewrites fun reminder : ScheduledReminder => { reminder with isActive := false } :=
  ⟨fun _ => rfl, fun _ => rfl, fun _ => by simp [ScheduledReminder.tidy]⟩

section

variable {now : Int} {recurring : Option Int}
  (computed : claimedRow localtime now recurring = .ok change)
include computed

theorem claimedRow_ok :
    (recurring = none ∧ change = fun row => { row with fired := true, isActive := false }) ∨
      ∃ interval here, recurring = some interval ∧ localNowNaive localtime now = some here ∧
        change = fun row =>
          { row with
            fireAt := pythonCompatibleReminderTimestamp (here + interval * nanosPerSecond)
            fired := false
            isActive := true } := by
  unfold claimedRow at computed
  split at computed
  · cases computed
    exact .inl ⟨rfl, rfl⟩
  rename_i interval
  split at computed
  · cases computed
  rename_i here local_
  split at computed
  · cases computed
  rename_i next_ added
  cases computed
  unfold checkedAdd at added
  dsimp only at added
  split at added
  · cases added
    exact .inr ⟨_, here, rfl, local_, rfl⟩
  · cases added

theorem claimedRow_rewrites : Rewrites change := by
  rcases claimedRow_ok computed with ⟨_, rfl⟩ | ⟨_, _, _, _, rfl⟩
  · exact ⟨fun _ => rfl, fun _ => rfl, fun _ => by simp [ScheduledReminder.tidy]⟩
  · exact ⟨fun _ => rfl, fun _ => rfl, fun _ => by simp [ScheduledReminder.tidy]⟩

end

inductive Edited (before : Database) : Database → Prop
  | same : Edited before before
  | inserted (reminder : ScheduledReminder)
      (fresh : ∀ old ∈ before.scheduledReminders, old.id ≠ reminder.id)
      (tidy : reminder.tidy = reminder)
      (positive : ∀ interval, reminder.recurringIntervalSeconds = some interval → 1 ≤ interval) :
      Edited before (before.insertReminder reminder)
  | deactivated (reminderId : String) : Edited before (before.deactivate reminderId)

theorem Database.Sound.edited (hso : start.Sound) (edited : Edited start after) : after.Sound := by
  cases edited with
  | same => exact hso
  | inserted _ hfr tidy hpo =>
    refine ⟨nodup_map_snoc hso.ids hfr, ?_, ?_⟩
    · intro other hm
      rcases mem_snoc.mp hm with old | rfl
      · exact hso.tidy _ old
      · exact tidy
    · intro other hm
      rcases mem_snoc.mp hm with old | rfl
      · exact hso.positive _ old
      · exact hpo
  | deactivated => exact rewrites_deactivation.sound rfl hso

theorem Database.Sound.claimed (hso : start.Sound) {draw : Draw}
    {delivery : ScheduledReminderDelivery}
    (claimed : Claimed localtime draw now start delivery after) : after.Sound := by
  obtain ⟨_, computed, updated⟩ := claimed.updated
  exact (claimedRow_rewrites computed).sound updated hso

end

section

/-- The reminder has a row, and no row of it is active. -/
def Database.Barred (db : Database) (id : String) : Prop :=
  (∃ reminder ∈ db.scheduledReminders, reminder.id = id) ∧
    ∀ reminder ∈ db.scheduledReminders, reminder.id = id → reminder.isActive = false

/-- The reminder has a row, and every row of it is due at least a second after the instant. -/
def Database.Spent (localtime : Int → Option Int) (now : Int) (db : Database) (id : String) : Prop :=
  (∃ reminder ∈ db.scheduledReminders, reminder.id = id) ∧
    ∀ reminder ∈ db.scheduledReminders, reminder.id = id →
      (reminder.recurringIntervalSeconds = some 1 → now % 1000 = 0) ∧
        ∃ fireAt, reminder.fireAt = .naive fireAt ∧
          ∀ here, localNowNaive localtime now = some here → here + nanosPerSecond ≤ fireAt

variable {after : Database} {id : String} {reminder : ScheduledReminder} {now : Int} {draw : Draw}
  {delivery : ScheduledReminderDelivery}

theorem Edited.known (edited : Edited start after) (hk : start.Knows id) : after.Knows id := by
  cases edited with
  | same => exact hk
  | inserted =>
    obtain ⟨_, hm, hs⟩ := hk
    exact ⟨_, mem_append_left _ hm, hs⟩
  | deactivated => exact rewrites_deactivation.known rfl hk

theorem Edited.old (edited : Edited start after) (hk : start.Knows id)
    (hm : reminder ∈ after.scheduledReminders) (hs : reminder.id = id) :
    ∃ old ∈ start.scheduledReminders, old.id = id ∧
      (reminder = old ∨ reminder = { old with isActive := false }) := by
  cases edited with
  | same => exact ⟨_, hm, hs, .inl rfl⟩
  | inserted _ hfr =>
    rcases mem_snoc.mp hm with old | new
    · exact ⟨_, old, hs, .inl rfl⟩
    · obtain ⟨_, ht, hna⟩ := hk
      rw [new] at hs
      exact absurd (hna.trans hs.symm) (hfr _ ht)
  | deactivated =>
    obtain ⟨old, ht, rfl⟩ := Database.mem_updateReminders.mp hm
    split at hs
    · next chosen => exact ⟨old, ht, hs, .inr (if_pos chosen)⟩
    · next spared => exact ⟨old, ht, hs, .inl (if_neg spared)⟩

theorem Database.Barred.edited (barred : start.Barred id)
    (edited : Edited start after) : after.Barred id := by
  refine ⟨edited.known barred.1, ?_⟩
  intro _ hm hs
  obtain ⟨_, ht, hna, rfl | rfl⟩ := edited.old barred.1 hm hs
  · exact barred.2 _ ht hna
  · rfl

theorem Database.Spent.edited (spent : start.Spent localtime now id)
    (edited : Edited start after) : after.Spent localtime now id := by
  refine ⟨edited.known spent.1, ?_⟩
  intro _ hm hs
  obtain ⟨old, ht, hna, rfl | rfl⟩ := edited.old spent.1 hm hs
  · exact spent.2 _ ht hna
  · exact spent.2 old ht hna

theorem localNowNaive_mod {now here : Int} (local_ : localNowNaive localtime now = some here) :
    here % 1000 = now % 1000 := by
  obtain ⟨_, _, rfl⟩ := Option.map_eq_some_iff.mp local_
  unfold nanosPerSecond
  omega

theorem wholeSeconds_nonneg {nanos : Int} : 0 ≤ wholeSeconds nanos ↔ -nanosPerSecond < nanos := by
  unfold wholeSeconds nanosPerSecond
  rw [Int.tdiv_eq_ediv]
  split
  · omega
  · rw [show Int.sign 1000000000 = 1 from rfl]
    omega

theorem mayClaim_eq_true (taken : mayClaim localtime now reminder) :
    reminder.isActive ∧ scheduledReminderIsDue localtime reminder.fireAt now := by
  unfold mayClaim at taken
  revert taken
  cases reminder.isActive <;> cases scheduledReminderIsDue localtime reminder.fireAt now <;> simp

theorem due_naive {fireAt now : Int} : scheduledReminderIsDue localtime (.naive fireAt) now ↔
      ∃ here, localNowNaive localtime now = some here ∧ fireAt - nanosPerSecond < here := by
  unfold scheduledReminderIsDue scheduledReminderElapsedSeconds
  rcases local_ : localNowNaive localtime now with _ | here
  · simp
  · simp only [Option.map_some, Option.any_some, decide_eq_true_eq, wholeSeconds_nonneg,
      Option.some.injEq, exists_eq_left']
    omega

theorem Claimed.row (claimed : Claimed localtime draw now start delivery after)
    (hm : reminder ∈ after.scheduledReminders) :
    reminder ∈ start.scheduledReminders ∧
        (reminder.id ≠ delivery.reminder.id ∨ reminder.isActive = false) ∨
      ∃ old ∈ start.scheduledReminders, ∃ change, old.id = delivery.reminder.id ∧
        claimedRow localtime now delivery.reminder.recurringIntervalSeconds = .ok change ∧
        reminder = change old := by
  obtain ⟨change, computed, updated⟩ := claimed.updated
  rw [updated] at hm
  obtain ⟨old, ht, rfl⟩ := Database.mem_updateReminders.mp hm
  split
  · next chosen =>
      simp only [Bool.and_eq_true, decide_eq_true_eq] at chosen
      exact .inr ⟨old, ht, change, chosen.1, computed, rfl⟩
  rename_i spared
  refine .inl ⟨ht, ?_⟩
  simp only [Bool.and_eq_true, decide_eq_true_eq, not_and, Bool.not_eq_true] at spared
  by_cases hs : old.id = delivery.reminder.id
  · exact .inr (spared hs)
  · exact .inl hs

theorem Claimed.known (claimed : Claimed localtime draw now start delivery after)
    (hk : start.Knows id) : after.Knows id := by
  obtain ⟨_, computed, updated⟩ := claimed.updated
  exact (claimedRow_rewrites computed).known updated hk

theorem Database.Barred.claimed (barred : start.Barred id)
    (claimed : Claimed localtime draw now start delivery after) :
    delivery.reminder.id ≠ id ∧ after.Barred id := by
  have other : delivery.reminder.id ≠ id := by
    intro hs
    have active := (mayClaim_eq_true claimed.due).1
    rw [barred.2 delivery.reminder claimed.member hs] at active
    cases active
  refine ⟨other, claimed.known barred.1, ?_⟩
  intro _ hm hs
  rcases claimed.row hm with ⟨ht, _⟩ | ⟨_, ht, _, hna, computed, rfl⟩
  · exact barred.2 _ ht hs
  · rcases claimedRow_ok computed with ⟨_, rfl⟩ | ⟨_, _, _, _, rfl⟩
    · exact absurd (hna.symm.trans hs) other
    · exact absurd (hna.symm.trans hs) other

theorem next_fireAt {now here due interval : Int} (hpo : 1 ≤ interval)
    (rounds : interval = 1 → now % 1000 = 0) (local_ : localNowNaive localtime now = some here)
    (later : here ≤ due) :
    here + nanosPerSecond ≤ (due + interval * nanosPerSecond) / 1000 * 1000 := by
  have _ := localNowNaive_mod local_
  unfold nanosPerSecond
  by_cases one : interval = 1
  · omega
  · omega

theorem Database.Spent.claimed (hso : start.Sound) (spent : start.Spent localtime now id)
    {again : Int} (claimed : Claimed localtime draw again start delivery after) :
    after.Spent localtime now id := by
  refine ⟨claimed.known spent.1, ?_⟩
  intro reminder hm hs
  rcases claimed.row hm with ⟨ht, _⟩ | ⟨old, ht, _, hna, computed, rfl⟩
  · exact spent.2 _ ht hs
  · have only : old = delivery.reminder := inj_on_of_nodup_map hso.ids ht claimed.member hna
    rcases claimedRow_ok computed with ⟨_, rfl⟩ | ⟨_, _, recurring, local_, rfl⟩
    · exact spent.2 old ht hs
    · obtain ⟨rounds, _, hst, ahead⟩ := spent.2 old ht hs
      rw [← only] at recurring
      refine ⟨rounds, _, rfl, ?_⟩
      intro hh hereIs
      -- The claim was made when the reminder was due, so after the instant that it is spent for.
      have due := (mayClaim_eq_true claimed.due).2
      rw [← only, hst] at due
      obtain ⟨_, otherIs, _⟩ := due_naive.mp due
      rw [local_] at otherIs
      cases otherIs
      have _ := ahead hh hereIs
      exact next_fireAt (hso.positive old ht _ recurring)
        (fun one => rounds (one ▸ recurring)) hereIs (by omega)

end

section

inductive Moves (localtime : Int → Option Int) (before : Database) : Outcome → Database → Prop
  | edited {outcome : Outcome} {after : Database} (edited : Edited before after)
      (uncancelled : ∀ reminder, outcome ≠ .cancelled reminder)
      (unclaimed : ∀ delivery now, outcome ≠ .claimed delivery now) :
      Moves localtime before outcome after
  | cancelled (reminder : ScheduledReminder)
      (known : ∃ row ∈ before.scheduledReminders, row.id = reminder.id) :
      Moves localtime before (.cancelled reminder) (before.deactivate reminder.id)
  | claimed {draw : Draw} {now : Int} {delivery : ScheduledReminderDelivery} {after : Database}
      (claimed : Claimed localtime draw now before delivery after) :
      Moves localtime before (.claimed delivery now) after

structure Desk.Sound (desk : Desk) : Prop where
  db : desk.db.Sound
  known : ∀ reminder ∈ desk.cancelling, ∃ row ∈ desk.db.scheduledReminders, row.id = reminder.id

theorem reminderRow_ok {request : ReminderRequest}
    (made : reminderRow localtime now id request = .ok reminder) :
    (reminder.id = id ∧ reminder.tidy = reminder ∧
      ∀ interval, reminder.recurringIntervalSeconds = some interval → 1 ≤ interval) ∧
    (reminder.isActive ∧ reminder.fired = false) ∧
    ∃ here, localNowNaive localtime now = some here ∧ reminder.fireAt =
      .naive ((here + request.delaySeconds * nanosPerSecond) / 1000 * 1000) := by
  unfold reminderRow at made
  split at made
  · cases made
  split at made
  · cases made
  split at made
  · cases made
  next hpo =>
    rcases delay : u64ToI64 request.delaySeconds with _ | delaySeconds <;> rw [delay] at made
    · cases made
    rcases recurring : u64ToI64? request.recurringIntervalSeconds with _ | interval <;>
      rw [recurring] at made
    · cases made
    dsimp only [bind, Except.bind] at made
    split at made
    · cases made
    rename_i here local_
    split at made
    · cases made
    rename_i fireAt sum
    split at made
    · cases made
    cases made
    have seconds : delaySeconds = request.delaySeconds := by
      unfold u64ToI64 at delay
      split at delay <;> cases delay
      rfl
    have fires : fireAt = here + request.delaySeconds * nanosPerSecond := by
      unfold checkedAdd at sum
      dsimp only at sum
      split at sum <;> cases sum
      rw [seconds]
    refine ⟨⟨rfl, by simp [ScheduledReminder.tidy], ?_⟩, ⟨rfl, rfl⟩, here, local_,
      by rw [← fires]; rfl⟩
    rintro seconds rfl
    obtain ⟨value, given, rfl⟩ := Option.map_eq_some_iff.mp (u64ToI64?_ok recurring).symm
    rw [given] at hpo
    have nonzero : value ≠ 0 := fun zero => hpo (congrArg some zero)
    exact Int.ofNat_le.mpr (Nat.one_le_iff_ne_zero.mpr nonzero)

theorem ends_schedule (hso : start.Sound) (now : Int) (id : String) (request : ReminderRequest) :
    Ends start (scheduleReminder localtime now id request) (fun _ after => Edited start after)
      (Edited start) := by
  refine ends_ofExcept_bind .same ?_
  intro row hs
  obtain ⟨⟨hna, tidy, hpo⟩, -⟩ := reminderRow_ok hs
  refine ends_opened hso .same (ends_observe_bind ?_)
  split
  · exact ends_fail .same
  rename_i missing
  have hfr := Database.scheduledReminder_none (by simpa using missing)
  have inserted : Edited start (start.insertReminder row) :=
    .inserted row (fun _ hm => hna ▸ hfr _ hm) tidy hpo
  refine ends_call_bind .same (ends_bind (ends_select inserted) ?_)
  rintro _ _ ⟨rfl, rfl⟩
  split
  · exact ends_fail inserted
  · exact ends_pure inserted

theorem ends_findReminderToCancel (hso : start.Sound) (reminderId : String) :
    Ends start (findReminderToCancel reminderId)
      (fun hf after => hf = start.scheduledReminder reminderId ∧ after = start)
      fun after => after = start :=
  ends_opened hso rfl (ends_select rfl)

theorem ends_deactivate (hso : start.Sound) (reminderId : String) :
    Ends start (deactivateScheduledReminder reminderId) (fun _ after => Edited start after)
      (Edited start) := by
  refine ends_opened hso .same (ends_observe_bind (ends_call_bind .same ?_))
  exact ends_pure (.deactivated _)

theorem Moves.known {outcome : Outcome}
    (moves : Moves localtime start outcome after) (hk : start.Knows id) :
    after.Knows id := by
  cases moves with
  | edited edited => exact edited.known hk
  | cancelled reminder => exact (Edited.deactivated reminder.id).known hk
  | claimed claimed => exact claimed.known hk

theorem Database.Sound.moves (hso : start.Sound) {outcome : Outcome}
    (moves : Moves localtime start outcome after) : after.Sound := by
  cases moves with
  | edited edited => exact hso.edited edited
  | cancelled reminder => exact hso.edited (.deactivated reminder.id)
  | claimed claimed => exact hso.claimed claimed

theorem stepReminders_moves (hso : desk.Sound) (event : List Fate × ReminderEvent) :
    Moves localtime desk.db (stepReminders localtime desk event).2
      (stepReminders localtime desk event).1.db := by
  obtain ⟨fates, event⟩ := event
  cases event with
  | schedule now id request =>
    have ran := perform_of_ends (ends_schedule hso.db now id _ :
      Ends desk.db (scheduleReminder localtime now id request) _ _) fates
    rcases ran with ⟨reminder, answered, edited⟩ | ⟨answered, edited⟩
    · refine .edited edited ?_ ?_ <;> simp [stepReminders, answered]
    · refine .edited edited ?_ ?_ <;> simp [stepReminders, answered]
  | cancel reminderId =>
    rcases perform_of_ends (ends_findReminderToCancel hso.db reminderId) fates with
      ⟨hf, answered, _, hs⟩ | ⟨answered, hs⟩
    · refine .edited (hs ▸ .same) ?_ ?_ <;> cases hf <;> simp [stepReminders, answered]
    · refine .edited (hs ▸ .same) ?_ ?_ <;> simp [stepReminders, answered]
  | finishCancel index =>
    rcases hf : desk.cancelling[index]? with _ | reminder
    · rw [stepReminders, hf]
      exact .edited .same (by simp) (by simp)
    · have hmk : Ends desk.db (cancelScheduledReminder reminder.id)
          (fun _ after => after = desk.db.deactivate reminder.id) fun after => after = desk.db :=
        ends_call rfl rfl
      rw [stepReminders, hf]
      rcases perform_of_ends hmk fates with ⟨_, answered, after⟩ | ⟨answered, after⟩
      · dsimp only
        rw [answered, after]
        exact .cancelled _ (hso.known _ (mem_of_getElem? hf))
      · dsimp only
        rw [answered, after]
        exact .edited .same (by simp) (by simp)
  | deactivate reminderId =>
    rcases perform_of_ends (ends_deactivate hso.db reminderId) fates with
      ⟨_, answered, edited⟩ | ⟨answered, edited⟩
    · refine .edited edited ?_ ?_ <;> simp [stepReminders, answered]
    · refine .edited edited ?_ ?_ <;> simp [stepReminders, answered]
  | claim draw reminderId now =>
    have ran := perform_of_ends (ends_claim hso.db _ _ now :
      Ends desk.db (claimDueScheduledReminder localtime draw reminderId now) _ _) fates
    rw [stepReminders]
    dsimp only
    rcases ran with ⟨_ | _, answered, after⟩ | ⟨answered, after⟩
    · rw [answered, after]
      exact .edited .same (by simp) (by simp)
    · rw [answered]
      exact .claimed after.2
    · rw [answered, after]
      exact .edited .same (by simp) (by simp)

theorem Desk.Sound.step (hso : desk.Sound) (event : List Fate × ReminderEvent) :
    (stepReminders localtime desk event).1.Sound := by
  have moves : Moves localtime desk.db _ _ := stepReminders_moves hso event
  refine ⟨hso.db.moves moves, ?_⟩
  have kept : ∀ reminder ∈ desk.cancelling, ∃ row ∈
      (stepReminders localtime desk event).1.db.scheduledReminders, row.id = reminder.id :=
    fun _ hm => moves.known (hso.known _ hm)
  obtain ⟨fates, event⟩ := event
  cases event with
  | schedule | deactivate | claim => exact kept
  | cancel reminderId =>
    intro reminder hm
    rw [stepReminders] at hm
    rcases mem_append.mp hm with old | new
    · exact kept _ old
    · refine moves.known ?_
      rcases perform_of_ends (ends_findReminderToCancel hso.db reminderId) fates with
        ⟨hf, answered, rfl, _⟩ | ⟨answered, _⟩
      · rw [answered] at new
        obtain ⟨ht, _⟩ := Database.scheduledReminder_some
          (by simpa using new : desk.db.scheduledReminder _ = some _)
        exact ⟨_, ht, rfl⟩
      · rw [answered] at new
        cases new
  | finishCancel index =>
    rcases hf : desk.cancelling[index]? with _ | _
    · rw [stepReminders, hf]
      exact hso.known
    · rw [stepReminders, hf] at kept ⊢
      intro reminder hm
      exact kept _ (mem_of_mem_eraseIdx hm)

end

section

def Outcome.cancels (id : String) : Outcome → Bool
  | .cancelled reminder => reminder.id = id
  | _ => false

def Outcome.claims (id : String) : Outcome → Bool
  | .claimed delivery _ => delivery.reminder.id = id
  | _ => false

def Outcome.claimsOneShot (id : String) : Outcome → Bool
  | .claimed delivery _ =>
    decide (delivery.reminder.id = id) && delivery.reminder.recurringIntervalSeconds.isNone
  | _ => false

def Outcome.claimsAt (id : String) (now : Int) : Outcome → Bool
  | .claimed delivery instant => delivery.reminder.id = id && decide (instant = now)
  | _ => false

variable {outcome : Outcome} {after : Database}

theorem Moves.barred (moves : Moves localtime start outcome after) (barred : start.Barred id) :
    outcome.claims id = false ∧ after.Barred id := by
  cases moves with
  | edited edited _ unclaimed =>
    refine ⟨?_, barred.edited edited⟩
    cases outcome with
    | claimed _ now => exact absurd rfl (unclaimed _ now)
    | _ => rfl
  | cancelled reminder => exact ⟨rfl, barred.edited (.deactivated reminder.id)⟩
  | claimed claimed =>
    obtain ⟨other, still⟩ := barred.claimed claimed
    exact ⟨decide_eq_false other, still⟩

theorem Moves.spent (hso : start.Sound) (moves : Moves localtime start outcome after)
    (spent : start.Spent localtime now id) :
    outcome.claimsAt id now = false ∧ after.Spent localtime now id := by
  cases moves with
  | edited edited _ unclaimed =>
    refine ⟨?_, spent.edited edited⟩
    cases outcome with
    | claimed delivery => exact absurd rfl (unclaimed _ _)
    | _ => rfl
  | cancelled reminder => exact ⟨rfl, spent.edited (.deactivated reminder.id)⟩
  | @claimed _ _ delivery _ claimed =>
    refine ⟨?_, spent.claimed hso claimed⟩
    by_contra again
    simp only [Outcome.claimsAt, Bool.and_eq_true, decide_eq_true_eq, Bool.not_eq_false] at again
    obtain ⟨hs, rfl⟩ := again
    obtain ⟨_, _, hst, ahead⟩ := spent.2 delivery.reminder claimed.member hs
    have due := (mayClaim_eq_true claimed.due).2
    rw [hst] at due
    obtain ⟨hh, hereIs, _⟩ := due_naive.mp due
    have _ := ahead hh hereIs
    omega

/-- What an answer leaves in the database: a cancelled or used-up reminder is inactive, and a
recurring one is not due at the instant of its claim. -/
def Outcome.Mark (localtime : Int → Option Int) : Outcome → Desk → Prop
  | .cancelled reminder, desk => desk.db.Barred reminder.id
  | .claimed delivery now, desk =>
    match delivery.reminder.recurringIntervalSeconds with
    | none => desk.db.Barred delivery.reminder.id
    | some interval => (interval = 1 → now % 1000 = 0) →
        desk.db.Spent localtime now delivery.reminder.id
  | _, _ => True

structure Outcome.Agree (earlier later : Outcome) : Prop where
  cancelled : ∀ id, earlier.cancels id = true → later.claims id = false
  oneShot : ∀ id, earlier.claimsOneShot id = true → later.claims id = false
  recurring : ∀ delivery now, earlier = .claimed delivery now →
    (delivery.reminder.recurringIntervalSeconds = some 1 → now % 1000 = 0) →
      later.claimsAt delivery.reminder.id now = false

theorem Outcome.claimsAt_of_claims
    (other : outcome.claims id = false) : outcome.claimsAt id now = false := by
  cases outcome with
  | claimed =>
    rw [claims] at other
    rw [claimsAt, other, Bool.false_and]
  | _ => rfl

theorem Moves.agree (hso : start.Sound)
    (moves : Moves localtime start outcome after) {earlier : Outcome} {cancelling : List ScheduledReminder}
    (hmk : earlier.Mark localtime ⟨start, cancelling⟩) : earlier.Agree outcome := by
  cases earlier with
  | cancelled =>
    refine ⟨?_, ?_, ?_⟩
    · intro id cancels
      rw [← of_decide_eq_true cancels]
      exact (moves.barred hmk).1
    · intro id h
      cases h
    · intro delivery now h
      cases h
  | claimed delivery =>
    rw [Outcome.Mark] at hmk
    refine ⟨?_, ?_, ?_⟩
    · intro id h
      cases h
    · intro id oneShot
      simp only [Outcome.claimsOneShot, Bool.and_eq_true, decide_eq_true_eq,
        Option.isNone_iff_eq_none] at oneShot
      rw [oneShot.2] at hmk
      rw [← oneShot.1]
      exact (moves.barred hmk).1
    · rintro _ _ ⟨⟩ rounds
      rcases recurring : delivery.reminder.recurringIntervalSeconds with _ | _
      · rw [recurring] at hmk
        exact Outcome.claimsAt_of_claims (moves.barred hmk).1
      · rw [recurring] at hmk rounds
        exact (moves.spent hso (hmk fun one => rounds (congrArg some one))).1
  | _ =>
    refine ⟨?_, ?_, ?_⟩
    · intro id h
      cases h
    · intro id h
      cases h
    · intro delivery now h
      cases h

theorem Moves.mark_lasts (hso : start.Sound) {outcome earlier : Outcome}
    (moves : Moves localtime start outcome after) {before later : List ScheduledReminder}
    (hmk : earlier.Mark localtime ⟨start, before⟩) : earlier.Mark localtime ⟨after, later⟩ := by
  cases earlier with
  | cancelled => exact (moves.barred hmk).2
  | claimed =>
    rw [Outcome.Mark] at hmk ⊢
    split at hmk
    · exact (moves.barred hmk).2
    · exact fun rounds => (moves.spent hso (hmk rounds)).2
  | _ => trivial

theorem Moves.marks (hso : start.Sound)
    (moves : Moves localtime start outcome after) (cancelling : List ScheduledReminder) :
    outcome.Mark localtime ⟨after, cancelling⟩ := by
  cases moves with
  | edited _ uncancelled unclaimed =>
    cases outcome with
    | cancelled reminder => exact absurd rfl (uncancelled _)
    | claimed delivery now => exact absurd rfl (unclaimed _ now)
    | _ => trivial
  | cancelled reminder hk =>
    refine ⟨(Edited.deactivated reminder.id).known hk, ?_⟩
    intro row hm hs
    obtain ⟨old, ht, rfl⟩ := Database.mem_updateReminders.mp hm
    split
    · rfl
    · next other =>
        rw [if_neg other] at hs
        exact absurd (decide_eq_true hs) other
  | @claimed _ now delivery _ claimed =>
    have hk := claimed.known ⟨delivery.reminder, claimed.member, rfl⟩
    have active := (mayClaim_eq_true claimed.due).1
    -- Every row of the reminder is the one that the claim has written.
    have hw : ∀ row ∈ after.scheduledReminders, row.id = delivery.reminder.id →
        ∃ change, claimedRow localtime now delivery.reminder.recurringIntervalSeconds = .ok change ∧
          row = change delivery.reminder := by
      intro row hm hs
      rcases claimed.row hm with ⟨ht, other | inactive⟩ |
        ⟨old, ht, change, hna, computed, rfl⟩
      · exact absurd hs other
      · rw [inj_on_of_nodup_map hso.ids ht claimed.member hs, active] at inactive
        cases inactive
      · exact ⟨change, computed, by rw [inj_on_of_nodup_map hso.ids ht claimed.member hna]⟩
    rw [Outcome.Mark]
    split
    · next oneShot =>
        refine ⟨hk, ?_⟩
        intro row hm hs
        obtain ⟨change, computed, rfl⟩ := hw row hm hs
        rcases claimedRow_ok computed with ⟨_, rfl⟩ | ⟨_, _, recurring, _, rfl⟩
        · rfl
        · rw [oneShot] at recurring
          cases recurring
    · next _ recurring =>
        intro rounds
        refine ⟨hk, ?_⟩
        intro row hm hs
        obtain ⟨change, computed, rfl⟩ := hw row hm hs
        rcases claimedRow_ok computed with ⟨oneShot, _⟩ | ⟨_, _, again, local_, rfl⟩
        · rw [oneShot] at recurring
          cases recurring
        · rw [recurring] at again
          cases again
          refine ⟨fun one => rounds (Option.some.inj (recurring.symm.trans one)), _, rfl, ?_⟩
          intro other otherIs
          rw [local_] at otherIs
          cases otherIs
          exact next_fireAt (hso.positive _ claimed.member _ recurring) rounds local_ (Int.le_refl _)

theorem answers_agree (hso : desk.Sound) (events : List (List Fate × ReminderEvent)) :
    (answers (stepReminders localtime) desk events).Pairwise Outcome.Agree := by
  have hke : ∀ (desk : Desk) event, desk.Sound → (stepReminders localtime desk event).1.Sound :=
    fun _ _ hso => hso.step _
  refine pairwise_answers (Outcome.Mark localtime) hke ?_ ?_ ?_ hso _
  · intro desk event hso
    exact (stepReminders_moves hso _).marks hso.db _
  · intro answer desk event hso hmk
    exact (stepReminders_moves hso _).mark_lasts hso.db hmk
  · intro answer desk event hso hmk
    exact (stepReminders_moves hso _).agree hso.db hmk

/-- A claim that answers with a delivery has inserted one message, and any other has done nothing. -/
def ClaimsAtomically (localtime : Int → Option Int) (db : Database) : Prop :=
  ∀ fates draw reminderId now,
    match (claimDueScheduledReminder localtime draw reminderId now).perform db fates with
    | (after, some (some delivery)) => ∃ message,
        messageRow draw delivery.queueMessageId delivery.reminder.targetSessionId
          (scheduledReminderMessage delivery.reminder) "urgent" reminderMetadata = .ok message ∧
        (∀ old ∈ db.messages, old.id ≠ message.id) ∧ after.messages = db.messages ++ [message]
    | (after, _) => after = db

theorem Database.Sound.claimsAtomically (hso : start.Sound) : ClaimsAtomically localtime start := by
  intro fates draw reminderId now
  have ran := perform_of_ends (ends_claim hso _ _ now :
    Ends _ (claimDueScheduledReminder localtime draw reminderId now) _ _) fates
  rcases result : (claimDueScheduledReminder localtime draw reminderId now).perform start fates with
    ⟨_, answered⟩
  rw [result] at ran
  rcases ran with ⟨_ | _, hs, holds⟩ | ⟨hs, holds⟩
  · cases hs
    exact holds
  · cases hs
    obtain ⟨_, made, hfr, inserted⟩ := holds.2.inserted
    exact ⟨_, by rw [holds.2.named]; exact made, hfr, inserted⟩
  · cases hs
    exact holds

/-- In every run, a claim makes one message or does nothing; a one-shot reminder makes one message at
most; after a cancel there is no claim; and a recurring reminder is not claimed twice at one instant,
provided that the instant is one of whole microseconds or the interval is not one second. -/
theorem reminders_fire_once {db : Database} (sound : db.Sound)
    (events : List (List Fate × ReminderEvent)) :
    ClaimsAtomically localtime (reached (stepReminders localtime) ⟨db, []⟩ events).db ∧
      (∀ id, (answers (stepReminders localtime) ⟨db, []⟩ events).countP
        (Outcome.claimsOneShot id) ≤ 1) ∧
      (answers (stepReminders localtime) ⟨db, []⟩ events).Pairwise (fun earlier later =>
        ∀ id, earlier.cancels id = true → later.claims id = false) ∧
      ∀ id now, (now % 1000 = 0 ∨ ∀ delivery,
          Outcome.claimed delivery now ∈ answers (stepReminders localtime) ⟨db, []⟩ events →
            delivery.reminder.id = id → delivery.reminder.recurringIntervalSeconds ≠ some 1) →
        (answers (stepReminders localtime) ⟨db, []⟩ events).countP (Outcome.claimsAt id now) ≤ 1 := by
  have begins : Desk.Sound ⟨db, []⟩ := ⟨sound, by simp⟩
  have agree := @answers_agree localtime _ begins events
  refine ⟨?_, ?_, ?_, ?_⟩
  · have keeps : ∀ (desk : Desk) event, desk.Sound → (stepReminders localtime desk event).1.Sound :=
      fun desk event sound => sound.step event
    exact (reached_of_invariant keeps begins events).db.claimsAtomically
  · intro id
    refine countP_le_one (agree.imp ?_)
    intro earlier later both first
    have other := both.oneShot id first
    cases later with
    | claimed =>
      rw [Outcome.claims] at other
      rw [Outcome.claimsOneShot, other, Bool.false_and]
    | _ => rfl
  · exact agree.imp fun both => both.cancelled
  · intro id now exactly
    refine countP_le_one (List.Pairwise.imp_of_mem ?_ agree)
    intro earlier later member _ both first
    cases earlier with
    | claimed delivery instant =>
      simp only [Outcome.claimsAt, Bool.and_eq_true, decide_eq_true_eq] at first
      obtain ⟨rfl, rfl⟩ := first
      refine both.recurring delivery instant rfl ?_
      intro one
      rcases exactly with whole | slower
      · exact whole
      · exact absurd one (slower delivery member rfl)
    | _ => cases first

end

section

def emptyDatabase : Database := ⟨[], [], [], [], []⟩

theorem emptyDatabase_sound : emptyDatabase.Sound := by
  constructor <;> simp [emptyDatabase]

def greenwich : Int → Option Int := some

/-- A reminder every second, and two claims of it at one instant that is no whole microsecond. -/
def impatient (interval : Nat) : List (List Fate × ReminderEvent) :=
  [([], .schedule 0 "tick" ⟨"seat", 1, "tick", some interval⟩),
    ([], .claim ⟨"msg1", "1970-01-01T00:00:01.0000005Z", 1000000500⟩ "tick" 1000000500),
    ([], .claim ⟨"msg2", "1970-01-01T00:00:01.0000005Z", 1000000500⟩ "tick" 1000000500)]

theorem reminders_fire_once_of_minute :
    (answers (stepReminders greenwich) ⟨emptyDatabase, []⟩ (impatient 60)).countP
      (Outcome.claimsAt "tick" 1000000500) ≤ 1 := by
  refine (@reminders_fire_once greenwich emptyDatabase emptyDatabase_sound (impatient 60)).2.2.2
    "tick" 1000000500 (.inr ?_)
  intro delivery member _ one
  have slow : ∀ outcome ∈ answers (stepReminders greenwich) ⟨emptyDatabase, []⟩ (impatient 60),
      (match outcome with
        | .claimed delivery _ => decide (delivery.reminder.recurringIntervalSeconds ≠ some 1)
        | _ => true) = true := by decide +kernel
  exact of_decide_eq_true (slow _ member) one

theorem reminder_claimed_twice :
    (answers (stepReminders greenwich) ⟨emptyDatabase, []⟩ (impatient 1)).countP
      (Outcome.claimsAt "tick" 1000000500) = 2 := by
  decide +kernel

end

section

variable {t : Int} {request : ReminderRequest} {row : ScheduledReminder}

theorem localNowNaive_eq {here : Int} : localNowNaive localtime now = some here ↔
    ∃ seconds, localtime (now / nanosPerSecond) = some seconds ∧
      here = now + (seconds - now / nanosPerSecond) * nanosPerSecond := by
  unfold localNowNaive
  cases localtime (now / nanosPerSecond) with
  | none => simp
  | some seconds =>
    simp only [Option.map_some, Option.some.injEq, exists_eq_left', nanosPerSecond]
    omega

/-- A reminder is early exactly when the local time gains on the clock, between the schedule and the
claim, more than what is missing until a second before the end. -/
theorem reminder_never_early_iff {id : String} (made : reminderRow localtime t id request = .ok row) :
    (∀ now, now + nanosPerSecond < t + request.delaySeconds * nanosPerSecond →
      mayClaim localtime now row = false) ↔
    ∀ now, now + nanosPerSecond < t + request.delaySeconds * nanosPerSecond →
      ∀ first later, localtime (t / nanosPerSecond) = some first →
        localtime (now / nanosPerSecond) = some later →
          (later - now / nanosPerSecond - (first - t / nanosPerSecond)) * nanosPerSecond ≤
            t + request.delaySeconds * nanosPerSecond - nanosPerSecond - now - t % 1000 := by
  obtain ⟨-, ⟨active, unfired⟩, hh, local_, fires⟩ := reminderRow_ok made
  obtain ⟨first, read, rfl⟩ := localNowNaive_eq.mp local_
  have taken : ∀ now, mayClaim localtime now row = false ↔
      ¬scheduledReminderIsDue localtime row.fireAt now := by
    intro now
    simp [mayClaim, active, unfired]
  refine forall_congr' fun now => imp_congr_right fun soon => ?_
  rw [taken, fires, due_naive]
  simp only [localNowNaive_eq, read, Option.some.injEq]
  constructor
  · rintro early _ later rfl again
    have bound := Int.not_lt.mp fun past => early ⟨_, ⟨later, again, rfl⟩, past⟩
    simp only [nanosPerSecond] at bound ⊢
    omega
  · rintro bound ⟨_, ⟨later, again, rfl⟩, past⟩
    have most := bound first later rfl again
    simp only [nanosPerSecond] at most past
    omega

/-- Where the clocks go forward by an hour at two. -/
def summerTime (seconds : Int) : Option Int := some (if seconds < 7200 then seconds else seconds + 3600)

def nap : ScheduledReminder :=
  ⟨"nap", "seat", "wake up", .naive 10800000000000, none, false, true⟩

theorem nap_never_early : reminderRow greenwich 3600000000000 "nap" ⟨"seat", 7200, "wake up", none⟩ =
      .ok nap ∧ mayClaim greenwich 10000000000000 nap = false := by
  have made : reminderRow greenwich 3600000000000 "nap" ⟨"seat", 7200, "wake up", none⟩ = .ok nap := by
    decide +kernel
  refine ⟨made, (reminder_never_early_iff made).mpr ?_ _ (by decide)⟩
  intro now soon first later one two
  cases one
  cases two
  simp only [nanosPerSecond] at soon ⊢
  omega

/-- The reminder of two hours is taken after one. -/
theorem nap_cut_short :
    reminderRow summerTime 3600000000000 "nap" ⟨"seat", 7200, "wake up", none⟩ = .ok nap ∧
      mayClaim summerTime 7200000000000 nap := by
  decide +kernel

end

end SessionManager.Messages
