import SessionManager.Reparent.Transactions

/-! The retarget transactions of a plan. When every planned row is ready, each group of rows is
retargeted without an error, the rows that were settled stay settled, and what the tables will be once
all groups are done does not change. -/
namespace SessionManager.Reparent
open Foundation Queue List Option Fallible Option

variable {restore : Bool} {plan : ApplyPlan} {db next : QueueDb}

structure RowsReady (restore : Bool) (plan : ApplyPlan) (db : QueueDb) : Prop where
  keyed : db.Keyed
  wakes : ∀ change ∈ plan.queueRoutingChanges, ∀ wake, wakeOf change = some wake →
    ∃ row, wakeRow db wake.id = some row ∧ WakeReady wake (routeTarget restore change) row
  messages : ∀ change ∈ plan.queueRoutingChanges, ∀ message, messageOf change = some message →
    ∃ row, messageRow db message.id = some row ∧
      MessageReady message (routeTarget restore change) row

structure RouteSettled (restore : Bool) (db : QueueDb) (change : RoutingChange) : Prop where
  wake : ∀ wake, wakeOf change = some wake → ∃ row, wakeRow db wake.id = some row ∧
    retargetedWake wake (routeTarget restore change) row = row
  message : ∀ message, messageOf change = some message → ∃ row,
    messageRow db message.id = some row ∧
      retargetedMessage (routeTarget restore change) row = row

structure Retargeted (restore : Bool) (plan : ApplyPlan) (db next : QueueDb) : Prop where
  ready : RowsReady restore plan db → RowsReady restore plan next
  child : settledChild restore plan next = settledChild restore plan db
  message : settledMessage restore plan next = settledMessage restore plan db
  settled : ∀ change ∈ plan.queueRoutingChanges, RouteSettled restore db change →
    RouteSettled restore next change
  unrouted : ∀ id, (messageRow next id).map unrouted = (messageRow db id).map unrouted

theorem Retargeted.delivered (retargeted : Retargeted restore plan db next) :
    isDelivered next = isDelivered db :=
  delivered_of_unrouted retargeted.unrouted

section

variable {target : Option String} {change : RoutingChange} {wake : ParentWakeRow}
  {rows : List ParentRoutingMessageRow}

theorem mem_wakeRows : wake ∈ (groupTo restore plan target).1.wakeRows ↔
    ∃ change ∈ plan.queueRoutingChanges, routeTarget restore change = target ∧
      wakeOf change = some wake := by
  simp [groupTo, routesTo, and_assoc]

theorem mem_messageRows {message : ParentRoutingMessageRow} :
    message ∈ (groupTo restore plan target).1.messageRows ↔
      ∃ change ∈ plan.queueRoutingChanges, routeTarget restore change = target ∧
        messageOf change = some message := by
  simp [groupTo, routesTo, and_assoc]

section

variable (fits : PlanFits plan)
include fits

theorem PlanFits.wakes_apart : Set.InjOn ParentWakeRow.id
    {wake | wake ∈ (groupTo restore plan target).1.wakeRows} := by
  intro _ isOne _ isTwo hs
  obtain ⟨_, hi, -, hp⟩ := mem_wakeRows.mp isOne
  obtain ⟨_, hm, -, again⟩ := mem_wakeRows.mp isTwo
  rw [fits.same_wake hi hm hp again hs] at hp
  exact Option.some.inj (hp.symm.trans again)

theorem PlanFits.messages_apart : Set.InjOn ParentRoutingMessageRow.id
    {message | message ∈ (groupTo restore plan target).1.messageRows} := by
  intro _ isOne _ isTwo hs
  obtain ⟨_, hi, -, hp⟩ := mem_messageRows.mp isOne
  obtain ⟨_, hm, -, again⟩ := mem_messageRows.mp isTwo
  rw [fits.same_message hi hm hp again hs] at hp
  exact Option.some.inj (hp.symm.trans again)

variable (hm : change ∈ plan.queueRoutingChanges)
include hm

theorem retargetGroup_error (hp : wakeOf change = some wake)
    (unready : ∀ row, wakeRow db wake.id = some row →
      ¬WakeReady wake (routeTarget restore change) row) :
    ∃ reason, retargetParentRouting db (groupTo restore plan (routeTarget restore change)).1
      (routeTarget restore change) = .error reason := by
  cases hd : retargetParentRouting db (groupTo restore plan (routeTarget restore change)).1
      (routeTarget restore change) with
  | error reason => exact ⟨_, rfl⟩
  | ok =>
    obtain ⟨row, hf, hrd, -⟩ := retargetMessage_moves.wake fits.wakes_apart hd _
      (mem_wakeRows.mpr ⟨change, hm, rfl, hp⟩)
    exact absurd hrd (unready row hf)

variable (hd : retargetParentRouting db (groupTo restore plan target).1 target = .ok (next, rows))
include hd

theorem retargetGroup_other (hp : wakeOf change = some wake)
    (other : routeTarget restore change ≠ target) :
    wakeRow next wake.id = wakeRow db wake.id := by
  refine (retargetMessage_moves.rewritten hd).wakeRow_other ?_
  intro hli
  obtain ⟨_, hi, hs⟩ := mem_map.mp hli
  obtain ⟨_, ht, aim, again⟩ := mem_wakeRows.mp hi
  rw [fits.same_wake ht hm again hp hs] at aim
  exact other aim

theorem retargetGroup_otherMessage {message : ParentRoutingMessageRow}
    (hp : messageOf change = some message) (other : routeTarget restore change ≠ target) :
    messageRow next message.id = messageRow db message.id := by
  refine (retargetMessage_moves.rewritten hd).messageRow_other ?_
  intro hli
  obtain ⟨_, hi, hs⟩ := mem_map.mp hli
  obtain ⟨_, ht, aim, again⟩ := mem_messageRows.mp hi
  rw [fits.same_message ht hm again hp hs] at aim
  exact other aim

theorem retargetGroup_wake (hp : wakeOf change = some wake) {row : ParentWakeRow}
    (hf : wakeRow db wake.id = some row) :
    wakeRow next wake.id = some (retargetedWake wake (routeTarget restore change) row) ∨
      routeTarget restore change ≠ target ∧ wakeRow next wake.id = some row := by
  by_cases aim : routeTarget restore change = target
  · obtain ⟨_, hh, -, result⟩ := retargetMessage_moves.wake fits.wakes_apart hd _
      (mem_wakeRows.mpr ⟨change, hm, aim, hp⟩)
    cases hh.symm.trans hf
    rw [aim]
    exact .inl result
  · exact .inr ⟨aim, (retargetGroup_other fits hm hd hp aim).trans hf⟩

theorem retargetGroup_message {message : ParentRoutingMessageRow}
    (hp : messageOf change = some message) {row : MessageRow}
    (hf : messageRow db message.id = some row) :
    messageRow next message.id = some (retargetedMessage (routeTarget restore change) row) ∨
      routeTarget restore change ≠ target ∧ messageRow next message.id = some row := by
  by_cases aim : routeTarget restore change = target
  · obtain ⟨_, hh, -, result⟩ := retargetMessage_moves.message fits.messages_apart hd _
      (mem_messageRows.mpr ⟨change, hm, aim, hp⟩)
    cases hh.symm.trans hf
    rw [aim]
    exact .inl result
  · exact .inr ⟨aim, (retargetGroup_otherMessage fits hm hd hp aim).trans hf⟩

omit hm

theorem retargetGroup_child (keyed : db.Keyed) :
    settledChild restore plan next = settledChild restore plan db := by
  have hrw := retargetMessage_moves.rewritten hd
  obtain ⟨moved, hke, lookup, children⟩ := hrw.lookup
  funext child
  unfold settledChild
  rw [children]
  cases hh : childRow db child with
  | none => rfl
  | some row =>
    have hf := keyed.wakeRow_of_childRow hh
    have after : wakeRow next row.id = some (moved row) := by rw [lookup, hf, map_some]
    refine congrArg some ?_
    by_cases hp : ∃ change ∈ plan.queueRoutingChanges, ∃ wake, wakeOf change = some wake ∧
        wake.id = row.id
    · obtain ⟨change, hm, wake, hp, hs⟩ := hp
      rw [← hs] at hf after
      rcases retargetGroup_wake fits hm hd hp hf with result | ⟨-, result⟩
      · obtain heq := Option.some.inj (after.symm.trans result)
        rw [settleWake_planned fits hm hp (by rw [hke.id, hs]),
          settleWake_planned fits hm hp hs.symm, heq, retargetedWake_idem]
      · rw [Option.some.inj (after.symm.trans result)]
    · rw [hrw.wakeRow_other, hf] at after
      · rw [← Option.some.inj after]
      · intro hli
        obtain ⟨wake, hi, hs⟩ := mem_map.mp hli
        obtain ⟨change, hm, -, isPlanned⟩ := mem_wakeRows.mp hi
        exact hp ⟨change, hm, _, isPlanned, hs⟩

theorem retargetGroup_settledMessage :
    settledMessage restore plan next = settledMessage restore plan db := by
  have hrw := retargetMessage_moves.rewritten hd
  funext id
  unfold settledMessage
  by_cases hp : ∃ change ∈ plan.queueRoutingChanges, ∃ message,
      messageOf change = some message ∧ message.id = id
  · obtain ⟨change, hm, message, hp, rfl⟩ := hp
    cases hf : messageRow db message.id with
    | none =>
      have hab := hrw.unrouted message.id
      rw [hf] at hab
      rw [map_eq_none_iff.mp hab]
    | some row =>
      have own := (messageRow_mem hf).2
      rcases retargetGroup_message fits hm hd hp hf with result | ⟨-, result⟩
      · rw [result, map_some, map_some,
          settleMessage_planned fits hm hp ((retargetedMessage_id _ row).trans own),
          settleMessage_planned fits hm hp own, retargetedMessage_idem]
      · rw [result]
  · rw [hrw.messageRow_other]
    intro hli
    obtain ⟨message, hi, hs⟩ := mem_map.mp hli
    obtain ⟨change, hm, -, isPlanned⟩ := mem_messageRows.mp hi
    exact hp ⟨change, hm, _, isPlanned, hs⟩

theorem retargetGroup_retargeted (keyed : db.Keyed) : Retargeted restore plan db next where
  ready start :=
    { keyed := (retargetMessage_moves.rewritten hd).keyed start.keyed
      wakes := by
        intro change hm wake hp
        obtain ⟨row, hf, hrd⟩ := start.wakes change hm _ hp
        rcases retargetGroup_wake fits hm hd hp hf with moved | ⟨-, hs⟩
        · exact ⟨_, moved, hrd.retargeted⟩
        · exact ⟨row, hs, hrd⟩
      messages := by
        intro change hm message hp
        obtain ⟨row, hf, hrd⟩ := start.messages change hm _ hp
        rcases retargetGroup_message fits hm hd hp hf with moved | ⟨-, hs⟩
        · exact ⟨_, moved, hrd.retargeted⟩
        · exact ⟨row, hs, hrd⟩ }
  child := retargetGroup_child fits hd keyed
  message := retargetGroup_settledMessage fits hd
  settled change hm hse :=
    { wake := by
        intro wake hp
        obtain ⟨row, hf, fixed⟩ := hse.wake _ hp
        rcases retargetGroup_wake fits hm hd hp hf with moved | ⟨-, hs⟩
        · exact ⟨_, moved, retargetedWake_idem ..⟩
        · exact ⟨row, hs, fixed⟩
      message := by
        intro message hp
        obtain ⟨row, hf, fixed⟩ := hse.message _ hp
        rcases retargetGroup_message fits hm hd hp hf with moved | ⟨-, hs⟩
        · exact ⟨_, moved, retargetedMessage_idem ..⟩
        · exact ⟨row, hs, fixed⟩ }
  unrouted := (retargetMessage_moves.rewritten hd).unrouted

end

def deliveredTo (restore : Bool) (plan : ApplyPlan) (db : QueueDb) (target : Option String) :
    List ParentRoutingMessageRow :=
  (groupTo restore plan target).1.messageRows.filter (isDelivered db)

theorem retargetGroup_ok (fits : PlanFits plan) (hrd : RowsReady restore plan db)
    (target : Option String) :
    ∃ next, retargetParentRouting db (groupTo restore plan target).1 target =
        .ok (next, deliveredTo restore plan db target) ∧
      Retargeted restore plan db next ∧
      ∀ change ∈ plan.queueRoutingChanges, routeTarget restore change = target →
        RouteSettled restore next change := by
  have wakes : ∀ wake ∈ (groupTo restore plan target).1.wakeRows, ∃ row,
      wakeRow db wake.id = some row ∧ WakeReady wake target row := by
    intro wake hli
    obtain ⟨change, hm, rfl, hp⟩ := mem_wakeRows.mp hli
    exact hrd.wakes change hm _ hp
  have messages : ∀ message ∈ (groupTo restore plan target).1.messageRows, ∃ row,
      messageRow db message.id = some row ∧ MessageReady message target row := by
    intro message hli
    obtain ⟨change, hm, rfl, hp⟩ := mem_messageRows.mp hli
    exact hrd.messages change hm _ hp
  obtain ⟨⟨next, _⟩, hd⟩ :=
    retargetMessage_moves.ok fits.wakes_apart fits.messages_apart wakes messages
  refine ⟨next, ?_, retargetGroup_retargeted fits hd hrd.keyed, ?_⟩
  · rw [deliveredTo, ← retargetParentRouting_delivered hd]
    exact hd
  · intro change hm aim
    constructor
    · intro wake hp
      obtain ⟨row, hf, -⟩ := hrd.wakes change hm _ hp
      rcases retargetGroup_wake fits hm hd hp hf with moved | ⟨other, -⟩
      · exact ⟨_, moved, retargetedWake_idem ..⟩
      · exact absurd aim other
    · intro message hp
      obtain ⟨row, hf, -⟩ := hrd.messages change hm _ hp
      rcases retargetGroup_message fits hm hd hp hf with moved | ⟨other, -⟩
      · exact ⟨_, moved, retargetedMessage_idem ..⟩
      · exact absurd aim other

end

end SessionManager.Reparent
