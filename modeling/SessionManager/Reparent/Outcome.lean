import SessionManager.Reparent.Replay

/-! Where the routes end up. A state of the stores is observed without its generated identifiers: the
registration of each child, the messages, and what the registry retains. The replay of an intent acts
on these observations, and acting again after a part of the replay gives the same as acting once. -/
namespace SessionManager.Reparent
open Foundation Queue List Option Function

structure Registration where
  parentSessionId : String
  periodSeconds : Int
  isActive : Bool
  deriving DecidableEq, Repr

def registration (row : ParentWakeRow) : Registration :=
  ⟨row.parentSessionId, row.periodSeconds, row.isActive⟩

structure Routing where
  registrations : String → Option Registration
  messages : String → Option MessageRow
  retainedWakes : List RetainedWake
  retainedMessages : List RetainedMessage

def routingOf (stores : Stores) : Routing where
  registrations child := (childRow stores.queue child).map registration
  messages := messageRow stores.queue
  retainedWakes := stores.registry.retainedParentWakes
  retainedMessages := stores.registry.retainedPendingMessages

def settledRouting (plan : ApplyPlan) (stores : Stores) : Routing where
  registrations child := (settledChild false plan stores.queue child).map registration
  messages := settledMessage false plan stores.queue
  retainedWakes := stores.registry.retainedParentWakes
  retainedMessages := stores.registry.retainedPendingMessages

section

def ReplayWrite.effect (write : ReplayWrite) (routing : Routing) : Routing :=
  match write with
  | .enqueue message =>
    { routing with
      messages := fun id =>
        (routing.messages id).or (if message.id = id then some message.row else none) }
  | .cancel child =>
    { routing with
      registrations := Function.update routing.registrations child
        ((routing.registrations child).map fun found => { found with isActive := false }) }
  | .insert child parent period =>
    { routing with
      registrations := Function.update routing.registrations child (some ⟨parent, period, true⟩) }

def replayEffects (writes : List ReplayWrite) (routing : Routing) : Routing :=
  writes.foldl (fun before write => write.effect before) routing

def Job.effect (env : Env) (requestId : String) (job : Job) (parent : Option String)
    (routing : Routing) : Routing :=
  { replayEffects (job.writes env requestId parent) routing with
    retainedWakes := job.retainedWakes parent routing.retainedWakes
    retainedMessages := retainOnce (job.retained env requestId parent) routing.retainedMessages }

variable (routing : Routing)

theorem enqueue_enqueue (message : DeferredMessage) :
    (ReplayWrite.enqueue message).effect ((ReplayWrite.enqueue message).effect routing) =
      (ReplayWrite.enqueue message).effect routing := by
  simp only [ReplayWrite.effect, Routing.mk.injEq, and_true, true_and]
  funext id
  rw [Option.or_assoc, Option.or_self]

theorem cancel_cancel (child : String) :
    (ReplayWrite.cancel child).effect ((ReplayWrite.cancel child).effect routing) =
      (ReplayWrite.cancel child).effect routing := by
  simp only [ReplayWrite.effect, update_self, update_idem, Option.map_map]
  rfl

variable (child parent : String) (period : Int)

theorem insert_cancel :
    (ReplayWrite.insert child parent period).effect ((ReplayWrite.cancel child).effect routing) =
      (ReplayWrite.insert child parent period).effect routing := by
  simp only [ReplayWrite.effect, update_idem]

/-- A replay that is taken up again from the start comes to the same end. -/
theorem replayEffects_again {env : Env} {requestId : String} {job : Job} {parent : Option String}
    {before after : List ReplayWrite} (split : job.writes env requestId parent = before ++ after) :
    replayEffects (job.writes env requestId parent) (replayEffects before routing) =
      replayEffects (job.writes env requestId parent) routing := by
  have sends : ∀ message, replayEffects [.enqueue message] (replayEffects [.enqueue message] routing) =
      replayEffects [.enqueue message] routing := enqueue_enqueue _
  have shape : ∀ first second, before ++ after = [first, second] →
      before = [] ∨ before = [first] ∨ before = [first, second] := by
    intro first second heq
    match before, heq with
    | [], _ => exact .inl rfl
    | [one], heq => simp_all
    | [one, two], heq => simp_all
    | one :: two :: _ :: rest, heq => simp at heq
  have hsg : ∀ first, before ++ after = [first] → before = [] ∨ before = [first] := by
    intro first heq
    match before, heq with
    | [], _ => exact .inl rfl
    | [one], heq => simp_all
    | one :: two :: rest, heq => simp at heq
  obtain ⟨key, operation, child⟩ := job
  cases operation with
  | parentWake period =>
    cases parent with
    | none =>
      have nil : before = [] := (append_eq_nil_iff.mp split.symm).1
      rw [nil]
      rfl
    | some parent =>
      have writes : Job.writes env requestId ⟨key, .parentWake period, child⟩ (some parent) =
        [.cancel child, .insert child parent period] := rfl
      rw [writes] at split ⊢
      rcases shape _ _ split.symm with hh | hh | hh <;> rw [hh]
      · rfl
      · simp only [replayEffects, foldl_cons, foldl_nil, insert_cancel]
      · simp only [replayEffects, foldl_cons, foldl_nil, insert_cancel]
        simp only [ReplayWrite.effect, update_idem]
  | taskComplete text =>
    cases parent with
    | none =>
      have nil : before = [] := (append_eq_nil_iff.mp split.symm).1
      rw [nil]
      rfl
    | some parent =>
      obtain ⟨message, writes⟩ : ∃ message,
          Job.writes env requestId ⟨key, .taskComplete text, child⟩ (some parent) =
            [.enqueue message, .cancel child] := ⟨_, rfl⟩
      rw [writes] at split ⊢
      have swap : ∀ other : Routing, (ReplayWrite.enqueue message).effect
          ((ReplayWrite.cancel child).effect other) = (ReplayWrite.cancel child).effect
              ((ReplayWrite.enqueue message).effect other) := fun _ => rfl
      rcases shape _ _ split.symm with hh | hh | hh <;> rw [hh]
      · rfl
      · simp only [replayEffects, foldl_cons, foldl_nil, enqueue_enqueue]
      · simp only [replayEffects, foldl_cons, foldl_nil, swap, enqueue_enqueue, cancel_cancel]
  | parentMessage =>
    cases parent with
    | none =>
      have nil : before = [] := (append_eq_nil_iff.mp split.symm).1
      rw [nil]
      rfl
    | some =>
      rcases hsg _ split.symm with hh | hh <;> rw [hh]
      · rfl
      · exact sends _
  | parentInput =>
    cases parent <;> rcases hsg _ split.symm with hh | hh <;> rw [hh] <;>
      first | rfl | exact sends _

end

section

variable {restore : Bool} {plan : ApplyPlan} {db : QueueDb} (ids : RowIds) {write : ReplayWrite}

/-- The write leaves the registrations that the plan routes alone. -/
def ReplayWrite.Clear (plan : ApplyPlan) : ReplayWrite → Prop
  | .enqueue _ => True
  | .cancel child | .insert child _ _ => ∀ change ∈ plan.queueRoutingChanges,
    (wakeOf change).isSome → change.childSessionId ≠ child

variable {change : RoutingChange}

theorem RowsReady.unplanned (hrd : RowsReady restore plan db) {child : String}
    (clear : ∀ change ∈ plan.queueRoutingChanges, (wakeOf change).isSome →
      change.childSessionId ≠ child)
    {row : ParentWakeRow} (hf : childRow db child = some row)
    (hm : change ∈ plan.queueRoutingChanges) {wake : ParentWakeRow}
    (hp : wakeOf change = some wake) : wake.id ≠ row.id := by
  intro hs
  obtain ⟨_, ht, hac⟩ := hrd.wakes change hm _ hp
  rw [hs, hrd.keyed.wakeRow_of_childRow hf] at ht
  cases ht
  refine clear change hm (by rw [hp]; rfl) ?_
  rw [← (wakeOf_eq_some hp).2.1, ← hac.1, (childRow_mem hf).2]

theorem wakeRow_apply_clear (clear : write.Clear plan) (hm : change ∈ plan.queueRoutingChanges)
    {wake row : ParentWakeRow} (hp : wakeOf change = some wake)
    (hf : wakeRow db wake.id = some row) (child : row.childSessionId = wake.childSessionId) :
    wakeRow (write.apply ids db) wake.id = some row := by
  have own : row.childSessionId = change.childSessionId :=
    child.trans (wakeOf_eq_some hp).2.1
  have some_ : (wakeOf change).isSome := by rw [hp]; rfl
  cases write with
  | enqueue =>
    unfold wakeRow at hf ⊢
    rw [ReplayWrite.apply, enqueued_wakes]
    exact hf
  | cancel =>
    rw [ReplayWrite.apply, wakeRow_cancelParentWake, hf, map_some, if_neg]
    exact fun hs => clear change hm some_ (own.symm.trans hs)
  | insert =>
    exact wakeRow_insertParentWake ids _ _ _ hf
      fun hs => clear change hm some_ (own.symm.trans hs)

theorem RowsReady.written (hrd : RowsReady restore plan db) (clear : write.Clear plan) :
    RowsReady restore plan (write.apply ids db) where
  keyed := ReplayWrite.apply_keyed hrd.keyed
  wakes change hm _ hp := by
    obtain ⟨row, hf, hac⟩ := hrd.wakes change hm _ hp
    exact ⟨row, wakeRow_apply_clear ids clear hm hp hf hac.1, hac⟩
  messages change hm _ hp := by
    obtain ⟨row, hf, hac⟩ := hrd.messages change hm _ hp
    exact ⟨row, ReplayWrite.messageRow_apply_of_some hf, hac⟩

theorem RouteSettled.written (hrd : RowsReady restore plan db) (clear : write.Clear plan)
    (hm : change ∈ plan.queueRoutingChanges) (hse : RouteSettled restore db change) :
    RouteSettled restore (write.apply ids db) change where
  wake wake hp := by
    obtain ⟨row, hf, fixed⟩ := hse.wake _ hp
    obtain ⟨_, ht, hac⟩ := hrd.wakes change hm _ hp
    cases ht.symm.trans hf
    exact ⟨_, wakeRow_apply_clear ids clear hm hp hf hac.1, fixed⟩
  message _ hp := by
    obtain ⟨row, hf, fixed⟩ := hse.message _ hp
    exact ⟨row, ReplayWrite.messageRow_apply_of_some hf, fixed⟩

theorem settledMessage_write (write : ReplayWrite) (hrd : RowsReady restore plan db) (id : String) :
    settledMessage restore plan (write.apply ids db) id = (settledMessage restore plan db id).or
      (match write with
        | .enqueue message => if message.id = id then some message.row else none
        | .cancel _ | .insert _ _ _ => none) := by
  unfold settledMessage
  rw [ReplayWrite.messageRow_apply]
  cases hf : messageRow db id with
  | some => rfl
  | none =>
    rw [none_or, map_none, none_or]
    cases write with
    | cancel | insert => rfl
    | enqueue =>
      dsimp only
      split
      · rename_i hs
        rw [map_some, settleMessage_unplanned]
        intro change hm other hp heq
        obtain ⟨_, ht, _⟩ := hrd.messages change hm _ hp
        have hh : other.id = id := heq.trans hs
        rw [hh, hf] at ht
        cases ht
      · rfl

theorem settledChild_write (hrd : RowsReady restore plan db) (clear : write.Clear plan)
    (child : String) :
    (settledChild restore plan (write.apply ids db) child).map registration = match write with
      | .enqueue _ => (settledChild restore plan db child).map registration
      | .cancel own => Function.update
          (fun child => (settledChild restore plan db child).map registration) own
          (((settledChild restore plan db own).map registration).map fun found =>
            { found with isActive := false }) child
      | .insert own parent period => Function.update
          (fun child => (settledChild restore plan db child).map registration) own
          (some ⟨parent, period, true⟩) child := by
  cases write with
  | enqueue =>
    simp only [settledChild, childRow, ReplayWrite.apply, enqueued_wakes]
  | cancel own =>
    simp only [settledChild, ReplayWrite.apply, childRow_cancelParentWake]
    by_cases here : child = own
    · rw [here, update_self, update_self]
      cases found : childRow db own with
      | none => rfl
      | some row =>
        have unplanned : settleWake restore plan row = row := settleWake_unplanned
          fun change member _ planned => hrd.unplanned clear found member planned
        have after : settleWake restore plan { row with isActive := false } =
            { row with isActive := false } := settleWake_unplanned
          fun change member _ planned => hrd.unplanned clear found member planned
        rw [map_some, map_some, map_some, map_some, after, unplanned]
        rfl
    · rw [update_of_ne here, update_of_ne here]
  | insert own =>
    simp only [settledChild, ReplayWrite.apply, childRow_insertParentWake]
    by_cases here : child = own
    · rw [here, update_self, update_self, map_some, settleWake_unplanned]
      · rfl
      · intro change member _ planned same
        obtain ⟨row, found, _⟩ := hrd.wakes change member _ planned
        have stored := wakeRow_mem found
        have hge : row.id = ids.next (db.wakes.map ParentWakeRow.id) :=
          stored.2.trans same
        refine ids.next_not_mem (db.wakes.map ParentWakeRow.id) ?_
        rw [← hge]
        exact mem_map_of_mem stored.1
    · rw [update_of_ne here, update_of_ne here]

theorem settledRouting_write {stores : Stores} (hrd : RowsReady false plan stores.queue)
    (clear : write.Clear plan) :
    settledRouting plan (stores.withQueue (write.apply ids stores.queue)) =
      write.effect (settledRouting plan stores) := by
  have children := settledChild_write ids hrd clear
  have messages := settledMessage_write ids write hrd
  cases write with
  | enqueue =>
    simp only [settledRouting, ReplayWrite.effect, Routing.mk.injEq]
    exact ⟨funext children, funext messages, rfl, rfl⟩
  | cancel | insert =>
    simp only [or_none] at messages
    simp only [settledRouting, ReplayWrite.effect, Routing.mk.injEq]
    exact ⟨funext children, funext messages, rfl, rfl⟩

end

end SessionManager.Reparent
