import Mathlib.Data.List.Dedup
import SessionManager.Foundation.RowSteps
import SessionManager.Queue.Lookups
import SessionManager.Reparent.Routes

/-! The queue rows that a plan names, and what a retarget does to them. A row is ready when the
retarget accepts it and settled when the retarget would leave it as it is; a group of rows that are
all ready is retargeted without an error, and then its rows are settled. -/
namespace SessionManager.Reparent
open Foundation Queue List Fallible

variable {message : ParentRoutingMessageRow} {row : MessageRow} {wake : ParentWakeRow}

section

def wakeOf (change : RoutingChange) : Option ParentWakeRow :=
  match change.store, change.recordKind, change.expectedTargetSessionId, change.periodSeconds,
    change.priorActive with
  | .queue, .parentWake, some oldParent, some period, some active =>
    some ⟨change.recordId, change.childSessionId, oldParent, period, active⟩
  | _, _, _, _, _ => none

def messageOf (change : RoutingChange) : Option ParentRoutingMessageRow :=
  match change.store, change.recordKind, change.expectedTargetSessionId with
  | .queue, .message, some oldParent =>
    some ⟨change.recordId, change.childSessionId, oldParent, change.createsParentWake⟩
  | _, _, _ => none

variable {change : RoutingChange} {plan : ApplyPlan}

theorem wakeOf_eq_some (hp : wakeOf change = some wake) :
    wake.id = change.recordId ∧ wake.childSessionId = change.childSessionId ∧
      change.expectedTargetSessionId = some wake.parentSessionId ∧
      change.priorActive = some wake.isActive ∧ change.recordKind = .parentWake := by
  unfold wakeOf at hp
  split at hp
  · cases hp
    simp_all
  · cases hp

theorem messageOf_eq_some (hp : messageOf change = some message) :
    message.id = change.recordId ∧ message.childSessionId = change.childSessionId ∧
      change.expectedTargetSessionId = some message.parentSessionId ∧
      message.createsParentWake = change.createsParentWake ∧ change.recordKind = .message := by
  unfold messageOf at hp
  split at hp
  · cases hp
    simp_all
  · cases hp

/-- The queue changes of a plan as plans are built: each is a wake or a message, and no row is
planned twice. -/
structure PlanFits (plan : ApplyPlan) : Prop where
  rows : ∀ change ∈ plan.queueRoutingChanges,
    (wakeOf change).isSome ∨ (messageOf change).isSome
  distinct : ∀ first ∈ plan.queueRoutingChanges, ∀ second ∈ plan.queueRoutingChanges,
    first.recordKind = second.recordKind → first.recordId = second.recordId → first = second

section

variable (fits : PlanFits plan) {first second : RoutingChange}
  (one : first ∈ plan.queueRoutingChanges) (two : second ∈ plan.queueRoutingChanges)
include fits one two

theorem PlanFits.same_wake {wake other : ParentWakeRow} (hp : wakeOf first = some wake)
    (again : wakeOf second = some other) (hs : wake.id = other.id) : first = second := by
  refine fits.distinct _ one _ two ?_ ?_
  · rw [(wakeOf_eq_some hp).2.2.2.2, (wakeOf_eq_some again).2.2.2.2]
  · rw [← (wakeOf_eq_some hp).1, ← (wakeOf_eq_some again).1, hs]

theorem PlanFits.same_message
    {message other : ParentRoutingMessageRow} (hp : messageOf first = some message)
    (again : messageOf second = some other) (hs : message.id = other.id) : first = second := by
  refine fits.distinct _ one _ two ?_ ?_
  · rw [(messageOf_eq_some hp).2.2.2.2, (messageOf_eq_some again).2.2.2.2]
  · rw [← (messageOf_eq_some hp).1, ← (messageOf_eq_some again).1, hs]

end

theorem queueRoute_ok
    (fits : (wakeOf change).isSome ∨ (messageOf change).isSome) (snapshot : ParentRoutingSnapshot) :
    queueRoute snapshot change = .ok ⟨snapshot.wakeRows ++ (wakeOf change).toList,
      snapshot.messageRows ++ (messageOf change).toList⟩ := by
  obtain ⟨store, kind, _, _, old, _, active, period, _⟩ := change
  unfold wakeOf messageOf at *
  rcases store with _ | _ <;> rcases kind with _ | _ | _ <;> rcases old with _ | old <;>
    rcases period with _ | period <;> rcases active with _ | active <;>
    simp_all [queueRoute, addQueueRoute]

theorem foldlM_queueRoute {changes : List RoutingChange}
    (fits : ∀ change ∈ changes, (wakeOf change).isSome ∨ (messageOf change).isSome)
    (snapshot : ParentRoutingSnapshot) :
    changes.foldlM queueRoute snapshot = .ok ⟨snapshot.wakeRows ++ changes.filterMap wakeOf,
      snapshot.messageRows ++ changes.filterMap messageOf⟩ := by
  induction changes generalizing snapshot with
  | nil =>
    rw [filterMap_nil, filterMap_nil, append_nil, append_nil]
    rfl
  | cons change _ ih =>
    refine foldlM_cons_ok.mpr ⟨_, queueRoute_ok (fits change mem_cons_self) _, ?_⟩
    rw [ih fun _ hm => fits _ (mem_cons_of_mem _ hm)]
    cases wake : wakeOf change <;> cases message : messageOf change <;>
      simp [wake, message]

def routesTo (restore : Bool) (plan : ApplyPlan) (target : Option String) : List RoutingChange :=
  plan.queueRoutingChanges.filter fun change => routeTarget restore change = target

def groupTo (restore : Bool) (plan : ApplyPlan) (target : Option String) :
    ParentRoutingSnapshot × Option String :=
  (⟨(routesTo restore plan target).filterMap wakeOf,
    (routesTo restore plan target).filterMap messageOf⟩, target)

theorem routeGroup_ok (fits : PlanFits plan) (restore : Bool)
    (target : Option String) : routeGroup restore plan target = .ok (groupTo restore plan target) := by
  have hi : ∀ change ∈ routesTo restore plan target,
      (wakeOf change).isSome ∨ (messageOf change).isSome :=
    fun change hm => fits.rows change (mem_of_mem_filter hm)
  exact bind_eq_ok.mpr ⟨_, foldlM_queueRoute hi ⟨[], []⟩, rfl⟩

theorem queueRouteGroupsFromPlan_ok (fits : PlanFits plan) (restore : Bool) :
    queueRouteGroupsFromPlan plan restore =
      .ok ((routeTargets restore plan).map (groupTo restore plan)) := by
  refine bind_eq_ok.mpr ⟨_, foldlM_queueRoute fits.rows ⟨[], []⟩, mapM_ok ?_⟩
  intro _ _
  exact routeGroup_ok fits _ _

theorem mem_routeTargets {restore : Bool} {target : Option String} :
    target ∈ routeTargets restore plan ↔
      ∃ change ∈ plan.queueRoutingChanges, routeTarget restore change = target := by
  rw [routeTargets, mem_insertionSort, mem_dedup, mem_map]

end

section

/-- The rows that the retarget of a wake accepts. -/
def WakeReady (wake : ParentWakeRow) (target : Option String) (row : ParentWakeRow) : Prop :=
  row.childSessionId = wake.childSessionId ∧ row.periodSeconds = wake.periodSeconds ∧
    ((row.parentSessionId = wake.parentSessionId ∧ row.isActive = wake.isActive) ∨
      (row.parentSessionId = wake.parentSessionId ∧ row.isActive = false) ∨
      (target = some row.parentSessionId ∧ row.isActive = wake.isActive))

def retargetedWake (wake : ParentWakeRow) (target : Option String) (row : ParentWakeRow) :
    ParentWakeRow :=
  match target with
  | some parent => { row with parentSessionId := parent, isActive := wake.isActive }
  | none => { row with isActive := false }

theorem retargetedWake_keepsKeys (wake : ParentWakeRow) (target : Option String) :
    KeepsKeys (retargetedWake wake target) := by
  cases target <;> exact ⟨fun _ => rfl, fun _ => rfl⟩

theorem retargetedWake_idem (wake : ParentWakeRow) (target : Option String) (row : ParentWakeRow) :
    retargetedWake wake target (retargetedWake wake target row) =
      retargetedWake wake target row := by
  cases target <;> rfl

variable {target : Option String}

theorem WakeReady.retargeted {wake row : ParentWakeRow}
    (hrd : WakeReady wake target row) : WakeReady wake target (retargetedWake wake target row) := by
  obtain ⟨child, period, place⟩ := hrd
  refine ⟨?_, ?_, ?_⟩
  · rw [(retargetedWake_keepsKeys _ _).child, child]
  · cases target <;> exact period
  · cases target with
    | some => exact .inr (.inr ⟨rfl, rfl⟩)
    | none =>
      rcases place with ⟨parent, _⟩ | ⟨parent, _⟩ | ⟨h, _⟩
      · exact .inr (.inl ⟨parent, rfl⟩)
      · exact .inr (.inl ⟨parent, rfl⟩)
      · cases h

/-- The rows that the retarget of a message accepts. -/
def MessageReady (message : ParentRoutingMessageRow) (target : Option String) (row : MessageRow) :
    Prop :=
  row.targetSessionId = message.childSessionId ∧
    (row.parentSessionId = some message.parentSessionId ∨ row.parentSessionId = none ∨
      row.parentSessionId = target)

def retargetedMessage (target : Option String) (row : MessageRow) : MessageRow :=
  if row.delivered then row else { row with parentSessionId := target }

theorem retargetedMessage_idem (target : Option String) (row : MessageRow) :
    retargetedMessage target (retargetedMessage target row) = retargetedMessage target row := by
  unfold retargetedMessage
  split
  · rfl
  · rename_i waiting
    simp [waiting]

@[simp] theorem retargetedMessage_id (target : Option String) (row : MessageRow) :
    (retargetedMessage target row).id = row.id := by
  unfold retargetedMessage
  split <;> rfl

theorem MessageReady.retargeted (hrd : MessageReady message target row) :
    MessageReady message target (retargetedMessage target row) := by
  unfold retargetedMessage
  split
  · exact hrd
  · exact ⟨hrd.1, .inr (.inr rfl)⟩

variable {db : QueueDb}

theorem retargetWake_eq_ok {next : QueueDb} : retargetWake target db wake = .ok next ↔
      (∃ row, wakeRow db wake.id = some row ∧ WakeReady wake target row) ∧
        updateWakes db (fun row => row.id = wake.id) (retargetedWake wake target) = next := by
  unfold retargetWake
  cases hf : wakeRow db wake.id with
  | none => simp
  | some row =>
    dsimp only
    split
    · rename_i hrd
      change WakeReady wake target row at hrd
      cases target <;> simp only [Except.ok.injEq, Option.some.injEq, exists_eq_left', hrd,
        true_and] <;> exact Iff.rfl
    · rename_i refused
      change ¬WakeReady wake target row at refused
      simp [refused]

theorem quiesceWake_eq : quiesceWake = retargetWake none := by
  funext db wake
  unfold quiesceWake retargetWake
  cases wakeRow db wake.id with
  | none => rfl
  | some row =>
    cases row.isActive <;> cases wake.isActive <;> grind

theorem retargetMessage_eq_ok {before after : QueueDb × List ParentRoutingMessageRow} :
    retargetMessage target before message = .ok after ↔
      ∃ row, messageRow before.1 message.id = some row ∧ MessageReady message target row ∧
        (if row.delivered then (before.1, before.2 ++ [message])
          else (setMessageParent before.1 target message.id, before.2)) = after := by
  unfold retargetMessage
  cases hf : messageRow before.1 message.id with
  | none => simp
  | some row =>
    dsimp only
    have hac : (row.targetSessionId ≠ message.childSessionId ∨
        (row.parentSessionId ≠ some message.parentSessionId ∧ row.parentSessionId.isSome ∧
          row.parentSessionId ≠ target)) ↔ ¬MessageReady message target row := by
      unfold MessageReady
      cases row.parentSessionId <;> grind
    by_cases hrd : MessageReady message target row
    · rw [if_neg fun refused => hac.mp refused hrd]
      split <;> simp [*]
    · rw [if_pos (hac.mpr hrd)]
      simp [hrd]

theorem quiesceMessage_eq_ok {next : QueueDb} : quiesceMessage db message = .ok next ↔
      (∃ row, messageRow db message.id = some row ∧ MessageReady message none row ∧
        row.delivered = false) ∧ setMessageParent db none message.id = next := by
  unfold quiesceMessage MessageReady
  cases hf : messageRow db message.id with
  | none => simp
  | some row =>
    cases parent : row.parentSessionId <;> cases delivered : row.delivered <;>
      by_cases child : row.targetSessionId = message.childSessionId <;>
      simp [parent, delivered, child] <;> grind

theorem wakeRow_updateById {change : ParentWakeRow → ParentWakeRow} (hke : KeepsKeys change)
    (id key : String) :
    wakeRow (updateWakes db (fun row => row.id = id) change) key =
      if key = id then (wakeRow db key).map change else wakeRow db key := by
  rw [wakeRow_updateWakes hke]
  cases hf : wakeRow db key with
  | none => simp
  | some row =>
    rw [← (wakeRow_mem hf).2]
    split <;> simp_all

theorem messageRow_setParent (id key : String) : messageRow (setMessageParent db target id) key =
      if key = id then (messageRow db key).map (retargetedMessage target)
      else messageRow db key := by
  rw [messageRow_setMessageParent]
  cases hf : messageRow db key with
  | none => simp
  | some row =>
    rw [← (messageRow_mem hf).2]
    cases _ : row.delivered <;> split <;> simp_all [retargetedMessage]

theorem retargetWake_rowStep : RowStep (retargetWake target) wakeRow ParentWakeRow.id
    (fun wake => WakeReady wake target) (fun wake => retargetedWake wake target) where
  ok hf hrd := ⟨_, retargetWake_eq_ok.mpr ⟨⟨_, hf, hrd⟩, rfl⟩⟩
  found hd := (retargetWake_eq_ok.mp hd).1
  written hd key := by
    rw [← (retargetWake_eq_ok.mp hd).2, wakeRow_updateById (retargetedWake_keepsKeys _ _)]
  again := WakeReady.retargeted
  idem _ := retargetedWake_idem _ _

theorem retargetMessage_rowStep : RowStep (retargetMessage target) (fun state => messageRow state.1)
    ParentRoutingMessageRow.id (fun message => MessageReady message target)
    (fun _ => retargetedMessage target) where
  ok hf hrd := ⟨_, retargetMessage_eq_ok.mpr ⟨_, hf, hrd, rfl⟩⟩
  found hd := (retargetMessage_eq_ok.mp hd).imp fun _ => And.imp_right And.left
  written hd key := by
    obtain ⟨_, hf, -, rfl⟩ := retargetMessage_eq_ok.mp hd
    split
    · rename_i delivered
      split
      · rename_i hs
        rw [hs, hf, Option.map_some, retargetedMessage, if_pos delivered]
      · rfl
    · exact messageRow_setParent _ key
  again := MessageReady.retargeted
  idem _ := retargetedMessage_idem _

theorem quiesceMessage_rowStep : RowStep quiesceMessage messageRow ParentRoutingMessageRow.id
    (fun message row => MessageReady message none row ∧ row.delivered = false)
    (fun _ => retargetedMessage none) where
  ok hf hrd := ⟨_, quiesceMessage_eq_ok.mpr ⟨⟨_, hf, hrd⟩, rfl⟩⟩
  found hd := (quiesceMessage_eq_ok.mp hd).1
  written hd key := by
    rw [← (quiesceMessage_eq_ok.mp hd).2, messageRow_setParent]
  again hrd := ⟨hrd.1.retargeted, by simp [retargetedMessage, hrd.2]⟩
  idem _ := retargetedMessage_idem none

end

section

variable (restore : Bool) (plan : ApplyPlan)

/-- The row after every planned route has reached its target. -/
def settleWake (row : ParentWakeRow) : ParentWakeRow :=
  match plan.queueRoutingChanges.find? fun change =>
      (wakeOf change).any fun wake => wake.id = row.id with
  | none => row
  | some change =>
    match wakeOf change with
    | none => row
    | some wake => retargetedWake wake (routeTarget restore change) row

def settleMessage (row : MessageRow) : MessageRow :=
  match plan.queueRoutingChanges.find? fun change =>
      (messageOf change).any fun message => message.id = row.id with
  | none => row
  | some change => retargetedMessage (routeTarget restore change) row

def settledChild (db : QueueDb) (child : String) : Option ParentWakeRow :=
  (childRow db child).map (settleWake restore plan)

def settledMessage (db : QueueDb) (id : String) : Option MessageRow :=
  (messageRow db id).map (settleMessage restore plan)

variable {restore plan} {change : RoutingChange}

theorem settleWake_planned (fits : PlanFits plan)
    (hm : change ∈ plan.queueRoutingChanges) {wake row : ParentWakeRow}
    (hp : wakeOf change = some wake) (hs : row.id = wake.id) :
    settleWake restore plan row = retargetedWake wake (routeTarget restore change) row := by
  unfold settleWake
  cases hf : plan.queueRoutingChanges.find? fun change =>
      (wakeOf change).any fun wake => wake.id = row.id with
  | none =>
    have hab := find?_eq_none.mp hf change hm
    simp [hp, hs] at hab
  | some other =>
    have chosen := find?_some hf
    cases otherPlanned : wakeOf other with
    | none => simp [otherPlanned] at chosen
    | some =>
      have heq : other = change := by
        refine fits.same_wake (mem_of_find?_eq_some hf) hm otherPlanned hp ?_
        rw [← hs]
        simpa [otherPlanned] using chosen
      dsimp only
      rw [heq, hp]

theorem settleWake_unplanned {row : ParentWakeRow}
    (unplanned : ∀ change ∈ plan.queueRoutingChanges, ∀ wake, wakeOf change = some wake →
      wake.id ≠ row.id) : settleWake restore plan row = row := by
  unfold settleWake
  rw [find?_eq_none.mpr]
  intro change hm
  cases hp : wakeOf change with
  | none => simp
  | some wake => simpa using unplanned change hm wake hp

theorem settleMessage_planned (fits : PlanFits plan) (hm : change ∈ plan.queueRoutingChanges)
    (hp : messageOf change = some message) (hs : row.id = message.id) :
    settleMessage restore plan row = retargetedMessage (routeTarget restore change) row := by
  unfold settleMessage
  cases hf : plan.queueRoutingChanges.find? fun change =>
      (messageOf change).any fun message => message.id = row.id with
  | none =>
    have hab := find?_eq_none.mp hf change hm
    simp [hp, hs] at hab
  | some other =>
    have chosen := find?_some hf
    cases otherPlanned : messageOf other with
    | none => simp [otherPlanned] at chosen
    | some =>
      have heq : other = change := by
        refine fits.same_message (mem_of_find?_eq_some hf) hm otherPlanned hp ?_
        rw [← hs]
        simpa [otherPlanned] using chosen
      rw [heq]

theorem settleMessage_unplanned
    (unplanned : ∀ change ∈ plan.queueRoutingChanges, ∀ message, messageOf change = some message →
      message.id ≠ row.id) : settleMessage restore plan row = row := by
  unfold settleMessage
  rw [find?_eq_none.mpr]
  intro change hm
  cases hp : messageOf change with
  | none => simp
  | some message => simpa using unplanned change hm message hp

end

end SessionManager.Reparent
