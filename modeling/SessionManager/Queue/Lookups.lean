import SessionManager.Foundation.KeyedTable
import SessionManager.Queue.ParentRouting

/-! The queue tables seen through their keys: a wake by its identifier or by its child, a message by
its identifier. Every write of the tables is described by what it does to these lookups. -/
namespace SessionManager.Queue
open List Function

section

variable {α : Type} {p : α → Bool} {values : List α} {q : α → Bool}

theorem find?_map_of_blind {change : α → α} (blind : ∀ a, p (change a) = p a) (values : List α) :
    (values.map change).find? p = (values.find? p).map change := by
  rw [find?_map]
  congr 2
  funext a
  exact blind a

theorem find?_filter_of_find? {a : α}
    (hf : values.find? p = some a) (kept : q a) : (values.filter q).find? p = some a := by
  induction values with
  | nil => cases hf
  | cons b _ ih =>
    by_cases hh : p b
    · rw [find?_cons_of_pos hh] at hf
      cases hf
      rw [filter_cons_of_pos kept, find?_cons_of_pos hh]
    · rw [find?_cons_of_neg hh] at hf
      by_cases stays : q b
      · rw [filter_cons_of_pos stays, find?_cons_of_neg hh]
        exact ih hf
      · rw [filter_cons_of_neg stays]
        exact ih hf

theorem find?_filter_of_none (hab : values.find? p = none) : (values.filter q).find? p = none := by
  rw [find?_eq_none] at hab ⊢
  intro a hm
  exact hab a (mem_of_mem_filter hm)

theorem find?_key {β : Type} [DecidableEq β] {key : α → β}
    (hn : (values.map key).Nodup) {a : α} (hm : a ∈ values) :
    values.find? (fun b => key b = key a) = some a := by
  induction values with
  | nil => cases hm
  | cons _ _ ih =>
    rw [map_cons, nodup_cons] at hn
    rcases mem_cons.mp hm with hh | later
    · rw [hh, find?_cons_of_pos (by simp)]
    · rw [find?_cons_of_neg]
      · exact ih hn.2 later
      · simp only [decide_eq_true_eq]
        intro hs
        exact hn.1 (hs ▸ mem_map_of_mem later)

end

variable {id : String}

section

variable {db : QueueDb}

def childRow (db : QueueDb) (childSessionId : String) : Option ParentWakeRow :=
  db.wakes.find? fun row => row.childSessionId = childSessionId

structure QueueDb.Keyed (db : QueueDb) : Prop where
  ids : (db.wakes.map ParentWakeRow.id).Nodup
  children : (db.wakes.map ParentWakeRow.childSessionId).Nodup

variable {row : ParentWakeRow} {child : String}

theorem wakeRow_mem (hf : wakeRow db id = some row) : row ∈ db.wakes ∧ row.id = id :=
  ⟨mem_of_find?_eq_some hf, by simpa using find?_some hf⟩

theorem childRow_mem (hf : childRow db child = some row) :
    row ∈ db.wakes ∧ row.childSessionId = child :=
  ⟨mem_of_find?_eq_some hf, by simpa using find?_some hf⟩

theorem QueueDb.Keyed.wakeRow_of_childRow (keyed : db.Keyed)
    (hf : childRow db child = some row) : wakeRow db row.id = some row :=
  find?_key keyed.ids (childRow_mem hf).1

structure KeepsKeys (change : ParentWakeRow → ParentWakeRow) : Prop where
  id : ∀ row, (change row).id = row.id
  child : ∀ row, (change row).childSessionId = row.childSessionId

theorem KeepsKeys.ite {change : ParentWakeRow → ParentWakeRow} (hke : KeepsKeys change)
    (choose : ParentWakeRow → Bool) :
    KeepsKeys fun row => if choose row then change row else row := by
  constructor
  · intro row
    split
    · exact hke.id row
    · rfl
  · intro row
    split
    · exact hke.child row
    · rfl

variable {choose : ParentWakeRow → Bool} {change : ParentWakeRow → ParentWakeRow}

theorem wakeRow_updateWakes (hke : KeepsKeys change) (id : String) :
    wakeRow (updateWakes db choose change) id =
      (wakeRow db id).map fun row => if choose row then change row else row :=
  find?_map_of_blind (fun row => by rw [(hke.ite choose).id row]) db.wakes

theorem childRow_updateWakes (hke : KeepsKeys change) (child : String) :
    childRow (updateWakes db choose change) child =
      (childRow db child).map fun row => if choose row then change row else row :=
  find?_map_of_blind (fun row => by rw [(hke.ite choose).child row]) db.wakes

theorem QueueDb.Keyed.updateWakes (keyed : db.Keyed) (hke : KeepsKeys change) :
    (Queue.updateWakes db choose change).Keyed := by
  have ids : (Queue.updateWakes db choose change).wakes.map ParentWakeRow.id =
      db.wakes.map ParentWakeRow.id := by
    simp only [Queue.updateWakes, map_map]
    exact map_congr_left fun row _ => (hke.ite _).id row
  have children : (Queue.updateWakes db choose change).wakes.map ParentWakeRow.childSessionId =
      db.wakes.map ParentWakeRow.childSessionId := by
    simp only [Queue.updateWakes, map_map]
    exact map_congr_left fun row _ => (hke.ite _).child row
  exact ⟨ids ▸ keyed.ids, children ▸ keyed.children⟩

theorem deactivate_keepsKeys : KeepsKeys fun row => { row with isActive := false } :=
  ⟨fun _ => rfl, fun _ => rfl⟩

theorem wakeRow_cancelParentWake (child id : String) :
    wakeRow (cancelParentWake db child) id = (wakeRow db id).map fun row =>
      if row.childSessionId = child then { row with isActive := false } else row := by
  rw [cancelParentWake, wakeRow_updateWakes deactivate_keepsKeys]
  simp only [decide_eq_true_eq]

theorem childRow_cancelParentWake (child : String) :
    childRow (cancelParentWake db child) = Function.update (childRow db) child
      ((childRow db child).map fun row => { row with isActive := false }) := by
  funext other
  rw [cancelParentWake, childRow_updateWakes deactivate_keepsKeys]
  cases hf : childRow db other with
  | none =>
    by_cases hh : other = child
    · rw [hh, update_self, ← hh, hf]
      rfl
    · rw [update_of_ne hh, hf]
      rfl
  | some =>
    have child' := (childRow_mem hf).2
    by_cases hh : other = child
    · rw [← hh, hf]
      simp [child', hh]
    · rw [update_of_ne hh, hf]
      simp [child', hh]

theorem QueueDb.Keyed.cancelParentWake (keyed : db.Keyed) (child : String) :
    (Queue.cancelParentWake db child).Keyed :=
  keyed.updateWakes deactivate_keepsKeys

section

variable (ids : RowIds) (child parent : String) (period : Int)

theorem wakeRow_insertParentWake {row : ParentWakeRow}
    (hf : wakeRow db id = some row) (other : row.childSessionId ≠ child) :
    wakeRow (insertParentWake db ids child parent period) id = some row := by
  have kept := find?_filter_of_find? (q := fun row => row.childSessionId ≠ child) hf
    (by simpa using other)
  simp only [wakeRow, insertParentWake, find?_append, kept, Option.some_or]

/-- The row of the child itself is gone, unless the generator hands its identifier out again. -/
theorem wakeRow_insertParentWake_gone
    (gone : ∀ row, wakeRow db id = some row → row.childSessionId = child)
    (keyed : db.Keyed) (hge : ∀ used, ids.next used ≠ id) :
    wakeRow (insertParentWake db ids child parent period) id = none := by
  unfold wakeRow insertParentWake
  rw [find?_append, find?_eq_none.mpr, find?_cons_of_neg]
  · rfl
  · simpa using hge _
  · intro row hm
    have kept := mem_filter.mp hm
    simp only [decide_eq_true_eq]
    intro hs
    have hf := find?_key keyed.ids kept.1
    rw [hs] at hf
    simpa [gone row hf] using kept.2

theorem childRow_insertParentWake :
    childRow (insertParentWake db ids child parent period) = Function.update (childRow db) child
      (some ⟨ids.next (db.wakes.map ParentWakeRow.id), child, parent, period, true⟩) := by
  funext other
  simp only [childRow, insertParentWake, find?_append]
  by_cases hh : other = child
  · rw [hh, find?_eq_none.mpr]
    · simp
    · simp
  · have hne : ¬child = other := fun hs => hh hs.symm
    rw [update_of_ne hh]
    simp only [childRow, hne, decide_false, Bool.false_eq_true, not_false_eq_true,
      find?_cons_of_neg, find?_nil, Option.or_none]
    cases hf : db.wakes.find? fun row => row.childSessionId = other with
    | none => exact find?_filter_of_none hf
    | some row =>
      refine find?_filter_of_find? hf ?_
      have hs : row.childSessionId = other := by simpa using find?_some hf
      simpa [hs] using hh

theorem QueueDb.Keyed.insertParentWake (keyed : db.Keyed) :
    (Queue.insertParentWake db ids child parent period).Keyed := by
  constructor
  · refine Foundation.nodup_map_snoc (keyed.ids.sublist (filter_sublist.map _)) ?_
    intro row kept hs
    exact ids.next_not_mem _ (mem_map.mpr ⟨row, mem_of_mem_filter kept, hs⟩)
  · refine Foundation.nodup_map_snoc (keyed.children.sublist (filter_sublist.map _)) ?_
    intro row kept hs
    simpa [hs] using (mem_filter.mp kept).2

end

end

section

variable {db : QueueDb}

theorem messageRow_mem {row : MessageRow} (hf : messageRow db id = some row) :
    row ∈ db.messages ∧ row.id = id :=
  ⟨mem_of_find?_eq_some hf, by simpa using find?_some hf⟩

theorem messageRow_updateMessages {choose : MessageRow → Bool} {change : MessageRow → MessageRow}
    (hke : ∀ row, (change row).id = row.id) (id : String) :
    messageRow (updateMessages db choose change) id =
      (messageRow db id).map fun row => if choose row then change row else row := by
  refine find?_map_of_blind (fun row => ?_) db.messages
  split
  · rw [hke row]
  · rfl

theorem messageRow_setMessageParent (parent : Option String) (id other : String) :
    messageRow (setMessageParent db parent id) other = (messageRow db other).map fun row =>
      if row.id = id ∧ row.delivered = false then { row with parentSessionId := parent }
      else row := by
  rw [setMessageParent, messageRow_updateMessages (by intro _; rfl)]
  simp only [Bool.and_eq_true, decide_eq_true_eq, Bool.not_eq_true']

theorem messageRow_append (row : MessageRow) (id : String) :
    messageRow { db with messages := db.messages ++ [row] } id =
      (messageRow db id).or (if row.id = id then some row else none) := by
  simp only [messageRow, find?_append, find?_singleton, decide_eq_true_eq]

end

end SessionManager.Queue
