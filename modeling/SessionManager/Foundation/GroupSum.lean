import Mathlib.Algebra.BigOperators.Group.List.Basic
import Mathlib.Algebra.Group.Basic
import Mathlib.Data.List.Basic
import Mathlib.Tactic.Abel

/-! A table of totals by key, kept up to date by adding and taking away single amounts. A key has
a row only while its total is not zero. A total has a stored form, and the sum of a stored total and
an amount is the stored form of their sum as long as that fits. The table is exact for a list of
amounts when every key's row is the stored sum of the amounts listed under it. -/
namespace SessionManager.Foundation.GroupSum

variable {κ M : Type} [DecidableEq κ] [AddCommGroup M]

abbrev Table (κ M : Type) := κ → Option M

def under (entries : List (κ × M)) (key : κ) : List M :=
  (entries.filter fun entry => entry.1 = key).map Prod.snd

def groupSum (entries : List (κ × M)) (key : κ) : M := (under entries key).sum

@[simp] theorem groupSum_nil (key : κ) : groupSum ([] : List (κ × M)) key = 0 := rfl

theorem groupSum_append (first second : List (κ × M)) (key : κ) :
    groupSum (first ++ second) key = groupSum first key + groupSum second key := by
  simp [groupSum, under]

theorem groupSum_cons (entry : κ × M) (entries : List (κ × M)) (key : κ) :
    groupSum (entry :: entries) key = (if entry.1 = key then entry.2 else 0) + groupSum entries key := by
  by_cases hs : entry.1 = key <;> simp [groupSum, under, hs]

theorem groupSum_neg (entries : List (κ × M)) (key : κ) :
    groupSum (entries.map fun entry => (entry.1, -entry.2)) key = -groupSum entries key := by
  induction entries with
  | nil => simp
  | cons _ _ ih =>
    rw [List.map_cons, groupSum_cons, groupSum_cons, ih, neg_add]
    split_ifs <;> simp

/-- Splitting the rows that entries come from by any test splits every group sum. -/
theorem groupSum_filterMap_filter {ρ : Type} (entry : ρ → Option (κ × M)) (test : ρ → Bool)
    (rows : List ρ) (key : κ) :
    groupSum (rows.filterMap entry) key = groupSum ((rows.filter test).filterMap entry) key +
        groupSum ((rows.filter fun row => !test row).filterMap entry) key := by
  induction rows with
  | nil => simp
  | cons row _ ih =>
    cases kept : test row <;> cases hf : entry row <;>
      simp only [List.filter_cons, List.filterMap_cons, kept, hf, Bool.not_true,
        Bool.not_false, if_true, Bool.false_eq_true, if_false, groupSum_cons, ih] <;> abel

theorem groupSum_of_not_mem {entries : List (κ × M)} {key : κ}
    (absent : key ∉ entries.map Prod.fst) : groupSum entries key = 0 := by
  have nothing : entries.filter (fun entry => entry.1 = key) = [] := by
    refine List.filter_eq_nil_iff.mpr fun entry hm hs => absent ?_
    exact List.mem_map.mpr ⟨entry, hm, by simpa using hs⟩
  simp [groupSum, under, nothing]

/-- How totals are stored, and which of them a sum keeps. -/
structure Storage (M N : Type) [AddCommGroup M] where
  store : M → N
  plus : N → M → N
  isZero : N → Bool
  Fits : M → Prop
  plus_store : ∀ {total amount : M}, Fits (total + amount) →
    plus (store total) amount = store (total + amount)
  isZero_store : ∀ total, isZero (store total) = true ↔ total = 0

variable {N : Type} (storage : Storage M N)

def Storage.row (total : M) : Option N :=
  if storage.isZero (storage.store total) then none else some (storage.store total)

@[simp] theorem Storage.row_zero : storage.row 0 = none :=
  if_pos ((storage.isZero_store 0).mpr rfl)

def add (table : Table κ N) (key : κ) (amount : M) : Table κ N :=
  let total := (table key).elim (storage.store amount) fun total => storage.plus total amount
  Function.update table key (if storage.isZero total then none else some total)

/-- The table holds exactly the group sums of the entries. -/
def Exact (table : Table κ N) (entries : List (κ × M)) : Prop :=
  ∀ key, table key = storage.row (groupSum entries key)

variable {storage} {table : Table κ N} {entries : List (κ × M)}

theorem Exact.congr {entries others : List (κ × M)} (exact : Exact storage table entries)
    (hs : ∀ key, groupSum entries key = groupSum others key) : Exact storage table others := by
  intro key
  rw [exact key, hs key]

theorem exact_empty : Exact storage (fun _ => none : Table κ N) ([] : List (κ × M)) := by
  intro _
  simp

theorem Exact.add (exact : Exact storage table entries) (entry : κ × M)
    (fits : storage.Fits (groupSum (entry :: entries) entry.1)) :
    Exact storage (add storage table entry.1 entry.2) (entry :: entries) := by
  intro key
  by_cases hs : key = entry.1
  · subst hs
    rw [groupSum_cons, if_pos rfl, add_comm] at fits ⊢
    have total : (table entry.1).elim (storage.store entry.2)
        (fun total => storage.plus total entry.2) =
          storage.store (groupSum entries entry.1 + entry.2) := by
      rw [exact entry.1, Storage.row]
      split_ifs with zero
      · rw [(storage.isZero_store _).mp zero, zero_add]
        rfl
      · exact storage.plus_store fits
    simp [GroupSum.add, total, Storage.row]
  · rw [groupSum_cons, if_neg (Ne.symm hs), zero_add, ← exact key]
    simp [GroupSum.add, hs]

/-- Amounts under different keys, added one after another. -/
theorem Exact.foldl_add (exact : Exact storage table entries) (more : List (κ × M))
    (apart : (more.map Prod.fst).Nodup) (before : ∀ key, storage.Fits (groupSum entries key))
    (after : ∀ key, storage.Fits (groupSum (entries ++ more) key)) :
    Exact storage (more.foldl (fun table entry => GroupSum.add storage table entry.1 entry.2) table)
      (entries ++ more) := by
  induction more generalizing table entries with
  | nil => simpa using exact
  | cons entry rest ih =>
    obtain ⟨absent, apart⟩ := List.nodup_cons.mp apart
    have moved (key : κ) : groupSum (entry :: entries ++ rest) key =
        groupSum (entries ++ entry :: rest) key := by
      simp only [List.cons_append, groupSum_cons, groupSum_append]
      abel
    have each (key : κ) : storage.Fits (groupSum (entry :: entries) key) := by
      by_cases hs : entry.1 = key
      · subst hs
        -- nothing more comes under this key, so its sum is the last one already
        have last : groupSum (entry :: entries) entry.1 =
            groupSum (entries ++ entry :: rest) entry.1 := by
          rw [← moved, groupSum_append, groupSum_of_not_mem absent, add_zero]
        exact last ▸ after _
      · rw [groupSum_cons, if_neg hs, zero_add]
        exact before key
    exact (ih (exact.add entry (each _)) apart each fun key => moved key ▸ after key).congr moved

end SessionManager.Foundation.GroupSum
