import Mathlib.Data.List.Nodup

/-! Tables with a primary key. A table cannot hold two rows under one key; an update rewrites rows in
place and keeps their keys. What a table holds is looked up and counted. -/
namespace SessionManager.Foundation
open List

theorem mem_snoc {ρ : Type} {rows : List ρ} {row other : ρ} :
    other ∈ rows ++ [row] ↔ other ∈ rows ∨ other = row := by
  rw [mem_append, mem_singleton]

theorem nodup_map_snoc {κ ρ : Type} {key : ρ → κ} {rows : List ρ} {row : ρ}
    (hn : (rows.map key).Nodup) (hfr : ∀ old ∈ rows, key old ≠ key row) :
    ((rows ++ [row]).map key).Nodup := by
  rw [map_append, nodup_append]
  refine ⟨hn, nodup_singleton _, ?_⟩
  intro _ hm _ last
  obtain ⟨old, ht, rfl⟩ := mem_map.mp hm
  rw [mem_singleton.mp last]
  exact hfr old ht

structure KeyedTable {κ ρ : Type} (key : ρ → κ) where
  rows : List ρ
  distinct : (rows.map key).Nodup

namespace KeyedTable

section

variable {κ ρ : Type} {key : ρ → κ} {table : KeyedTable key}

@[simp] def empty : KeyedTable key := ⟨[], nodup_nil⟩

@[ext] theorem ext {one two : KeyedTable key} (hs : one.rows = two.rows) : one = two := by
  cases two
  cases hs
  rfl

instance [DecidableEq ρ] : DecidableEq (KeyedTable key) := fun one two =>
  decidable_of_iff (one.rows = two.rows) ⟨ext, congrArg rows⟩

def update (table : KeyedTable key) (change : ρ → ρ) (keeps : ∀ row, key (change row) = key row) :
    KeyedTable key where
  rows := table.rows.map change
  distinct := by
    rw [List.map_map, show key ∘ change = key from funext keeps]
    exact table.distinct

def count (table : KeyedTable key) (counted : ρ → Bool) : Nat := table.rows.countP counted

variable {counted : ρ → Bool} {change : ρ → ρ} {keeps : ∀ row, key (change row) = key row}

theorem count_update_le
    (less : ∀ row ∈ table.rows, counted (change row) = true → counted row = true) :
    (table.update change keeps).count counted ≤ table.count counted := by
  unfold count update
  rw [countP_map]
  exact countP_mono_left less

theorem count_update_one (own : κ) (others : ∀ row, key row ≠ own → change row = row) :
    (table.update change keeps).count counted ≤ table.count counted + 1 := by
  obtain ⟨rows, hn⟩ := table
  change (rows.map change).countP counted ≤ rows.countP counted + 1
  induction rows with
  | nil => exact Nat.zero_le _
  | cons row rest ih =>
    rw [map_cons, nodup_cons] at hn
    rw [map_cons, countP_cons, countP_cons]
    by_cases hh : key row = own
    · have hs : rest.map change = rest := by
        refine (map_congr_left ?_).trans (map_id' _)
        intro _ hm
        refine others _ ?_
        intro again
        exact hn.1 (mem_map.mpr ⟨_, hm, again.trans hh.symm⟩)
      rw [hs]
      split <;> split <;> omega
    · rw [others row hh]
      have _ := ih hn.2
      omega

theorem eq_of_key_eq {one two : ρ} (first : one ∈ table.rows) (second : two ∈ table.rows)
    (hs : key one = key two) : one = two :=
  inj_on_of_nodup_map table.distinct first second hs

def retain (table : KeyedTable key) (keep : ρ → Bool) : KeyedTable key where
  rows := table.rows.filter keep
  distinct := table.distinct.sublist (List.filter_sublist.map key)

theorem mem_retain {keep : ρ → Bool} {row : ρ} :
    row ∈ (table.retain keep).rows ↔ row ∈ table.rows ∧ keep row :=
  mem_filter

end

section

variable {κ ρ : Type} [DecidableEq κ] {key : ρ → κ} {table : KeyedTable key}

def find (table : KeyedTable key) (wanted : κ) : Option ρ :=
  table.rows.find? fun row => key row = wanted

def insert (table : KeyedTable key) (row : ρ) (fresh : table.find (key row) = none) :
    KeyedTable key where
  rows := table.rows ++ [row]
  distinct := nodup_map_snoc table.distinct fun old inside => by
    simpa using List.find?_eq_none.mp fresh old inside

theorem find_some {wanted : κ} {row : ρ} (hf : table.find wanted = some row) :
    row ∈ table.rows ∧ key row = wanted :=
  ⟨mem_of_find?_eq_some hf, by simpa using find?_some hf⟩

theorem find_of_mem {row : ρ} (hm : row ∈ table.rows) : table.find (key row) = some row := by
  cases hf : table.find (key row) with
  | none => exact absurd (decide_eq_true rfl) (find?_eq_none.mp hf row hm)
  | some =>
    obtain ⟨hi, hs⟩ := find_some hf
    rw [eq_of_key_eq hi hm hs]

theorem find_update {change : ρ → ρ} (keeps : ∀ row, key (change row) = key row) (wanted : κ) :
    (table.update change keeps).find wanted = (table.find wanted).map change := by
  unfold find update
  rw [find?_map]
  congr 2
  funext row
  simp only [Function.comp_apply, keeps]

theorem find_insert {row : ρ} (hfr : table.find (key row) = none) (wanted : κ) :
    (table.insert row hfr).find wanted =
      (table.find wanted).or (if key row = wanted then some row else none) := by
  simp only [find, insert, find?_append, find?_singleton, decide_eq_true_eq]

theorem count_insert {counted : ρ → Bool} {row : ρ} (hfr : table.find (key row) = none)
    (out : counted row = false) : (table.insert row hfr).count counted = table.count counted := by
  simp [count, insert, countP_append, out]

end

end KeyedTable

end SessionManager.Foundation
