import Mathlib.Data.List.Sort

/-! A query that sorts rows by a key and takes the first one selects a row with the least key, or
with the greatest one when it sorts downwards. -/
namespace SessionManager.Foundation.Selection

variable {α β : Type} [LinearOrder β] (key : α → β) {rows : List α} {row : α}

variable {before : α → α → Prop}

theorem mem_of_first [DecidableRel before]
    (first : (rows.insertionSort before).head? = some row) : row ∈ rows :=
  (List.mem_insertionSort before).mp (List.mem_of_head? first)

theorem eq_nil_of_first [DecidableRel before]
    (first : (rows.insertionSort before).head? = none) : rows = [] := by
  rw [List.head?_eq_none_iff] at first
  have hs := List.perm_insertionSort before rows
  rw [first] at hs
  exact hs.nil_eq.symm

theorem rel_of_first [DecidableRel before] [Std.Total before]
    [IsTrans α before] (first : (rows.insertionSort before).head? = some row) :
    ∀ other ∈ rows, other = row ∨ before row other := by
  have sorted := List.pairwise_insertionSort before rows
  intro other hm
  have hli := (List.mem_insertionSort before).mpr hm
  cases hf : rows.insertionSort before with
  | nil =>
    rw [hf] at first
    cases first
  | cons =>
    rw [hf] at first sorted hli
    cases first
    exact (List.mem_cons.mp hli).imp_right (List.rel_of_pairwise_cons sorted)

theorem least_of_first
    (first : (rows.insertionSort fun one other => key one ≤ key other).head? = some row) :
    ∀ other ∈ rows, key row ≤ key other := by
  intro other hm
  rcases rel_of_first first other hm with rfl | less
  · exact le_rfl
  · exact less

end SessionManager.Foundation.Selection
