import Mathlib.Data.List.Induction
import Mathlib.Data.List.Nodup
import Mathlib.Order.Lattice

/-! The latest row up to a limit, for rows that carry a moment. -/
namespace SessionManager.Foundation.Latest
open List Option

variable {α τ : Type} [LinearOrder τ]

/-- The row with the greatest moment not after the limit, the last of them on a tie. -/
def latest (moment : α → τ) (rows : List α) (limit : τ) : Option α :=
  rows.foldl (fun best row =>
    if moment row ≤ limit && best.all fun held => moment held ≤ moment row then some row
    else best) none

variable {moment : α → τ} {rows : List α} {row : α} {limit : τ}

theorem latest_append : latest moment (rows ++ [row]) limit =
      if moment row ≤ limit && (latest moment rows limit).all fun held => moment held ≤ moment row
      then some row else latest moment rows limit := by
  rw [latest, foldl_append]
  rfl

theorem latest_mem (hf : latest moment rows limit = some row) :
    row ∈ rows ∧ moment row ≤ limit := by
  induction rows using List.reverseRecOn with
  | nil => cases hf
  | append_singleton _ _ ih =>
    rw [latest_append] at hf
    split at hf
    · rename_i newer
      cases hf
      simp only [Bool.and_eq_true, decide_eq_true_eq] at newer
      exact ⟨by simp, newer.1⟩
    · obtain ⟨hm, hr⟩ := ih hf
      exact ⟨mem_append_left _ hm, hr⟩

theorem latest_append_newest (newest : ∀ earlier ∈ rows, moment earlier ≤ moment row) :
    latest moment (rows ++ [row]) limit =
      if moment row ≤ limit then some row else latest moment rows limit := by
  have beaten : ((latest moment rows limit).all fun held => moment held ≤ moment row) := by
    cases hf : latest moment rows limit with
    | none => rfl
    | some held => simpa using newest held (latest_mem hf).1
  rw [latest_append, beaten, Bool.and_true]
  simp only [decide_eq_true_eq]

theorem latest_eq_none_iff :
    latest moment rows limit = none ↔ ∀ row ∈ rows, limit < moment row := by
  induction rows using List.reverseRecOn with
  | nil => simp [latest]
  | append_singleton _ _ ih =>
    rw [latest_append]
    constructor
    · intro missing
      split at missing
      · cases missing
      rename_i hpa
      have none := ih.mp missing
      rw [missing, all_none, Bool.and_true, decide_eq_true_eq, not_le] at hpa
      intro row hm
      rcases mem_append.mp hm with before | isLast
      · exact none row before
      · rw [mem_singleton.mp isLast]
        exact hpa
    · intro early
      rw [if_neg]
      · exact ih.mpr fun row hm => early row (mem_append_left _ hm)
      · intro newer
        simp only [Bool.and_eq_true, decide_eq_true_eq] at newer
        exact absurd newer.1 (not_le.mpr (early _ (by simp)))

theorem latest_greatest (hf : latest moment rows limit = some row) :
    ∀ other ∈ rows, moment other ≤ limit → moment other ≤ moment row := by
  induction rows using List.reverseRecOn generalizing row with
  | nil => simp
  | append_singleton earlier last ih =>
    rw [latest_append] at hf
    intro other hm hr
    split at hf
    · rename_i newer
      cases hf
      simp only [Bool.and_eq_true, decide_eq_true_eq] at newer
      rcases mem_append.mp hm with before | isLast
      · cases best : latest moment earlier limit with
        | none => exact absurd hr (not_le.mpr (latest_eq_none_iff.mp best _ before))
        | some held =>
          have beaten : moment held ≤ moment last := by simpa [best] using newer.2
          exact (ih best _ before hr).trans beaten
      · rw [mem_singleton.mp isLast]
    · rename_i hpa
      rcases mem_append.mp hm with before | isLast
      · exact ih hf _ before hr
      · rw [mem_singleton.mp isLast] at hr ⊢
        rw [hf] at hpa
        simp only [all_some, Bool.and_eq_true, decide_eq_true_eq, not_and, not_le] at hpa
        exact (hpa hr).le

theorem latest_eq_some (hm : row ∈ rows) (hr : moment row ≤ limit)
    (greatest : ∀ other ∈ rows, moment other ≤ limit → moment other ≤ moment row)
    (hn : ∀ other ∈ rows, moment other = moment row → other = row) :
    latest moment rows limit = some row := by
  cases hf : latest moment rows limit with
  | none => exact absurd hr (not_le.mpr (latest_eq_none_iff.mp hf row hm))
  | some held =>
    obtain ⟨isRow, heldReached⟩ := latest_mem hf
    have hs := le_antisymm (greatest held isRow heldReached) (latest_greatest hf row hm hr)
    rw [hn held isRow hs]

theorem latest_congr {bound : τ} (hs : ∀ row ∈ rows, (moment row ≤ limit ↔ moment row ≤ bound)) :
    latest moment rows limit = latest moment rows bound := by
  induction rows using List.reverseRecOn with
  | nil => rfl
  | append_singleton _ last ih =>
    rw [latest_append, latest_append, ih fun row hm => hs row (mem_append_left _ hm)]
    simp only [hs last (by simp)]

/-- The latest row is the same under any renaming that keeps the order of the moments. -/
theorem latest_map {β σ : Type} [LinearOrder σ] {renamed : β → σ} {rename : α → β} {bound : σ}
    (order : ∀ first ∈ rows, ∀ second ∈ rows,
      (renamed (rename first) ≤ renamed (rename second) ↔ moment first ≤ moment second))
    (limits : ∀ row ∈ rows, (renamed (rename row) ≤ bound ↔ moment row ≤ limit)) :
    latest renamed (rows.map rename) bound = (latest moment rows limit).map rename := by
  induction rows using List.reverseRecOn with
  | nil => rfl
  | append_singleton earlier last ih =>
    have hi {row : α} (hm : row ∈ earlier) : row ∈ earlier ++ [last] :=
      mem_append_left _ hm
    have isLast : last ∈ earlier ++ [last] := by simp
    rw [map_append, map_singleton, latest_append, latest_append,
      ih (fun _ isFirst _ isSecond => order _ (hi isFirst) _ (hi isSecond))
        fun row hm => limits row (hi hm)]
    cases hf : latest moment earlier limit with
    | none =>
      simp only [map_none, all_none, Bool.and_true, decide_eq_true_eq, limits last isLast]
      split <;> rfl
    | some held =>
      simp only [map_some, all_some, Bool.and_eq_true, decide_eq_true_eq,
        limits last isLast, order held (hi (latest_mem hf).1) last isLast]
      split <;> rfl

end SessionManager.Foundation.Latest
