import Mathlib.Data.Set.Function
import SessionManager.Foundation.Fallible

/-! Loops over items that name rows of a table. Each item looks its row up, accepts or refuses it, and
rewrites that row only; a row that was rewritten is accepted again and stays as it is. Such a loop is
decided by the rows as they were at its start. -/
namespace SessionManager.Foundation
open List Fallible

variable {σ ι ρ κ ε : Type} [DecidableEq κ]

structure RowStep (step : σ → ι → Except ε σ) (lookup : σ → κ → Option ρ) (name : ι → κ)
    (accepts : ι → ρ → Prop) (change : ι → ρ → ρ) : Prop where
  ok : ∀ {state item row}, lookup state (name item) = some row → accepts item row →
    ∃ next, step state item = .ok next
  found : ∀ {state item next}, step state item = .ok next →
    ∃ row, lookup state (name item) = some row ∧ accepts item row
  written : ∀ {state item next}, step state item = .ok next → ∀ key,
    lookup next key = if key = name item then (lookup state key).map (change item)
      else lookup state key
  again : ∀ {item row}, accepts item row → accepts item (change item row)
  idem : ∀ item row, change item (change item row) = change item row

namespace RowStep

variable {step : σ → ι → Except ε σ} {lookup : σ → κ → Option ρ} {name : ι → κ}
  {accepts : ι → ρ → Prop} {change : ι → ρ → ρ} {items : List ι} {start finish : σ} {item other : ι}

section

variable (steps : RowStep step lookup name accepts change)
include steps

/-- What one step leaves of a row that the same item or an item of another row names. -/
theorem keeps {next : σ} (hd : step start item = .ok next) (hs : name other = name item →
    other = item) {row : ρ} (held : lookup start (name other) = some row)
    (hac : accepts other row) :
    ∃ now, lookup next (name other) = some now ∧ accepts other now ∧
      change other now = change other row := by
  rw [steps.written hd]
  split
  · rename_i hna
    rw [hs hna] at held hac ⊢
    exact ⟨_, by rw [held]; rfl, steps.again hac, steps.idem _ row⟩
  · exact ⟨row, held, hac, rfl⟩

theorem foldlM_ok (hn : Set.InjOn name {item | item ∈ items})
    (ready : ∀ item ∈ items, ∃ row, lookup start (name item) = some row ∧ accepts item row) :
    ∃ finish, items.foldlM step start = .ok finish := by
  refine (foldlM_succeeds (fun state => ∀ item ∈ _, ∃ row,
    lookup state (name item) = some row ∧ accepts item row) ?_ ready).imp fun _ => And.left
  intro item hm state held
  obtain ⟨row, hh, hac⟩ := held _ hm
  obtain ⟨next, hd⟩ := steps.ok hh hac
  refine ⟨next, hd, ?_⟩
  intro _ hli
  obtain ⟨row, ht, hac⟩ := held _ hli
  obtain ⟨now, after, still, -⟩ := steps.keeps hd (hn hli hm) ht hac
  exact ⟨now, after, still⟩

theorem foldlM_other (hd : items.foldlM step start = .ok finish) {key : κ}
    (apart : ∀ item ∈ items, name item ≠ key) : lookup finish key = lookup start key := by
  apply foldlM_keeps (fun state => lookup state key = lookup start key) hd
  · intro item hm _ _ hsp held
    rw [steps.written hsp, if_neg (apart _ hm).symm, held]
  · rfl

theorem foldlM_found (hd : items.foldlM step start = .ok finish)
    (hn : Set.InjOn name {item | item ∈ items}) :
    ∀ item ∈ items, ∃ row, lookup start (name item) = some row ∧ accepts item row ∧
      lookup finish (name item) = some (change item row) := by
  induction items generalizing start with
  | nil => simp
  | cons first rest ih =>
    obtain ⟨next, hh, later⟩ := foldlM_cons_ok.mp hd
    have rests := ih later (Set.InjOn.mono (fun _ => mem_cons_of_mem _) hn)
    obtain ⟨row, held, hac⟩ := steps.found hh
    have moved : lookup next (name first) = some (change first row) := by
      rw [steps.written hh, if_pos rfl, held]
      rfl
    have own : lookup finish (name first) = some (change first row) := by
      by_cases again : ∃ item ∈ rest, name item = name first
      · obtain ⟨item, hm, hna⟩ := again
        obtain rfl := hn (mem_cons_of_mem _ hm) mem_cons_self hna
        obtain ⟨_, ht, -, result⟩ := rests _ hm
        obtain rfl := Option.some.inj (moved.symm.trans ht)
        rw [result, steps.idem]
      · refine (steps.foldlM_other later ?_).trans moved
        intro item hm hna
        exact again ⟨_, hm, hna⟩
    intro item hm
    by_cases hna : name item = name first
    · obtain rfl := hn hm mem_cons_self hna
      exact ⟨row, held, hac, own⟩
    · have inRest : item ∈ rest := (mem_cons.mp hm).resolve_left fun hs => hna (hs ▸ rfl)
      obtain ⟨row, ht, hac, result⟩ := rests _ inRest
      rw [steps.written hh, if_neg hna] at ht
      exact ⟨row, ht, hac, result⟩

end

end RowStep

end SessionManager.Foundation
