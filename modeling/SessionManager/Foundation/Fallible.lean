import Mathlib.Data.List.Basic

/-! Computations that may stop with an error, and folds of such steps over a list. -/
namespace SessionManager.Foundation.Fallible

variable {ε α β : Type} {first : Except ε α} {result : β}

theorem bind_eq_ok {next : α → Except ε β} :
    (first >>= next) = .ok result ↔ ∃ value, first = .ok value ∧ next value = .ok result := by
  cases first with
  | error =>
    constructor
    · intro h
      cases h
    · rintro ⟨value, h, _⟩
      cases h
  | ok value =>
    constructor
    · intro finished
      exact ⟨_, rfl, finished⟩
    · rintro ⟨_, heq, finished⟩
      cases heq
      exact finished

theorem guard_ok {α : Type*} {c : Prop} [Decidable c] {reason : ε} {rest : Except ε α} {value : α} :
    (if c then .error reason else rest) = .ok value ↔ ¬c ∧ rest = .ok value := by
  split <;> simp [*]

theorem map_eq_ok {change : α → β} :
    first.map change = .ok result ↔ ∃ value, first = .ok value ∧ change value = result := by
  cases first <;> simp [Except.map]

theorem mapM_ok {change : α → Except ε β} {result : α → β} {values : List α}
    (each : ∀ value ∈ values, change value = .ok (result value)) :
    values.mapM change = .ok (values.map result) := by
  induction values with
  | nil => rfl
  | cons value _ ih =>
    rw [List.mapM_cons, each _ List.mem_cons_self,
      ih fun _ hm => each _ (List.mem_cons_of_mem _ hm)]
    rfl

variable {step : β → α → Except ε β} {values : List α} {start finish : β}

theorem foldlM_cons_ok {value : α} : (value :: values).foldlM step start = .ok finish ↔
      ∃ next, step start value = .ok next ∧ values.foldlM step next = .ok finish := by
  exact bind_eq_ok

variable (property : β → Prop)

theorem foldlM_keeps (hd : values.foldlM step start = .ok finish)
    (hke : ∀ value ∈ values, ∀ before after, step before value = .ok after →
      property before → property after)
    (holds : property start) : property finish := by
  induction values generalizing start with
  | nil =>
    cases hd
    exact holds
  | cons value _ ih =>
    obtain ⟨next, hh, later⟩ := foldlM_cons_ok.mp hd
    refine ih later ?_ (hke _ List.mem_cons_self _ next hh holds)
    intro _ hm
    exact hke _ (List.mem_cons_of_mem _ hm)

theorem foldlM_succeeds (steps : ∀ value ∈ values, ∀ before, property before →
      ∃ after, step before value = .ok after ∧ property after)
    (holds : property start) : ∃ finish, values.foldlM step start = .ok finish ∧ property finish := by
  induction values generalizing start with
  | nil => exact ⟨_, rfl, holds⟩
  | cons value _ ih =>
    obtain ⟨next, hh, kept⟩ := steps _ List.mem_cons_self _ holds
    obtain ⟨finish, later, hr⟩ := ih (fun _ hm => steps _ (List.mem_cons_of_mem _ hm)) kept
    exact ⟨_, foldlM_cons_ok.mpr ⟨next, hh, later⟩, hr⟩

end SessionManager.Foundation.Fallible
