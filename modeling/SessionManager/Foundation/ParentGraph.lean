import Mathlib.Data.List.Nodup
import Mathlib.Data.List.Perm.Subperm
import Mathlib.Logic.Function.Basic

/-! Graphs in which every node has at most one parent. Following the links from a node either ends
at a root, or outside the graph, or comes back to a node it has seen; a walk that remembers what it
has visited finds out which, in as many steps as there are nodes with a parent. -/
namespace SessionManager.Foundation.ParentGraph
open List Function

variable {α : Type} {n : Nat} {a : α} {a b : α}

section

variable (parent : α → Option α)

def climb : Nat → α → Option α
  | 0, a => some a
  | n + 1, a => (parent a).bind (climb n)

def Acyclic : Prop := ∀ a n, climb parent (n + 1) a ≠ some a

variable {parent}

@[simp] theorem climb_zero (a : α) : climb parent 0 a = some a := rfl

theorem climb_succ (n : Nat) (a : α) :
    climb parent (n + 1) a = (parent a).bind (climb parent n) := rfl

theorem climb_add (m n : Nat) (a : α) :
    climb parent (m + n) a = (climb parent m a).bind (climb parent n) := by
  induction m generalizing a with
  | zero => simp
  | succ _ ih =>
    rw [Nat.add_right_comm, climb_succ, climb_succ]
    cases parent a with
    | none => rfl
    | some => simp [ih]

theorem climb_succ_eq_some :
    climb parent (n + 1) a = some b ↔ ∃ p, parent a = some p ∧ climb parent n p = some b := by
  rw [climb_succ, Option.bind_eq_some_iff]

theorem Acyclic.climb_ne (acyclic : Acyclic parent) {i j : Nat} (later : i < j)
    (seen : climb parent i a = some b) : climb parent j a ≠ some b := by
  obtain ⟨n, rfl⟩ := Nat.exists_eq_add_of_lt later
  rw [Nat.add_assoc, climb_add, seen]
  exact acyclic b n

end

section

variable [DecidableEq α] (parent : α → Option α)

/-- Whether the walk from a node comes to one that it has visited. -/
def revisits : (fuel : Nat) → (visited : List α) → Option α → Bool
  | _, _, none => false
  | 0, _, some _ => true
  | fuel + 1, visited, some a =>
    if a ∈ visited then true else revisits fuel (a :: visited) (parent a)

variable {parent} {fuel : Nat} {visited : List α} {keys : List α}

theorem not_visited_of_not_revisits (ends : revisits parent fuel visited (some a) = false) {b : α}
    (hr : climb parent n a = some b) : b ∉ visited := by
  induction fuel generalizing visited a n with
  | zero => simp [revisits] at ends
  | succ _ ih =>
    rw [revisits] at ends
    split at ends
    · cases ends
    rename_i hfr
    cases n with
    | zero =>
      cases hr
      exact hfr
    | succ =>
      obtain ⟨_, link, above⟩ := climb_succ_eq_some.mp hr
      rw [link] at ends
      have outside := ih ends above
      exact fun hm => outside (mem_cons_of_mem _ hm)

theorem climb_ne_of_not_revisits (ends : revisits parent fuel [] (some a) = false) (n : Nat) :
    climb parent (n + 1) a ≠ some a := by
  intro back
  obtain ⟨_, link, above⟩ := climb_succ_eq_some.mp back
  cases fuel with
  | zero => simp [revisits] at ends
  | succ =>
    rw [revisits, link] at ends
    exact not_visited_of_not_revisits ends above mem_cons_self

theorem revisits_of_fuel (hk : ∀ a, parent a ≠ none → a ∈ keys)
    (hn : visited.Nodup) (hi : visited ⊆ keys)
    (enough : keys.length < fuel + visited.length)
    (returns : revisits parent fuel visited (some a)) :
    ∃ i b, climb parent i a = some b ∧ (b ∈ visited ∨ ∃ j, climb parent (i + j + 1) a = some b) := by
  induction fuel generalizing visited a with
  | zero =>
    have _ := (subperm_of_subset hn hi).length_le
    omega
  | succ _ ih =>
    rw [revisits] at returns
    split at returns
    · rename_i seen
      exact ⟨0, a, rfl, .inl seen⟩
    rename_i hfr
    cases link : parent a with
    | none => simp [link, revisits] at returns
    | some p =>
      rw [link] at returns
      have hh : a ∈ keys := hk a (by simp [link])
      obtain ⟨i, b, above, again⟩ := ih (nodup_cons.mpr ⟨hfr, hn⟩)
        (cons_subset.mpr ⟨hh, hi⟩) (by simp only [length_cons]; omega) returns
      have hr : climb parent (i + 1) a = some b := climb_succ_eq_some.mpr ⟨p, link, above⟩
      rcases again with visited | ⟨j, later⟩
      · rcases mem_cons.mp visited with rfl | visited
        · exact ⟨0, b, rfl, .inr ⟨i, by simpa using hr⟩⟩
        · exact ⟨i + 1, b, hr, .inl visited⟩
      · refine ⟨i + 1, b, hr, .inr ⟨j, ?_⟩⟩
        have longer : i + 1 + j + 1 = (i + j + 1) + 1 := by omega
        rw [longer]
        exact climb_succ_eq_some.mpr ⟨p, link, later⟩

theorem acyclic_iff_not_revisits (hk : ∀ a, parent a ≠ none → a ∈ keys) :
    Acyclic parent ↔ ∀ a ∈ keys, revisits parent (keys.length + 1) [] (some a) = false := by
  constructor
  · intro acyclic a _
    by_contra returns
    rw [Bool.not_eq_false] at returns
    obtain ⟨_, _, hr, seen | ⟨_, again⟩⟩ := revisits_of_fuel hk nodup_nil
      (nil_subset _) (by simp) returns
    · cases seen
    · exact acyclic.climb_ne (by omega) hr again
  · intro ends a n back
    obtain ⟨_, link, -⟩ := climb_succ_eq_some.mp back
    exact climb_ne_of_not_revisits (ends a (hk a (by simp [link]))) n back

end

section

variable {α : Type} [DecidableEq α] (parent : α → Option α)

/-- The walk as a loop: without an answer while it is still running. -/
def walk : (rounds : Nat) → (visited : List α) → Option α → Option Bool
  | _, _, none => some false
  | 0, _, some _ => none
  | rounds + 1, visited, some a =>
    if a ∈ visited then some true else walk rounds (a :: visited) (parent a)

variable {parent} {rounds : Nat} {visited keys : List α}

theorem walk_eq (hk : ∀ a, parent a ≠ none → a ∈ keys) (hn : visited.Nodup)
    (hi : visited ⊆ keys) (enough : keys.length < rounds + visited.length)
    (start : Option α) :
    walk parent rounds visited start = some (revisits parent rounds visited start) := by
  induction rounds generalizing visited start with
  | zero =>
    have _ := (subperm_of_subset hn hi).length_le
    omega
  | succ rounds ih =>
    cases start with
    | none => rfl
    | some a =>
      rw [walk, revisits]
      split
      · rfl
      rename_i hfr
      cases link : parent a with
      | none => cases rounds <;> rfl
      | some p =>
        have hh : a ∈ keys := hk a (by simp [link])
        refine ih (nodup_cons.mpr ⟨hfr, hn⟩) (cons_subset.mpr ⟨hh, hi⟩) ?_ _
        rw [length_cons]
        omega

end

section

variable [DecidableEq α] {parent : α → Option α} {child : α} {target : Option α}

theorem climb_update (hr : climb (Function.update parent child target) n a = some b) :
    climb parent n a = some b ∨
      ∃ k < n, climb (Function.update parent child target) k a = some child := by
  induction n generalizing a with
  | zero => exact .inl hr
  | succ _ ih =>
    by_cases moved : a = child
    · exact .inr ⟨0, by omega, by rw [moved, climb_zero]⟩
    · obtain ⟨p, link, above⟩ := climb_succ_eq_some.mp hr
      have old : parent a = some p := by rwa [update_of_ne moved] at link
      rcases ih above with hs | ⟨k, _, met⟩
      · exact .inl (climb_succ_eq_some.mpr ⟨p, old, hs⟩)
      · exact .inr ⟨k + 1, by omega, climb_succ_eq_some.mpr ⟨p, link, met⟩⟩

theorem climb_to_moved (hr : climb (Function.update parent child target) n a = some child) :
    ∃ k, climb parent k a = some child := by
  induction n generalizing a with
  | zero => exact ⟨0, hr⟩
  | succ _ ih =>
    by_cases moved : a = child
    · exact ⟨0, by rw [moved, climb_zero]⟩
    · obtain ⟨p, link, above⟩ := climb_succ_eq_some.mp hr
      have old : parent a = some p := by rwa [update_of_ne moved] at link
      obtain ⟨k, met⟩ := ih above
      exact ⟨k + 1, climb_succ_eq_some.mpr ⟨p, old, met⟩⟩

/-- Moving a child under a target that the child is not above keeps the graph free of cycles. -/
theorem Acyclic.update (acyclic : Acyclic parent)
    (below : ∀ p, target = some p → ∀ n, climb parent n p ≠ some child) :
    Acyclic (Function.update parent child target) := by
  -- No cycle can pass through the child: from its new parent the old links do not lead back.
  have off : ∀ n, climb (Function.update parent child target) (n + 1) child ≠ some child := by
    intro n back
    obtain ⟨p, link, above⟩ := climb_succ_eq_some.mp back
    rw [update_self] at link
    obtain ⟨k, met⟩ := climb_to_moved above
    exact below p link k met
  intro a n back
  rcases climb_update back with old | ⟨k, hwi, met⟩
  · exact acyclic a n old
  · obtain ⟨rest, split⟩ := Nat.exists_eq_add_of_lt hwi
    have turned : climb (Function.update parent child target) (n + 1) child = some child := by
      have down : climb (Function.update parent child target) (rest + 1) child = some a := by
        rw [split, Nat.add_assoc, climb_add, met] at back
        exact back
      have around : n + 1 = (rest + 1) + k := by omega
      rw [around, climb_add, down]
      exact met
    exact off n turned

end

end SessionManager.Foundation.ParentGraph
