import Mathlib.Order.Lattice
import Mathlib.Data.List.Basic

/-! A cell that keeps the value with the latest stamp. Each write may be blocked for a reason of
its own; the writes that are not blocked settle by stamp, in whatever order they arrive. -/
namespace SessionManager.Foundation.StampedCell

variable {τ α : Type} [LinearOrder τ]

structure Write (τ α : Type) where
  stamp : τ
  value : α
  blocked : Bool

def write (cell : Option (τ × α)) (offered : Write τ α) : Option (τ × α) :=
  if offered.blocked then cell
  else
    match cell with
    | none => some (offered.stamp, offered.value)
    | some (stored, value) =>
      if offered.stamp < stored then some (stored, value) else some (offered.stamp, offered.value)

/-- `offered` is not blocked and no other write that is not blocked has a later stamp or another
value at the same stamp. -/
def Wins (offered : Write τ α) (writes : List (Write τ α)) : Prop :=
  offered.blocked = false ∧ ∀ other ∈ writes, other.blocked = false →
    other.stamp < offered.stamp ∨ other.stamp = offered.stamp ∧ other.value = offered.value

variable {cell : Option (τ × α)} {offered : Write τ α}

theorem write_of_wins (unblocked : offered.blocked = false)
    (older : ∀ held value, cell = some (held, value) → held ≤ offered.stamp) :
    write cell offered = some (offered.stamp, offered.value) := by
  unfold write
  rw [unblocked]
  cases cell with
  | none => rfl
  | some entry => simp [not_lt.mpr (older entry.1 entry.2 rfl)]

theorem write_older {bound : τ} (below : offered.blocked = false → offered.stamp ≤ bound)
    (older : ∀ held value, cell = some (held, value) → held ≤ bound) :
    ∀ held value, write cell offered = some (held, value) → held ≤ bound := by
  intro held value hw
  unfold write at hw
  split at hw
  · exact older held _ hw
  rename_i open'
  split at hw
  · cases hw
    exact below (by simpa using open')
  split at hw
  · cases hw
    exact older _ _ rfl
  · cases hw
    exact below (by simpa using open')

theorem foldl_write_settled {stamp : τ} {value : α} (writes : List (Write τ α))
    (older : ∀ other ∈ writes, other.blocked = false →
      other.stamp < stamp ∨ other.stamp = stamp ∧ other.value = value) :
    writes.foldl write (some (stamp, value)) = some (stamp, value) := by
  induction writes with
  | nil => rfl
  | cons offered _ ih =>
    have kept : write (some (stamp, value)) offered = some (stamp, value) := by
      unfold write
      by_cases blocked : offered.blocked
      · simp [blocked]
      · rcases older offered (by simp) (by simpa using blocked) with before | ⟨hs, also⟩
        · simp [before]
        · simp [hs, also]
    rw [List.foldl_cons, kept]
    exact ih fun _ hm => older _ (by simp [hm])

theorem foldl_write_of_wins {writes : List (Write τ α)}
    (hm : offered ∈ writes) (wins : Wins offered writes)
    (older : ∀ held value, cell = some (held, value) → held ≤ offered.stamp) :
    writes.foldl write cell = some (offered.stamp, offered.value) := by
  induction writes generalizing cell with
  | nil => simp at hm
  | cons first rest ih =>
    have later : Wins offered rest :=
      ⟨wins.1, fun _ inRest => wins.2 _ (by simp [inRest])⟩
    rw [List.foldl_cons]
    rcases List.mem_cons.mp hm with rfl | inRest
    · rw [write_of_wins wins.1 older]
      exact foldl_write_settled _ later.2
    · refine ih inRest later (write_older (fun unblocked => ?_) older)
      rcases wins.2 first (by simp) unblocked with before | ⟨hs, -⟩
      · exact before.le
      · exact hs.le

end SessionManager.Foundation.StampedCell
