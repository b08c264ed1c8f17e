import Mathlib.Data.List.Basic
import Mathlib.Order.Lattice

/-! A cell that keeps the newest of the values offered to it, behind a gate. An offer is taken where its
stamp is later than the floor and than what is held; a clear raises the floor and empties the cell. The
cell is compared with what the signals themselves say: the offer with the latest stamp, if every clear
is earlier. Offers may come in any order. Clears have to come in time. -/
namespace SessionManager.Foundation.GatedCell
open List

variable {τ α : Type}

structure Cell (τ α : Type) where
  floor : Option τ
  held : Option (τ × α)

inductive Signal (τ α : Type)
  | offer (stamp : τ) (value : α)
  | clear (stamp : τ)

section

def clears (signals : List (Signal τ α)) : List τ :=
  signals.filterMap fun signal =>
    match signal with
    | .offer _ _ => none
    | .clear stamp => some stamp

variable {signals : List (Signal τ α)} {stamp : τ} {value : α}

theorem clears_append_offer : clears (signals ++ [.offer stamp value]) = clears signals := by
  rw [clears, filterMap_append]
  exact append_nil _

theorem clears_append_clear : clears (signals ++ [.clear stamp]) = clears signals ++ [stamp] := by
  rw [clears, filterMap_append]
  rfl

theorem mem_clears : stamp ∈ clears signals ↔ Signal.clear stamp ∈ signals := by
  unfold clears
  rw [mem_filterMap]
  constructor
  · rintro ⟨signal, hm, hs⟩
    cases signal with
    | offer => cases hs
    | clear =>
      cases hs
      exact hm
  · intro hm
    exact ⟨_, hm, rfl⟩

end

variable [LinearOrder τ] {held : τ × α}

def Cell.accepts (cell : Cell τ α) (stamp : τ) : Bool :=
  (cell.floor.all fun floor => floor < stamp) && cell.held.all fun held => held.1 < stamp

section

/-- The offer with the latest stamp, the first of them on a tie. -/
def newest (signals : List (Signal τ α)) : Option (τ × α) :=
  signals.foldl (fun best signal =>
    match signal with
    | .offer stamp value =>
      if best.all fun held => held.1 < stamp then some (stamp, value) else best
    | .clear _ => best) none

/-- What the cell should hold after the signals, in whatever order they came. -/
def current (signals : List (Signal τ α)) : Option (τ × α) :=
  (newest signals).filter fun held => (clears signals).all fun stamp => stamp < held.1

variable {signals : List (Signal τ α)} {stamp : τ} {value : α}

theorem newest_append_offer : newest (signals ++ [.offer stamp value]) =
      if (newest signals).all fun held => held.1 < stamp then some (stamp, value)
      else newest signals := by
  rw [newest, foldl_append]
  rfl

theorem newest_append_clear : newest (signals ++ [.clear stamp]) = newest signals := by
  rw [newest, foldl_append]
  rfl

theorem current_append_offer : current (signals ++ [.offer stamp value]) =
      if (∀ held, newest signals = some held → held.1 < stamp) ∧
        ∀ clear ∈ clears signals, clear < stamp then some (stamp, value)
      else current signals := by
  unfold current
  rw [clears_append_offer, newest_append_offer]
  cases _ : newest signals with
  | none => simp [Option.filter]
  | some held =>
    by_cases newer : held.1 < stamp
    · by_cases after : ∀ clear ∈ clears signals, clear < stamp
      · rw [if_pos (by simpa using newer), Option.filter_some, if_pos (by simpa using after),
          if_pos ⟨fun _ hs => Option.some.inj hs ▸ newer, after⟩]
      · -- a clear that the offer does not pass is one that nothing older passes
        have stuck : ¬∀ clear ∈ clears signals, clear < held.1 := by
          intro hpa
          exact after fun clear hm => (hpa clear hm).trans newer
        simp [Option.filter, newer, after, stuck]
    · simp [newer]

theorem current_append_clear : current (signals ++ [.clear stamp]) =
      (current signals).filter fun held => stamp < held.1 := by
  unfold current
  rw [clears_append_clear, newest_append_clear, Option.filter_filter]
  congr 1
  simp [all_append]

theorem current_some (is : current signals = some held) :
    newest signals = some held ∧ ∀ clear ∈ clears signals, clear < held.1 := by
  obtain ⟨best, hpa⟩ := Option.filter_eq_some_iff.mp is
  simp only [all_eq_true, decide_eq_true_eq] at hpa
  exact ⟨best, hpa⟩

theorem current_none (is : current signals = none)
    (best : newest signals = some held) : ∃ clear ∈ clears signals, held.1 ≤ clear := by
  unfold current at is
  rw [best, Option.filter_some] at is
  split at is
  · cases is
  · next hpa =>
      simp only [all_eq_true, decide_eq_true_eq, not_forall, not_lt] at hpa
      obtain ⟨clear, hm, before⟩ := hpa
      exact ⟨clear, hm, before⟩

end

/-- The cell holds what it should, and no clear can be passed by an offer that is older than it. -/
structure Tracks (signals : List (Signal τ α)) (cell : Cell τ α) : Prop where
  held : cell.held = current signals
  covered : ∀ clear ∈ clears signals, (∃ floor, cell.floor = some floor ∧ clear ≤ floor) ∨
    ∃ held, cell.held = some held ∧ clear < held.1
  floor : ∀ floor, cell.floor = some floor → floor ∈ clears signals

/-- The clears that come in time: none is earlier than a clear before it or than what is held. -/
def Timely (signals : List (Signal τ α)) (cell : Cell τ α) : Signal τ α → Prop
  | .offer _ _ => True
  | .clear stamp => (∀ clear ∈ clears signals, clear ≤ stamp) ∧
      ∀ held, cell.held = some held → held.1 ≤ stamp

section

variable {signals : List (Signal τ α)} {cell : Cell τ α} {stamp : τ} {value : α}

theorem tracks_empty : Tracks ([] : List (Signal τ α)) ⟨none, none⟩ where
  held := rfl
  covered := fun _ hm => nomatch hm
  floor := fun _ h => nomatch h

theorem accepts_eq_true : cell.accepts stamp ↔ (∀ floor, cell.floor = some floor → floor < stamp) ∧
      ∀ held, cell.held = some held → held.1 < stamp := by
  simp only [Cell.accepts, Bool.and_eq_true, Option.all_eq_true, decide_eq_true_eq]

section

variable (tracks : Tracks signals cell) (hac : cell.accepts stamp)
include tracks hac

theorem Tracks.clears_lt : ∀ clear ∈ clears signals, clear < stamp := by
  obtain ⟨floors, helds⟩ := accepts_eq_true.mp hac
  intro clear hm
  rcases tracks.covered clear hm with ⟨_, is, before⟩ | ⟨held, is, before⟩
  · exact before.trans_lt (floors _ is)
  · exact before.trans (helds held is)

theorem Tracks.newest_lt (best : newest signals = some held) : held.1 < stamp := by
  cases is : current signals with
  | some kept =>
    have hs : kept = held := Option.some.inj ((current_some is).1.symm.trans best)
    exact (accepts_eq_true.mp hac).2 held (tracks.held.trans (hs ▸ is))
  | none =>
    obtain ⟨clear, hm, before⟩ := current_none is best
    exact before.trans_lt (tracks.clears_lt hac clear hm)

/-- An accepted offer is held; the floor may be dropped with it, since the held stamp takes its place. -/
theorem Tracks.offer_accepted {floor : Option τ} (floors : floor = cell.floor ∨ floor = none) :
    Tracks (signals ++ [.offer stamp value]) ⟨floor, some (stamp, value)⟩ where
  held := by
    rw [current_append_offer, if_pos]
    exact ⟨fun held best => tracks.newest_lt hac best, tracks.clears_lt hac⟩
  covered := by
    rw [clears_append_offer]
    intro clear hm
    exact .inr ⟨_, rfl, tracks.clears_lt hac clear hm⟩
  floor := by
    rw [clears_append_offer]
    rintro kept rfl
    rcases floors with hs | dropped
    · exact tracks.floor kept hs.symm
    · cases dropped

end

theorem Tracks.offer_refused (tracks : Tracks signals cell) (refused : cell.accepts stamp = false) :
    Tracks (signals ++ [.offer stamp value]) cell := by
  have hun : current (signals ++ [.offer stamp value]) = current signals := by
    rw [current_append_offer, if_neg]
    rintro ⟨newer, after⟩
    rw [← Bool.not_eq_true, accepts_eq_true] at refused
    refine refused ⟨?_, ?_⟩
    · intro _ is
      exact after _ (tracks.floor _ is)
    · intro held is
      exact newer held (current_some (tracks.held.symm.trans is)).1
  refine ⟨tracks.held.trans hun.symm, ?_, ?_⟩
  · rw [clears_append_offer]
    exact tracks.covered
  · rw [clears_append_offer]
    exact tracks.floor

/-- A clear leaves a cell that tracks the signals exactly where it comes in time. -/
theorem Tracks.clear_iff (tracks : Tracks signals cell) :
    Tracks (signals ++ [.clear stamp]) ⟨some stamp, none⟩ ↔ Timely signals cell (.clear stamp) := by
  constructor
  · intro after
    refine ⟨?_, ?_⟩
    · intro clear hm
      have hi : clear ∈ clears (signals ++ [.clear stamp]) := by
        rw [clears_append_clear]
        exact mem_append_left _ hm
      rcases after.covered clear hi with ⟨floor, is, before⟩ | ⟨held, h, -⟩
      · cases is
        exact before
      · cases h
    · intro held is
      by_contra later
      have kept := after.held
      rw [current_append_clear, ← tracks.held, is, Option.filter_some,
        if_pos (decide_eq_true (not_le.mp later))] at kept
      cases kept
  · rintro ⟨clears_le, held_le⟩
    refine ⟨?_, ?_, ?_⟩
    · rw [current_append_clear, ← tracks.held]
      cases is : cell.held with
      | none => rfl
      | some held =>
        rw [Option.filter_some, if_neg]
        rw [decide_eq_true_eq, not_lt]
        exact held_le held is
    · intro clear hm
      rw [clears_append_clear] at hm
      rcases mem_append.mp hm with old | new
      · exact .inl ⟨_, rfl, clears_le clear old⟩
      · exact .inl ⟨_, rfl, (mem_singleton.mp new).le⟩
    · rintro floor ⟨⟩
      rw [clears_append_clear]
      exact mem_append_right _ (mem_singleton.mpr rfl)

end

end SessionManager.Foundation.GatedCell
