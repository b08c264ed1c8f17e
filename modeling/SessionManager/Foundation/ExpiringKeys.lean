import Mathlib.Data.List.Nodup
import Mathlib.Data.Int.Order.Basic

/-! A store of keys that are remembered until a deadline, and a gate that admits an item only
when its key is not remembered. The question answered here is when such a gate admits no item
twice. Nothing is assumed about how keys or deadlines are computed from items. -/
namespace SessionManager.Foundation.ExpiringKeys
open List Option

variable {α κ : Type} {key : κ}

/-- The remembered keys, each with the first second at which it is forgotten. -/
abbrev Store (κ : Type) := κ → Option Int

def empty : Store κ := fun _ => none

def retain (now : Int) (store : Store κ) : Store κ :=
  fun key => (store key).filter (fun deadline => now < deadline)

theorem retain_of_lt {now deadline : Int} {store : Store κ}
    (hst : store key = some deadline) (live : now < deadline) :
    retain now store key = some deadline := by
  simp [retain, hst, live]

variable [DecidableEq κ] {deadline now : Int} {item : α}

def insert (key : κ) (deadline : Int) (store : Store κ) : Store κ :=
  Function.update store key (some deadline)

def record (key : κ) (deadline now : Int) (store : Store κ) : Store κ × Bool :=
  let kept := retain now store
  if (kept key).isSome then (kept, false) else (insert key (max deadline (now + 1)) kept, true)

theorem record_rejected {store : Store κ} (live : (retain now store key).isSome) :
    record key deadline now store = (retain now store, false) := by
  simp [record, live]

theorem record_admitted {store : Store κ} (gone : retain now store key = none) :
    record key deadline now store =
      (insert key (max deadline (now + 1)) (retain now store), true) := by
  simp [record, gone]

theorem record_keeps {key other : κ} {deadline now kept : Int} {store : Store κ}
    (hst : store other = some kept) (live : now < kept) :
    (record key deadline now store).1 other = some kept := by
  have retained := retain_of_lt hst live
  by_cases hs : other = key
  · subst hs
    simp [record_rejected, retained]
  · cases gone : retain now store key with
    | none => simp [record_admitted gone, insert, hs, retained]
    | some => simp [record_rejected, gone, retained]

/-- How items are keyed and until when a key must be remembered at least. -/
structure Gate (α κ : Type) where
  key : α → κ
  deadline : α → Int

structure Offer (α : Type) where
  item : α
  recordedAt : Int

def step (gate : Gate α κ) (store : Store κ) (offer : Offer α) : Store κ × Bool :=
  record (gate.key offer.item) (gate.deadline offer.item) offer.recordedAt store

def admitted (gate : Gate α κ) (store : Store κ) : List (Offer α) → List α
  | [] => []
  | offer :: rest =>
    let after := step gate store offer
    if after.2 then offer.item :: admitted gate after.1 rest else admitted gate after.1 rest

theorem step_admits {gate : Gate α κ} {store : Store κ} {offer : Offer α}
    (ok : (step gate store offer).2) :
    retain offer.recordedAt store (gate.key offer.item) = none ∧
      (step gate store offer).1 (gate.key offer.item) =
        some (max (gate.deadline offer.item) (offer.recordedAt + 1)) := by
  unfold step at ok ⊢
  cases gone : retain offer.recordedAt store (gate.key offer.item) with
  | none => exact ⟨rfl, by simp [record_admitted gone, insert]⟩
  | some => simp [record_rejected, gone] at ok

theorem mem_admitted {gate : Gate α κ} {store : Store κ} {offers : List (Offer α)}
    (hm : item ∈ admitted gate store offers) : ∃ offer ∈ offers, offer.item = item := by
  induction offers generalizing store with
  | nil => simp [admitted] at hm
  | cons offer _ ih =>
    rw [admitted] at hm
    split at hm
    · rcases mem_cons.mp hm with rfl | later
      · exact ⟨_, by simp, rfl⟩
      · obtain ⟨hf, inRest, hs⟩ := ih later
        exact ⟨hf, by simp [inRest], hs⟩
    · obtain ⟨hf, inRest, hs⟩ := ih hm
      exact ⟨hf, by simp [inRest], hs⟩

def Ordered (offers : List (Offer α)) : Prop :=
  offers.Pairwise fun first second => first.recordedAt ≤ second.recordedAt

/-- Whenever an item comes again, its key cannot have been forgotten since. -/
def InTime (gate : Gate α κ) (offers : List (Offer α)) : Prop :=
  offers.Pairwise fun first second => first.item = second.item →
    second.recordedAt < max (gate.deadline first.item) (first.recordedAt + 1)

theorem not_mem_admitted {gate : Gate α κ} {kept : Int} {offers : List (Offer α)}
    {store : Store κ} (ordered : Ordered offers) (hst : store (gate.key item) = some kept)
    (early : ∀ offer ∈ offers, offer.item = item → offer.recordedAt < kept) :
    item ∉ admitted gate store offers := by
  induction offers generalizing store with
  | nil => simp [admitted]
  | cons offer rest ih =>
    intro hm
    have later : item ∈ admitted gate (step gate store offer).1 rest := by
      rw [admitted] at hm
      split at hm
      · rename_i ok
        rcases mem_cons.mp hm with rfl | later
        · have live := retain_of_lt hst (early _ (by simp) rfl)
          rw [(step_admits ok).1] at live
          cases live
        · exact later
      · exact hm
    -- an offer that comes later still finds the key, so this offer does as well
    obtain ⟨_, inRest, hs⟩ := mem_admitted later
    have live : offer.recordedAt < kept :=
      lt_of_le_of_lt (rel_of_pairwise_cons ordered inRest) (early _ (by simp [inRest]) hs)
    exact ih (List.Pairwise.of_cons ordered) (record_keeps hst live)
      (fun hf inFound => early hf (by simp [inFound])) later

theorem admitted_nodup {gate : Gate α κ} {offers : List (Offer α)} (store : Store κ)
    (ordered : Ordered offers) (inTime : InTime gate offers) :
    (admitted gate store offers).Nodup := by
  induction offers generalizing store with
  | nil => simp [admitted]
  | cons offer _ ih =>
    have tail := ih (step gate store offer).1 (List.Pairwise.of_cons ordered)
      (List.Pairwise.of_cons inTime)
    rw [admitted]
    split
    · rename_i ok
      refine nodup_cons.mpr
        ⟨not_mem_admitted (List.Pairwise.of_cons ordered) (step_admits ok).2 ?_, tail⟩
      intro _ inRest hs
      exact rel_of_pairwise_cons inTime inRest hs.symm
    · exact tail

theorem admitted_pair {gate : Gate α κ} {first second : Offer α} (hs : first.item = second.item)
    (late : max (gate.deadline first.item) (first.recordedAt + 1) ≤ second.recordedAt) :
    admitted gate empty [first, second] = [first.item, first.item] := by
  have hfr : retain first.recordedAt (empty : Store κ) (gate.key first.item) = none := by
    simp [retain, empty]
  have gone : retain second.recordedAt
      (insert (gate.key first.item) (max (gate.deadline first.item) (first.recordedAt + 1))
        (retain first.recordedAt (empty : Store κ))) (gate.key second.item) = none := by
    rw [← hs]
    simpa [retain, insert] using late
  simp only [admitted, step, if_true, record_admitted hfr, record_admitted gone]
  rw [hs]

/-- A gate is safe on a run and on everything that leaves out some of its offers exactly when
the run is in time. -/
theorem forall_sublist_nodup_iff (gate : Gate α κ) {offers : List (Offer α)}
    (ordered : Ordered offers) :
    (∀ part, part.Sublist offers → (admitted gate empty part).Nodup) ↔ InTime gate offers := by
  constructor
  · intro safe
    rw [InTime, pairwise_iff_forall_sublist]
    intro first _ pair hs
    by_contra late
    have twice := safe [first, _] pair
    rw [admitted_pair hs (not_lt.mp late)] at twice
    simp at twice
  · intro inTime part sub
    exact admitted_nodup _ (List.Pairwise.sublist sub ordered)
      (List.Pairwise.sublist sub inTime)

/-- A server in front of a gate: what a request presents once all its other checks passed, and
the clock reading at which the store is consulted for it. -/
structure Endpoint (ρ α κ : Type) where
  gate : Gate α κ
  presents : ρ → Option α
  recordedAt : ρ → Int

variable {ρ : Type}

def Endpoint.offer (endpoint : Endpoint ρ α κ) (request : ρ) : Option (Offer α) :=
  (endpoint.presents request).map fun item => ⟨item, endpoint.recordedAt request⟩

def Endpoint.admitted (endpoint : Endpoint ρ α κ) (store : Store κ) (requests : List ρ) : List α :=
  ExpiringKeys.admitted endpoint.gate store (requests.filterMap endpoint.offer)

def Endpoint.InTime (endpoint : Endpoint ρ α κ) (requests : List ρ) : Prop :=
  requests.Pairwise fun first second => ∀ item, endpoint.presents first = some item →
    endpoint.presents second = some item → endpoint.recordedAt second <
        max (endpoint.gate.deadline item) (endpoint.recordedAt first + 1)

theorem Endpoint.forall_sublist_nodup_iff (endpoint : Endpoint ρ α κ) {requests : List ρ}
    (ordered : requests.Pairwise fun first second =>
      endpoint.recordedAt first ≤ endpoint.recordedAt second) :
    (∀ part, part.Sublist requests → (endpoint.admitted empty part).Nodup) ↔
      endpoint.InTime requests := by
  have offersOrdered : Ordered (requests.filterMap endpoint.offer) := by
    refine pairwise_filterMap.mpr (ordered.imp ?_)
    rintro first second le a ha b hb
    obtain ⟨item, -, rfl⟩ := map_eq_some_iff.mp ha
    obtain ⟨item', -, rfl⟩ := map_eq_some_iff.mp hb
    exact le
  have parts : (∀ part, part.Sublist requests → (endpoint.admitted empty part).Nodup) ↔
      ∀ offers, offers.Sublist (requests.filterMap endpoint.offer) →
        (ExpiringKeys.admitted endpoint.gate empty offers).Nodup := by
    constructor
    · intro safe offers sub
      obtain ⟨part, subPart, rfl⟩ := sublist_filterMap_iff.mp sub
      exact safe _ subPart
    · intro safe part sub
      exact safe _ (sub.filterMap endpoint.offer)
  rw [parts, ExpiringKeys.forall_sublist_nodup_iff endpoint.gate offersOrdered,
    ExpiringKeys.InTime, pairwise_filterMap, Endpoint.InTime]
  refine ⟨fun h => h.imp ?_, fun h => h.imp ?_⟩
  · intro first second early item hfirst hsecond
    exact early ⟨_, endpoint.recordedAt _⟩ (by simp [Endpoint.offer, hfirst])
      ⟨_, endpoint.recordedAt _⟩ (by simp [Endpoint.offer, hsecond]) rfl
  · intro first second early a ha b hb hs
    obtain ⟨item, hfirst, rfl⟩ := map_eq_some_iff.mp ha
    obtain ⟨item', hsecond, rfl⟩ := map_eq_some_iff.mp hb
    cases hs
    exact early _ hfirst hsecond

end SessionManager.Foundation.ExpiringKeys
