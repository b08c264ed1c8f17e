import Mathlib.Init

/-! Machines that answer every request, and what holds between the answers of a run. -/
namespace SessionManager.Foundation

variable {σ ε ο : Type}

def reached (step : σ → ε → σ × ο) (start : σ) (requests : List ε) : σ :=
  requests.foldl (fun state request => (step state request).1) start

def answers (step : σ → ε → σ × ο) : σ → List ε → List ο
  | _, [] => []
  | state, request :: later =>
    (step state request).2 :: answers step (step state request).1 later

variable {step : σ → ε → σ × ο} {invariant : σ → Prop}

theorem reached_of_invariant
    (hke : ∀ state request, invariant state → invariant (step state request).1)
    {start : σ} (holds : invariant start) (requests : List ε) :
    invariant (reached step start requests) := by
  induction requests generalizing start with
  | nil => exact holds
  | cons request _ ih => exact ih (hke _ _ holds)

theorem forall_answers {good : ο → Prop}
    (hke : ∀ state request, invariant state → invariant (step state request).1)
    (answered : ∀ state request, invariant state → good (step state request).2)
    {start : σ} (holds : invariant start) (requests : List ε) :
    ∀ answer ∈ answers step start requests, good answer := by
  induction requests generalizing start with
  | nil =>
    intro answer h
    cases h
  | cons request _ ih =>
    intro answer hm
    rcases List.mem_cons.mp hm with rfl | after
    · exact answered _ _ holds
    · exact ih (hke _ _ holds) _ after

theorem forall_prefix_cons {P : List ε → ε → Prop} {first : ε} {later : List ε} :
    (∀ earlier event, earlier ++ [event] <+: first :: later → P earlier event) ↔
      P [] first ∧ ∀ earlier event, earlier ++ [event] <+: later → P (first :: earlier) event := by
  constructor
  · exact fun all => ⟨all [] _ (by simp), fun _ _ hwi =>
      all (_ :: _) _ (by simpa using hwi)⟩
  · rintro ⟨hh, rest⟩ (_ | ⟨other, earlier⟩) event hwi
    · obtain rfl : event = first := by simpa using hwi
      exact hh
    · obtain ⟨rfl, hi⟩ : other = first ∧ earlier ++ [event] <+: later := by simpa using hwi
      exact rest _ _ hi

/-- Every state that a run comes to is good exactly if every event is fine where it comes. -/
theorem foldl_good_iff {step : σ → ε → σ} {good : σ → Prop} {fine : σ → ε → Prop}
    {events : List ε} (next : ∀ state, invariant state → ∀ event ∈ events,
      (good (step state event) ↔ fine state event) ∧
        (fine state event → invariant (step state event)))
    {start : σ} (holds : invariant start) :
    (∀ earlier event, earlier ++ [event] <+: events →
      good ((earlier ++ [event]).foldl step start)) ↔
    ∀ earlier event, earlier ++ [event] <+: events → fine (earlier.foldl step start) event := by
  induction events generalizing start with
  | nil => simp
  | cons event _ ih =>
    obtain ⟨hs, hke⟩ := next _ holds _ List.mem_cons_self
    rw [forall_prefix_cons, forall_prefix_cons]
    refine (and_congr_left' hs).trans (and_congr_right fun fine => ?_)
    exact ih (fun _ hi _ hm => next _ hi _ (List.mem_cons_of_mem _ hm)) (hke fine)

/-- Every request of the run is one that the state before it allows. -/
def Throughout (allowed : σ → ε → Prop) (step : σ → ε → σ × ο) : σ → List ε → Prop
  | _, [] => True
  | state, request :: later =>
    allowed state request ∧ Throughout allowed step (step state request).1 later

instance decidableThroughout {allowed : σ → ε → Prop}
    [∀ state request, Decidable (allowed state request)] (start : σ) :
    (requests : List ε) → Decidable (Throughout allowed step start requests)
  | [] => inferInstanceAs (Decidable True)
  | request :: later =>
    have := @decidableThroughout allowed _ (step start request).1 later
    inferInstanceAs (Decidable (_ ∧ _))

theorem reached_of_allowed {allowed : σ → ε → Prop}
    (hke : ∀ state request, invariant state → allowed state request →
      invariant (step state request).1)
    {start : σ} (holds : invariant start) {requests : List ε}
    (throughout : Throughout allowed step start requests) :
    invariant (reached step start requests) := by
  induction requests generalizing start with
  | nil => exact holds
  | cons request _ ih => exact ih (hke _ _ holds throughout.1) throughout.2

/-- An answer may leave a mark on the state. Where the mark lasts and every later answer agrees with
the answer that left it, each two answers of a run agree. -/
theorem pairwise_answers (mark : ο → σ → Prop) {agree : ο → ο → Prop}
    (hke : ∀ state request, invariant state → invariant (step state request).1)
    (marks : ∀ state request, invariant state → mark (step state request).2 (step state request).1)
    (lasts : ∀ answer state request, invariant state → mark answer state →
      mark answer (step state request).1)
    (hag : ∀ answer state request, invariant state → mark answer state →
      agree answer (step state request).2)
    {start : σ} (holds : invariant start) (requests : List ε) :
    (answers step start requests).Pairwise agree := by
  induction requests generalizing start with
  | nil => exact List.Pairwise.nil
  | cons request later ih =>
    have after := hke _ request holds
    have hmk : ∀ state next, invariant state ∧ mark (step start request).2 state →
        invariant (step state next).1 ∧ mark (step start request).2 (step state next).1 :=
      fun _ next both => ⟨hke _ next both.1, lasts _ _ next both.1 both.2⟩
    refine List.Pairwise.cons ?_ (ih after)
    exact forall_answers hmk (fun _ next both => hag _ _ next both.1 both.2)
      ⟨after, marks _ _ holds⟩ _

theorem countP_le_one {kind : ο → Bool} {given : List ο}
    (excludes : given.Pairwise fun earlier later => kind earlier → kind later = false) :
    given.countP kind ≤ 1 := by
  induction given with
  | nil => exact Nat.zero_le 1
  | cons _ later ih =>
    obtain ⟨hh, rest⟩ := List.pairwise_cons.mp excludes
    rw [List.countP_cons]
    split
    · next such =>
        have none_later : later.countP kind = 0 := by
          refine List.countP_eq_zero.mpr ?_
          intro _ hm
          rw [hh _ hm such]
          exact Bool.false_ne_true
        omega
    · have _ := ih rest
      omega

end SessionManager.Foundation
