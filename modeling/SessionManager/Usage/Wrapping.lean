import SessionManager.Foundation.Fallible
import SessionManager.Usage.Transcript

/-! Token counts in 64 bits. The checks of a usage record compare wrapped sums; here the same checks are
made on the integers, and the two agree exactly when the sums fit. -/
namespace SessionManager.Usage
open Foundation List Fallible

def TokenBuckets.total (buckets : TokenBuckets) : Int :=
  buckets.input + buckets.output + buckets.cacheWrite5m + buckets.cacheWrite1h + buckets.cacheRead

namespace CodexTotals

variable (totals : CodexTotals)

/-- The checks on integers without bound. -/
def validate : Except String Unit :=
  if [totals.input, totals.cachedInput, totals.cacheWrite, totals.output, totals.reasoning,
      totals.total].any (· < 0) then
    .error "Codex cumulative totals must not be negative"
  else if totals.input + totals.output ≠ totals.total then
    .error "Codex input + output must equal total"
  else if totals.input < totals.cachedInput + totals.cacheWrite then
    .error "Codex cached and cache-write tokens must be nested in input"
  else if totals.output < totals.reasoning then
    .error "Codex reasoning tokens must be nested in output"
  else .ok ()

def delta (previous : Option CodexCursor) : Except String TokenBuckets := do
  totals.validate
  let delta := totals.since ((previous.map CodexCursor.last).getD zero)
  delta.validate
  let tokens := delta.buckets
  tokens.validate
  if tokens.total ≠ delta.total then
    .error "normalized Codex buckets do not equal cumulative total delta"
  else pure tokens

/-- The sums of the checks do not wrap. -/
def SumsFit : Prop :=
  wrap (totals.input + totals.output) = totals.input + totals.output ∧
    wrap (totals.cachedInput + totals.cacheWrite) = totals.cachedInput + totals.cacheWrite

variable {totals}

theorem validate_ok (valid : totals.validate = .ok ()) :
    (0 ≤ totals.cachedInput ∧ 0 ≤ totals.cacheWrite ∧ 0 ≤ totals.reasoning) ∧
      totals.input + totals.output = totals.total ∧
      totals.cachedInput + totals.cacheWrite ≤ totals.input ∧ totals.reasoning ≤ totals.output := by
  unfold validate at valid
  obtain ⟨hpo, valid⟩ := guard_ok.mp valid
  split at valid
  · cases valid
  split at valid
  · cases valid
  split at valid
  · cases valid
  simp only [any_cons, any_nil, Bool.or_eq_true, decide_eq_true_eq] at hpo
  omega

theorem delta_ok {previous : Option CodexCursor} {tokens : TokenBuckets}
    (counted : totals.delta previous = .ok tokens) :
    (totals.since ((previous.map CodexCursor.last).getD zero)).validate = .ok () ∧
      tokens = (totals.since ((previous.map CodexCursor.last).getD zero)).buckets := by
  obtain ⟨_, _, counted⟩ := bind_eq_ok.mp counted
  obtain ⟨_, valid, counted⟩ := bind_eq_ok.mp counted
  obtain ⟨_, _, counted⟩ := bind_eq_ok.mp counted
  split at counted
  · cases counted
  · cases counted
    exact ⟨valid, rfl⟩

theorem buckets_total (valid : totals.validate = .ok ()) : totals.buckets.total = totals.total := by
  obtain ⟨_, _, _⟩ := validate_ok valid
  simp only [buckets, TokenBuckets.total]
  omega

theorem validateWrapping_ok (valid : totals.validateWrapping = .ok ()) :
    (0 ≤ totals.input ∧ 0 ≤ totals.cachedInput ∧ 0 ≤ totals.cacheWrite ∧ 0 ≤ totals.output ∧
      0 ≤ totals.reasoning ∧ 0 ≤ totals.total) ∧ wrap (totals.input + totals.output) = totals.total ∧
      wrap (totals.cachedInput + totals.cacheWrite) ≤ totals.input ∧
      totals.reasoning ≤ totals.output := by
  unfold validateWrapping at valid
  obtain ⟨hpo, valid⟩ := guard_ok.mp valid
  split at valid
  · cases valid
  split at valid
  · cases valid
  split at valid
  · cases valid
  simp only [any_cons, any_nil, Bool.or_eq_true, decide_eq_true_eq] at hpo
  omega

/-- Accepted totals are exact when cached and written input together fit. -/
theorem validate_of_wrapping (hr : totals.wrapped = totals) (valid : totals.validateWrapping = .ok ())
    (below : totals.cachedInput + totals.cacheWrite < 2 ^ 63) :
    totals.validate = .ok () ∧ totals.SumsFit := by
  have hv := validateWrapping_ok valid
  obtain ⟨_, _, _, _, _, _⟩ := totals
  simp only [wrapped, mk.injEq, wrap] at hr hv below
  constructor
  · simp only [validate, any_cons, any_nil, Bool.or_eq_true, decide_eq_true_eq, Bool.false_eq_true,
      or_false]
    rw [if_neg (by omega), if_neg (by omega), if_neg (by omega), if_neg (by omega)]
  · simp only [SumsFit, wrap]
    omega

theorem since_wrapped {previous : CodexTotals} (hr : totals.wrapped = totals)
    (hp : previous.wrapped = previous) (own : totals.validateWrapping = .ok ())
    (valid : (totals.since previous).wrapped.validateWrapping = .ok ()) :
    (totals.since previous).wrapped = totals.since previous := by
  have own := (validateWrapping_ok own).1
  have hpo := (validateWrapping_ok valid).1
  obtain ⟨_, _, _, _, _, _⟩ := totals
  obtain ⟨_, _, _, _, _, _⟩ := previous
  simp only [wrapped, since, mk.injEq, wrap] at *
  omega

theorem bucketsWrapping_eq (hr : totals.wrapped = totals) (valid : totals.validate = .ok ()) :
    totals.bucketsWrapping = totals.buckets := by
  have hv := validate_ok valid
  obtain ⟨_, _, _, _, _, _⟩ := totals
  simp only [bucketsWrapping, buckets, TokenBuckets.mk.injEq, wrapped, mk.injEq, wrap, and_true] at *
  omega

section

variable {previous : Option CodexCursor} {tokens : TokenBuckets} (hr : totals.wrapped = totals)
  (hp : ((previous.map CodexCursor.last).getD zero).wrapped =
    (previous.map CodexCursor.last).getD zero)
  (accepted : totals.deltaWrapping previous = .ok tokens)
include hr hp accepted

theorem deltaWrapping_ok : totals.validateWrapping = .ok () ∧
    (totals.since ((previous.map CodexCursor.last).getD zero)).validateWrapping = .ok () ∧
    (totals.since ((previous.map CodexCursor.last).getD zero)).wrapped =
      totals.since ((previous.map CodexCursor.last).getD zero) := by
  obtain ⟨_, valid, accepted⟩ := bind_eq_ok.mp accepted
  obtain ⟨_, grown, _⟩ := bind_eq_ok.mp accepted
  have hs := since_wrapped hr hp valid grown
  rw [hs] at grown
  exact ⟨valid, grown, hs⟩

/-- What the wrapping code accepts is what the integers give, when cached and written input fit. -/
theorem delta_of_wrapping (own : totals.cachedInput + totals.cacheWrite < 2 ^ 63)
    (more : (totals.since ((previous.map CodexCursor.last).getD zero)).cachedInput +
      (totals.since ((previous.map CodexCursor.last).getD zero)).cacheWrite < 2 ^ 63) :
    totals.delta previous = .ok tokens ∧ totals.SumsFit ∧
      (totals.since ((previous.map CodexCursor.last).getD zero)).SumsFit ∧
      wrap tokens.total = tokens.total := by
  obtain ⟨valid, grown, hs⟩ := deltaWrapping_ok hr hp accepted
  obtain ⟨_, _, accepted⟩ := bind_eq_ok.mp accepted
  obtain ⟨_, _, accepted⟩ := bind_eq_ok.mp accepted
  obtain ⟨_, checked, accepted⟩ := bind_eq_ok.mp accepted
  rw [hs] at checked accepted
  obtain ⟨valid, sums⟩ := validate_of_wrapping hr valid own
  obtain ⟨grown, more⟩ := validate_of_wrapping hs grown more
  have total := buckets_total grown
  rw [bucketsWrapping_eq hs grown] at checked accepted
  split at accepted
  · cases accepted
  cases accepted
  refine ⟨?_, sums, more, total ▸ congrArg CodexTotals.total hs⟩
  refine bind_eq_ok.mpr ⟨_, valid, bind_eq_ok.mpr ⟨_, grown, bind_eq_ok.mpr ⟨_, checked, ?_⟩⟩⟩
  exact if_neg (not_not.mpr total)

end

end CodexTotals

theorem TokenBuckets.totalWrapping_eq_iff {buckets : TokenBuckets}
    (valid : buckets.validate = .ok ()) :
    buckets.totalWrapping = buckets.total ↔ buckets.total < 2 ^ 63 := by
  unfold TokenBuckets.validate at valid
  obtain ⟨hpo, valid⟩ := guard_ok.mp valid
  simp only [any_cons, any_nil, Bool.or_eq_true, decide_eq_true_eq] at hpo
  simp only [TokenBuckets.totalWrapping, TokenBuckets.total, wrap]
  omega

/-- The sums of an accepted record fit, and its checks hold of the integers, exactly when cached and
written input together fit (in the cumulative totals and in their growth) or, for buckets, when their
total fits. -/
theorem accepted_counts_exact_iff (totals : CodexTotals) (previous : Option CodexCursor)
    (tokens buckets : TokenBuckets) :
    (totals.wrapped = totals → (∀ cursor ∈ previous, cursor.last.wrapped = cursor.last) →
      totals.deltaWrapping previous = .ok tokens →
      let growth := totals.since ((previous.map CodexCursor.last).getD .zero)
      (totals.delta previous = .ok tokens ∧ totals.SumsFit ∧ growth.SumsFit ∧
          wrap tokens.total = tokens.total ↔
        totals.cachedInput + totals.cacheWrite < 2 ^ 63 ∧
          growth.cachedInput + growth.cacheWrite < 2 ^ 63)) ∧
    (buckets.validate = .ok () →
      (buckets.totalWrapping = buckets.total ↔ buckets.total < 2 ^ 63)) := by
  refine ⟨?_, TokenBuckets.totalWrapping_eq_iff⟩
  intro hr hp accepted growth
  have before : ((previous.map CodexCursor.last).getD .zero).wrapped =
      (previous.map CodexCursor.last).getD .zero := by
    cases previous with
    | none => rfl
    | some cursor => exact hp cursor rfl
  constructor
  · rintro ⟨-, own, more, -⟩
    unfold CodexTotals.SumsFit wrap at own more
    omega
  · rintro ⟨own, more⟩
    exact CodexTotals.delta_of_wrapping hr before accepted own more

theorem small_counts_exact :
    (CodexTotals.delta ⟨5, 1, 1, 2, 1, 7⟩ none).isOk ∧
      TokenBuckets.totalWrapping ⟨3, 2, 1, 1, 0, 1⟩ = 7 := by
  have exact := accepted_counts_exact_iff ⟨5, 1, 1, 2, 1, 7⟩ none ⟨3, 2, 1, 1, 0, 1⟩
    ⟨3, 2, 1, 1, 0, 1⟩
  refine ⟨?_, (exact.2 rfl).mpr (by decide)⟩
  rw [((exact.1 rfl (fun _ none => nomatch none) rfl).mpr (by decide)).1]
  rfl

/-- Cached and written input of 2^63 - 1 each are taken to be nested in no input at all. -/
theorem wrapped_counts_accepted :
    (CodexTotals.deltaWrapping ⟨0, 2 ^ 63 - 1, 2 ^ 63 - 1, 0, 0, 0⟩ none).isOk ∧
      ¬(CodexTotals.delta ⟨0, 2 ^ 63 - 1, 2 ^ 63 - 1, 0, 0, 0⟩ none).isOk ∧
      (TokenBuckets.validate ⟨2 ^ 63 - 1, 1, 0, 0, 0, 0⟩).isOk ∧
      TokenBuckets.totalWrapping ⟨2 ^ 63 - 1, 1, 0, 0, 0, 0⟩ = -2 ^ 63 := by
  decide

end SessionManager.Usage
