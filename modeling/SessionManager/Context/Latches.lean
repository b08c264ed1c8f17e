import Mathlib.Data.List.Chain
import SessionManager.Context.EmissionOrder

/-! The alerts of one context cycle. A sample alerts when it reaches a threshold that is not reported,
and then reports all that it reaches. Sessions of older versions only have the flags of the first and
the last threshold. -/
namespace SessionManager.Context
open List

variable (host : ContextHost) (config : ContextMonitorConfig)

def latchSamples (session : ContextSession) (samples : List Rat) : ContextSession :=
  samples.foldl (fun session sample => (latchContextAlert host config session sample).1) session

/-- The monitor is enabled with thresholds that resolve. -/
structure Monitored (thresholds : EffectiveThresholds) (session : ContextSession) : Prop where
  notified : (jsonText session.contextMonitorNotify).isSome
  resolved : resolveContextMonitorThresholds session.contextMonitorThresholdPercentages
    session.contextMonitorWarningPercentage session.contextMonitorCriticalPercentage config =
      .ok thresholds

variable {config} {thresholds : EffectiveThresholds} {session : ContextSession}

theorem increasing_of_zip {values : List Rat}
    (hz : ∀ pair ∈ values.zip values.tail, pair.1 < pair.2) : values.Pairwise (· < ·) := by
  rw [← isChain_iff_pairwise]
  induction values with
  | nil => exact .nil
  | cons _ rest ih =>
    cases rest with
    | nil => exact .singleton _
    | cons _ rest =>
      refine .cons_cons (hz (_, _) mem_cons_self) (ih fun pair hm => ?_)
      exact hz pair (mem_cons_of_mem _ hm)

theorem Monitored.valid (hm : Monitored config thresholds session) :
    thresholds.percentages ≠ [] ∧ thresholds.percentages.Nodup := by
  have resolved := hm.resolved
  unfold resolveContextMonitorThresholds at resolved
  extract_lets _ percentages at resolved
  split at resolved
  · cases resolved
  split at resolved
  · cases resolved
  next hz =>
    cases resolved
    simp only [Bool.or_eq_true, List.isEmpty_iff, any_eq_true, decide_eq_true_eq, not_or, not_exists,
      not_and, not_le] at hz
    exact ⟨hz.1, (increasing_of_zip hz.2).imp ne_of_lt⟩

theorem Monitored.latch (hm : Monitored config thresholds session) (sample : Rat) :
    let reported := contextReportedThresholds session thresholds.percentages
    let result := latchContextAlert host config session sample
    Monitored config thresholds result.1 ∧
      (result.2.isSome ↔ ∃ threshold ∈ thresholds.percentages, threshold ≤ sample ∧
        threshold ∉ reported) ∧
      contextReportedThresholds result.1 thresholds.percentages = reported ++
        thresholds.percentages.filter fun threshold =>
          decide (threshold ≤ sample) && !reported.contains threshold := by
  obtain ⟨_, notify⟩ := Option.isSome_iff_exists.mp hm.notified
  simp only [latchContextAlert, notify, hm.resolved]
  split
  next none =>
    refine ⟨hm, ?_, by rw [List.isEmpty_iff.mp none, append_nil]⟩
    simpa [not_imp_not] using none
  next some =>
    refine ⟨⟨hm.notified, hm.resolved⟩, ?_, rfl⟩
    simpa [and_assoc] using some

theorem Monitored.start_valid (hm : Monitored config thresholds session)
    (start : session.contextReportedThresholds = none ∨
      session.contextReportedThresholds = some []) :
    (contextReportedThresholds session thresholds.percentages).Nodup ∧
      contextReportedThresholds session thresholds.percentages ⊆ thresholds.percentages := by
  obtain ⟨hne, -⟩ := hm.valid
  have _ : thresholds.percentages.headD 0 ∈ thresholds.percentages := by
    rw [headD_eq_head?_getD, head?_eq_some_head hne]
    exact head_mem hne
  have _ : thresholds.percentages.getLastD 0 ∈ thresholds.percentages := by
    rw [getLastD_eq_getLast?, getLast?_eq_some_getLast hne]
    exact getLast_mem hne
  rcases start with legacy | fresh
  · simp only [contextReportedThresholds, legacy]
    split <;> split <;> grind
  · simp [contextReportedThresholds, fresh]

/-- An alert is raised exactly at a sample that reaches a threshold which is not reported; it adds the
thresholds that it accounts for to the reported ones, and none of them twice. Reported are the
thresholds that were at the start of the cycle and those that a sample has reached. -/
theorem alerts_once_per_threshold (hm : Monitored config thresholds session)
    (start : session.contextReportedThresholds = none ∨
      session.contextReportedThresholds = some []) (before : List Rat) (sample : Rat) :
    let earlier := latchSamples host config session before
    let reported := contextReportedThresholds earlier thresholds.percentages
    ((latchContextAlert host config earlier sample).2.isSome ↔
        ∃ threshold ∈ thresholds.percentages, threshold ≤ sample ∧ threshold ∉ reported) ∧
      contextReportedThresholds (latchSamples host config session (before ++ [sample]))
          thresholds.percentages = reported ++ thresholds.percentages.filter (fun threshold =>
        decide (threshold ≤ sample) && !reported.contains threshold) ∧
      reported.Nodup ∧ ∀ threshold, threshold ∈ reported ↔ threshold ∈ thresholds.percentages ∧
        (threshold ∈ contextReportedThresholds session thresholds.percentages ∨
          ∃ earlier ∈ before, threshold ≤ earlier) := by
  have step (before : List Rat) (sample : Rat) :
      latchSamples host config session (before ++ [sample]) =
        (latchContextAlert host config (latchSamples host config session before) sample).1 :=
    foldl_concat ..
  intro earlier reported
  suffices Monitored config thresholds earlier ∧ reported.Nodup ∧ ∀ threshold,
      threshold ∈ reported ↔ threshold ∈ thresholds.percentages ∧
        (threshold ∈ contextReportedThresholds session thresholds.percentages ∨
          ∃ earlier ∈ before, threshold ≤ earlier) by
    obtain ⟨monitored, known⟩ := this
    obtain ⟨-, alert, added⟩ := monitored.latch host sample
    exact ⟨alert, (step before sample) ▸ added, known⟩
  subst reported earlier
  induction before using reverseRecOn with
  | nil =>
    obtain ⟨hn, hsub⟩ := hm.start_valid start
    refine ⟨hm, hn, fun threshold => ?_⟩
    simpa [latchSamples] using fun ht => hsub ht
  | append_singleton before last ih =>
    obtain ⟨monitored, hn, known⟩ := ih
    obtain ⟨next, -, added⟩ := monitored.latch host last
    rw [step, added]
    refine ⟨next, nodup_append.mpr ⟨hn, hm.valid.2.filter _, ?_⟩, fun threshold => ?_⟩
    · rintro threshold old _ new rfl
      simp [old] at new
    · simp only [mem_append, mem_filter, known, Bool.and_eq_true, decide_eq_true_eq,
        Bool.not_eq_true', contains_eq_mem, decide_eq_false_iff_not, mem_singleton]
      grind

/-- Three milestones, of which the flags of an older version report the first and the last. -/
def flaggedSession : ContextSession :=
  { idleSession with
    contextMonitorEnabled := true
    contextMonitorNotify := some "seat"
    contextMonitorThresholdPercentages := some [50, 70, 90]
    contextWarningSent := true
    contextCriticalSent := true }

/-- The milestone between them is reported by the sample of 75. -/
theorem alerts_once_of_flags :
    (latchContextAlert januaryStamps twoMilestones
        (latchSamples januaryStamps twoMilestones flaggedSession [60]) 75).2.isSome := by
  have hm : Monitored twoMilestones ⟨[50, 70, 90], 50, 90⟩ flaggedSession := by
    constructor <;> decide +kernel
  refine (alerts_once_per_threshold januaryStamps hm (.inl rfl) [60] 75).1.mpr ⟨70, ?_⟩
  decide +kernel

/-- After a sample of 10 the milestones of the flags are reported and the one between them is not. -/
theorem flags_report_unreached :
    contextReportedThresholds (latchSamples januaryStamps twoMilestones flaggedSession [10])
      [50, 70, 90] = [50, 90] := by
  decide +kernel

end SessionManager.Context
