import SessionManager.Foundation.Latest

/-! Storing a series of values by its changes. A row is stored unless it repeats the value of the
latest stored row up to its moment. Rows may arrive in any order; the stored rows then report the
series at every moment exactly when each row that was left out repeats the row right before it in
time. -/
namespace SessionManager.Foundation.Sampling
open Latest List

variable {α τ ν μ : Type} [LinearOrder τ] [DecidableEq ν] (moment : α → τ) (value : α → ν)

def sample (stored : List α) (row : α) : List α :=
  if (latest moment stored (moment row)).map value = some (value row) then stored
  else stored ++ [row]

def samples (rows : List α) : List α := rows.foldl (sample moment value) []

structure Precedes (rows : List α) (before row : α) : Prop where
  mem : before ∈ rows
  lt : moment before < moment row
  next : ∀ other ∈ rows, moment other < moment row → moment other ≤ moment before

variable {moment value} {rows : List α} {row : α} {earlier later : List α}

theorem samples_append :
    samples moment value (rows ++ [row]) = sample moment value (samples moment value rows) row := by
  rw [samples, foldl_append]
  rfl

theorem sample_sublist (hst : List α) : hst.Sublist (sample moment value hst row) ∧
      (sample moment value hst row).Sublist (hst ++ [row]) := by
  unfold sample
  split
  · exact ⟨.refl _, sublist_append_left _ _⟩
  · exact ⟨sublist_append_left _ _, .refl _⟩

theorem samples_sublist : (samples moment value rows).Sublist rows := by
  induction rows using List.reverseRecOn with
  | nil => exact .refl _
  | append_singleton _ _ ih =>
    rw [samples_append]
    exact (sample_sublist _).2.trans (ih.append (.refl _))

theorem samples_mono (earlier later : List α) :
    (samples moment value earlier).Sublist (samples moment value (earlier ++ later)) := by
  induction later using List.reverseRecOn with
  | nil => rw [append_nil]
  | append_singleton _ _ ih =>
    rw [← append_assoc, samples_append]
    exact ih.trans (sample_sublist _).1

theorem mem_samples_append (hm : row ∈ samples moment value (earlier ++ later)) :
    row ∈ samples moment value earlier ∨ row ∈ later := by
  induction later using List.reverseRecOn with
  | nil =>
    rw [append_nil] at hm
    exact .inl hm
  | append_singleton _ _ ih =>
    rw [← append_assoc, samples_append] at hm
    rcases mem_append.mp ((sample_sublist _).2.subset hm) with before | isLast
    · exact (ih before).imp_right (mem_append_left _)
    · exact .inr (mem_append_right _ isLast)

theorem not_mem_samples_iff (hn : (earlier ++ row :: later).Nodup) :
    row ∉ samples moment value (earlier ++ row :: later) ↔
      (latest moment (samples moment value earlier) (moment row)).map value = some (value row) := by
  have split : earlier ++ row :: later = (earlier ++ [row]) ++ later := by simp
  rw [split]
  constructor
  · intro hab
    by_contra changed
    refine hab ((samples_mono _ _).subset ?_)
    rw [samples_append, sample, if_neg changed]
    simp
  · intro repeated hm
    obtain ⟨_, fromRow, hap⟩ := nodup_append.mp hn
    rcases mem_samples_append hm with hst | isLater
    · rw [samples_append, sample, if_pos repeated] at hst
      exact hap row (samples_sublist.subset hst) row mem_cons_self rfl
    · exact (nodup_cons.mp fromRow).1 isLater

section

variable (hn : (rows.map moment).Nodup)

include hn

theorem latest_at (hm : row ∈ rows) : latest moment rows (moment row) = some row :=
  latest_eq_some hm le_rfl (fun _ _ hr => hr) fun _ isOther => inj_on_of_nodup_map hn isOther hm

/-- Nothing is stored between a row that was left out and the row right before it. -/
theorem latest_samples_of_precedes {before : α} {limit : τ}
    (hf : latest moment rows limit = some row) (hab : row ∉ samples moment value rows)
    (precedes : Precedes moment rows before row) :
    latest moment (samples moment value rows) limit =
      latest moment (samples moment value rows) (moment before) := by
  obtain ⟨hm, hr⟩ := latest_mem hf
  refine latest_congr fun _ hst => ?_
  have isOther := samples_sublist.subset hst
  constructor
  · intro hi
    have bound := latest_greatest hf _ isOther hi
    refine precedes.next _ isOther (lt_of_le_of_ne bound fun hs => hab ?_)
    rw [← inj_on_of_nodup_map hn isOther hm hs]
    exact hst
  · intro early
    exact early.trans (precedes.lt.le.trans hr)

theorem reports_of_repeats (report : ν → μ)
    (repeats : ∀ row ∈ rows, row ∉ samples moment value rows →
      ∃ before, Precedes moment rows before row ∧ report (value before) = report (value row))
    (limit : τ) :
    (latest moment (samples moment value rows) limit).map (fun row => report (value row)) =
      (latest moment rows limit).map fun row => report (value row) := by
  -- the induction is on the number of rows up to the limit
  generalize size : (rows.filter fun row => moment row ≤ limit).length = count
  induction count using Nat.strongRecOn generalizing limit with
  | ind count ih =>
    cases hf : latest moment rows limit with
    | none =>
      have none := latest_eq_none_iff.mp hf
      rw [latest_eq_none_iff.mpr fun row hst => none row (samples_sublist.subset hst)]
    | some row =>
      obtain ⟨hm, hr⟩ := latest_mem hf
      by_cases hst : row ∈ samples moment value rows
      · rw [latest_eq_some hst hr
          (fun _ isOther => latest_greatest hf _ (samples_sublist.subset isOther))
          fun _ isOther =>
            inj_on_of_nodup_map hn (samples_sublist.subset isOther) hm]
      · obtain ⟨before, precedes, hs⟩ := repeats row hm hst
        have fewer : (rows.filter fun row => moment row ≤ moment before).length < count := by
          have hwi : (rows.filter fun row => moment row ≤ moment before) =
              (rows.filter fun row => moment row ≤ limit).filter fun row =>
                moment row ≤ moment before := by
            rw [filter_filter]
            refine filter_congr fun _ _ => ?_
            rw [Bool.eq_iff_iff, Bool.and_eq_true, decide_eq_true_eq, decide_eq_true_eq]
            exact ⟨fun early => ⟨early, early.trans (precedes.lt.le.trans hr)⟩, And.left⟩
          rw [hwi, ← size]
          refine length_filter_lt_length_iff_exists.mpr ⟨row, ?_, ?_⟩
          · exact mem_filter.mpr ⟨hm, decide_eq_true hr⟩
          · simpa using precedes.lt
        rw [latest_samples_of_precedes hn hf hst precedes,
          ih _ fewer (moment _) rfl, latest_at hn precedes.mem]
        simpa using hs

theorem repeats_of_reports (report : ν → μ) {hi : τ → Prop} (hwi : ∀ row ∈ rows, hi (moment row))
    (reports : ∀ limit, hi limit →
      (latest moment (samples moment value rows) limit).map (fun row => report (value row)) =
        (latest moment rows limit).map fun row => report (value row))
    (hm : row ∈ rows) (hab : row ∉ samples moment value rows) :
    ∃ before, Precedes moment rows before row ∧ report (value before) = report (value row) := by
  have hh := reports (moment row) (hwi row hm)
  rw [latest_at hn hm] at hh
  obtain ⟨hst, hf, _⟩ := Option.map_eq_some_iff.mp hh
  obtain ⟨isStored, hr⟩ := latest_mem hf
  have isRow := samples_sublist.subset isStored
  have early : moment hst < moment row := by
    refine lt_of_le_of_ne hr fun hs => hab ?_
    rw [← inj_on_of_nodup_map hn isRow hm hs]
    exact isStored
  obtain ⟨before, precedes⟩ : ∃ before, Precedes moment rows before row := by
    cases last : latest moment (rows.filter fun other => moment other < moment row) (moment row) with
    | none =>
      have none := latest_eq_none_iff.mp last hst (by simp [isRow, early])
      exact absurd none (not_lt.mpr hr)
    | some before =>
      obtain ⟨isBefore, lt⟩ := mem_filter.mp (latest_mem last).1
      refine ⟨_, isBefore, of_decide_eq_true lt, fun _ isOther less => ?_⟩
      exact latest_greatest last _ (by simp [isOther, less]) less.le
  refine ⟨_, precedes, ?_⟩
  have ht := reports (moment _) (hwi _ precedes.mem)
  rw [latest_at hn precedes.mem, Option.map_some,
    ← latest_samples_of_precedes hn (latest_at hn hm) hab precedes, hh] at ht
  exact (Option.some.inj ht).symm

end

end SessionManager.Foundation.Sampling
