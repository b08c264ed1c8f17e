import SessionManager.Messages.Ordering

/-! Bug reports, of which a limited number is kept. Those that go are the first ones by the texts of
their times. -/
namespace SessionManager.Messages
open List Foundation

/-- `content` stands for the columns that the caller fills in. -/
structure BugReport (β : Type) where
  id : String
  createdAt : String
  content : β
  deriving DecidableEq

structure ReportCall (β : Type) where
  id : String
  now : Instant
  content : β

variable {β : Type}

/-- `ORDER BY created_at ASC, id ASC`. -/
def BugReport.NotAfter (one other : BugReport β) : Prop :=
  one.createdAt < other.createdAt ∨ one.createdAt = other.createdAt ∧ one.id ≤ other.id
  deriving Decidable

def ReportCall.report (call : ReportCall β) : BugReport β :=
  ⟨call.id, nowRfc3339 call.now, call.content⟩

/-- An `i64`, from a `usize` or from an arithmetic that wraps. -/
def asI64 (value : Int) : Int := value.bmod (2 ^ 64)

def pruneLocked (maxReports : Nat) (reports : List (BugReport β)) : List (BugReport β) :=
  let excess := (asI64 (reports.length - asI64 maxReports)).toNat
  let doomed := ((reports.insertionSort BugReport.NotAfter).take excess).map BugReport.id
  reports.filter fun report => report.id ∉ doomed

/-- `none` where the id is taken; the transaction is rolled back then. -/
def createReport (maxReports : Nat) (reports : List (BugReport β)) (call : ReportCall β) :
    Option (List (BugReport β)) :=
  if call.id ∈ reports.map BugReport.id then none
  else some (pruneLocked (max maxReports 1) (reports ++ [call.report]))

def newest {α : Type} (count : Nat) (created : List α) : List α :=
  created.drop (created.length - count)

theorem filter_not_taken {α : Type} {name : α → String} {rows : List α}
    (names : (rows.map name).Nodup) (count : Nat) :
    rows.filter (fun row => name row ∉ (rows.take count).map name) = rows.drop count := by
  induction rows generalizing count with
  | nil => simp
  | cons row rows ih =>
    cases count with
    | zero => simp
    | succ count =>
      obtain ⟨hfr, names⟩ := nodup_cons.mp names
      rw [filter_cons_of_neg (by simp), drop_succ_cons, ← ih names count]
      refine filter_congr ?_
      intro other hm
      have hap : name other ≠ name row := fun hs => hfr (hs ▸ mem_map_of_mem hm)
      simp [hap]

theorem pruneLocked_sorted {reports : List (BugReport β)} {maxReports : Nat}
    (small : maxReports < 2 ^ 63) (few : reports.length ≤ maxReports + 1)
    (sorted : reports.Pairwise BugReport.NotAfter) (ids : (reports.map BugReport.id).Nodup) :
    pruneLocked maxReports reports = newest maxReports reports := by
  have limit : asI64 maxReports = maxReports := Int.bmod_eq_of_le (by omega) (by omega)
  have excess : (asI64 (reports.length - asI64 maxReports)).toNat =
      reports.length - maxReports := by
    rw [limit, asI64, Int.bmod_eq_of_le (by omega) (by omega)]
    omega
  rw [pruneLocked, sorted.insertionSort_eq, excess]
  exact filter_not_taken ids _

theorem sorts_of_not_clash {one other : ReportCall β} (hpo : 0 ≤ one.now.year)
    (order : one.now.Before other.now) (hap : ¬ one.now.Clash other.now) :
    one.report.NotAfter other.report := by
  refine .inl ((nowRfc3339_lt ..).mpr ?_)
  have after := hpo.trans order.year_le
  rw [printed, printed, if_pos hpo, if_pos after]
  exact Instant.text_lt_of_not_clash hpo after order hap

theorem newest_map {α γ : Type} (value : α → γ) (count : Nat) (rows : List α) :
    newest count (rows.map value) = (newest count rows).map value := by
  rw [newest, newest, length_map, map_drop]

theorem newest_snoc {α : Type} (count : Nat) (created : List α) (last : α) :
    newest count (newest count created ++ [last]) = newest count (created ++ [last]) := by
  unfold newest
  rw [← drop_append_of_le_length (Nat.sub_le ..), drop_drop]
  congr 1
  simp only [length_drop, length_append, length_cons, length_nil]
  omega

/-- The reports that are stored are the last ones that were created if none of them, when a call is
made, is of the same second with a printed fraction that begins the one of the call. -/
theorem newest_reports_kept {maxReports : Nat} (positive : 1 ≤ maxReports)
    (small : maxReports < 2 ^ 63) {calls : List (ReportCall β)}
    (ids : (calls.map ReportCall.id).Nodup)
    (order : calls.Pairwise fun one other => one.now.Before other.now)
    (years : ∀ call ∈ calls, 0 ≤ call.now.year)
    (hap : ∀ earlier call, earlier ++ [call] <+: calls →
      ∀ other ∈ newest maxReports earlier, ¬ other.now.Clash call.now) :
    calls.foldlM (createReport maxReports) [] =
      some ((newest maxReports calls).map ReportCall.report) := by
  suffices run : calls.foldlM (createReport maxReports) [] =
      some ((newest maxReports calls).map ReportCall.report) ∧
      ((newest maxReports calls).map ReportCall.report).Pairwise BugReport.NotAfter from run.1
  induction calls using List.reverseRecOn with
  | nil => simp [newest]
  | append_singleton calls call ih =>
    have part := prefix_append calls [call]
    obtain ⟨run, sorted⟩ := ih (ids.sublist (part.sublist.map _)) (order.sublist part.sublist)
      (fun other hm => years other (part.subset hm))
      (fun earlier other within => hap earlier other (within.trans part))
    have left := (drop_sublist (calls.length - maxReports) calls).append (.refl [call])
    have names : ((newest maxReports calls ++ [call]).map ReportCall.id).Nodup :=
      ids.sublist (left.map _)
    have longer : ((newest maxReports calls ++ [call]).map ReportCall.report).Pairwise
        BugReport.NotAfter := by
      rw [map_append, pairwise_append]
      refine ⟨sorted, pairwise_singleton _ _, ?_⟩
      simp only [forall_mem_map, map_cons, map_nil, mem_singleton, forall_eq]
      intro other hm
      have there := mem_of_mem_drop hm
      exact sorts_of_not_clash (years _ (mem_append_left _ there))
        ((pairwise_append.mp order).2.2 _ there _ (mem_singleton_self _))
        (hap calls call prefix_rfl _ hm)
    have few : ((newest maxReports calls ++ [call]).map ReportCall.report).length ≤
        maxReports + 1 := by
      simp only [newest, length_map, length_append, length_drop, length_singleton]
      omega
    have pruned := pruneLocked_sorted small few longer (by rwa [map_map])
    have next : newest maxReports ((newest maxReports calls ++ [call]).map ReportCall.report) =
        (newest maxReports (calls ++ [call])).map ReportCall.report := by
      rw [newest_map, newest_snoc]
    rw [next] at pruned
    have free : call.id ∉ ((newest maxReports calls).map ReportCall.report).map BugReport.id := by
      rw [map_map]
      rw [map_append, nodup_append] at names
      exact fun hm => names.2.2 _ hm _ (mem_singleton_self _) rfl
    have created : createReport maxReports ((newest maxReports calls).map ReportCall.report) call =
        some ((newest maxReports (calls ++ [call])).map ReportCall.report) := by
      rw [createReport, if_neg free, max_eq_left positive, ← pruned, map_append]
      rfl
    refine ⟨?_, next ▸ longer.sublist (drop_sublist _ _)⟩
    rw [foldlM_append, run]
    simp [created]

theorem second_report_kept :
    [⟨"BR-1", newYear 100000000 (by decide), ()⟩, ⟨"BR-2", newYear 200000000 (by decide), ()⟩].foldlM
      (createReport 1) [] = some [⟨"BR-2", "2026-01-01T00:00:00.2Z", ()⟩] := by
  refine (newest_reports_kept (by decide) (by decide) (by decide) (by decide) (by decide)
    ?_).trans (by decide +kernel)
  simp only [forall_prefix_cons]
  exact ⟨by simp [newest], by decide, by simp⟩

/-- The text of half past the second sorts before that of the second. -/
theorem second_report_pruned :
    (newYear 0 (by decide)).Before (newYear 500000000 (by decide)) ∧
    [⟨"BR-1", newYear 0 (by decide), ()⟩, ⟨"BR-2", newYear 500000000 (by decide), ()⟩].foldlM
      (createReport 1) [] = some [⟨"BR-1", "2026-01-01T00:00:00Z", ()⟩] := by
  decide +kernel

end SessionManager.Messages
