import SessionManager.Foundation.Sampling
import SessionManager.Usage.Burn
import SessionManager.Usage.IdentityTimeline

/-! Rate-limit events of one account that arrive in any order. For each window the samples are those
of the events, stored by their changes; the latest sample up to an instant reports the latest event
exactly when every event that was dropped repeats the event right before it in time. -/
namespace SessionManager.Usage
open Foundation Foundation.Latest Foundation.Sampling List

section

structure RateReport where
  event : RateEvent
  receivedAt : Int

structure WindowReading where
  instant : Int
  percent : Rat
  resetsAt : Int
  severity : Option String
  deriving DecidableEq, Repr

def WindowReading.value (reading : WindowReading) : Rat × Int × Option String :=
  (reading.percent, reading.resetsAt, reading.severity)

def BurnWindowSample.ofWindow (windowKind : String) (windowScope : Option String)
    (window : BurnWindowSample) : Bool :=
  window.windowKind = windowKind && window.windowScope = windowScope

variable (host : Host)

def RateReport.instant (report : RateReport) : Int := report.event.observedAt host report.receivedAt

def carriedWindow (limits : RateLimits) (observedAt : Int) (update : RateWindow) :
    Option BurnWindowSample := do
  let durationMinutes ← update.windowDurationMins
  let percent ← update.usedPercent
  let resetsAt ← codexResetAt update observedAt
  some ⟨codexKind durationMinutes, limits.scope, durationMinutes, percent, resetsAt,
    limits.severity, none⟩

def RateReport.windows (report : RateReport) : List BurnWindowSample :=
  match report.event.rateLimits with
  | none => []
  | some limits => limits.slots.filterMap (carriedWindow limits (report.instant host))

def RateReport.readings (windowKind : String) (windowScope : Option String) (report : RateReport) :
    List WindowReading :=
  ((report.windows host).filter (BurnWindowSample.ofWindow windowKind windowScope)).map
    fun window => ⟨report.instant host, window.percent, window.resetsAt, window.severity⟩

def windowReadings (windowKind : String) (windowScope : Option String) (reports : List RateReport) :
    List WindowReading :=
  reports.flatMap (RateReport.readings host windowKind windowScope)

def recordReport (store : BurnStore) (report : RateReport) : BurnStore :=
  (recordCodexEvent host store report.event report.receivedAt).1

def recordReports (identity : IdentityStore) (reports : List RateReport) : BurnStore :=
  reports.foldl (recordReport host) ⟨identity, [], 1⟩

/-- A rate-limit event of the account whose windows, all of different kinds, carry full and valid
values. -/
structure FullReport (era : Int → Prop) (identity : IdentityStore) (account : String)
    (report : RateReport) : Prop where
  isRateLimit : isCodexRateLimitEvent report.event
  complete : ∀ limits, report.event.rateLimits = some limits → ∀ update ∈ limits.slots,
    (carriedWindow limits (report.instant host) update).isSome
  valid : ∀ window ∈ report.windows host, validateWindow window = .ok ()
  kinds : ((report.windows host).map BurnWindowSample.windowKind).Nodup
  inside : era (report.instant host)
  resets : ∀ window ∈ report.windows host, era window.resetsAt
  attributed : ∃ attribution, identity.accountAt host .codex (report.instant host) =
    .ok (some attribution) ∧ attribution.accountKey = account

end

variable {windowScope : Option String} {instant : Int}

section

variable {host : Host} {era : Int → Prop} {rows : List BurnRow} {stored : List WindowReading}

def BurnRow.facts (row : BurnRow) : String × Rat × String × Option String :=
  (row.observedAt, row.percent, row.resetsAt, row.severity)

/-- A reading as a row has it. -/
def WindowReading.facts (host : Host) (reading : WindowReading) :
    String × Rat × String × Option String :=
  (host.formatTimestamp reading.instant, reading.percent, host.formatTimestamp reading.resetsAt,
    reading.severity)

theorem Dated.inj (dated : Dated host era) {first second : Int} (isFirst : era first)
    (isSecond : era second) (hs : host.formatTimestamp first = host.formatTimestamp second) :
    first = second :=
  le_antisymm ((dated.order first second isFirst isSecond).mp hs.le)
    ((dated.order second first isSecond isFirst).mp hs.ge)

instance : Std.Total BurnRow.notBefore := ⟨by
  intro first second
  rcases lt_trichotomy second.observedAt first.observedAt with less | same | more
  · exact .inl (.inl less)
  · exact (le_total second.id first.id).imp (fun less => .inr ⟨same, less⟩)
      fun less => .inr ⟨same.symm, less⟩
  · exact .inr (.inl more)⟩

instance : IsTrans BurnRow BurnRow.notBefore := ⟨by
  rintro first second third (less | ⟨same, less⟩) (more | ⟨also, more⟩)
  · exact .inl (more.trans less)
  · exact .inl (also ▸ less)
  · exact .inl (same ▸ more)
  · exact .inr ⟨also.trans same, more.trans less⟩⟩

theorem first_eq_latest {rows : List BurnRow} (hn : (rows.map BurnRow.observedAt).Nodup)
    (limit : String) :
    ((rows.filter fun row => row.observedAt ≤ limit).insertionSort BurnRow.notBefore).head? =
      latest BurnRow.observedAt rows limit := by
  cases first : ((rows.filter fun row => row.observedAt ≤ limit).insertionSort
      BurnRow.notBefore).head? with
  | none =>
    have empty := filter_eq_nil_iff.mp (Selection.eq_nil_of_first first)
    symm
    rw [latest_eq_none_iff]
    intro row hm
    simpa using empty row hm
  | some =>
    obtain ⟨hm, hr⟩ := mem_filter.mp (Selection.mem_of_first first)
    refine (latest_eq_some hm (of_decide_eq_true hr) ?_ ?_).symm
    · intro other isOther hi
      rcases Selection.rel_of_first first other
        (mem_filter.mpr ⟨isOther, decide_eq_true hi⟩) with rfl | later | ⟨hs, _⟩
      · exact le_rfl
      · exact later.le
      · exact hs.le
    · exact fun _ isOther => inj_on_of_nodup_map hn isOther hm

theorem latestWindow_eq (dated : Dated host era) {accountKey windowKind : String}
    (hs : (rows.filter (BurnRow.inWindow accountKey windowKind windowScope)).map BurnRow.facts =
      stored.map (WindowReading.facts host))
    (hi : ∀ reading ∈ stored, era reading.instant ∧ era reading.resetsAt)
    (hn : (stored.map WindowReading.instant).Nodup) (isInside : era instant) :
    latestWindow host rows accountKey windowKind windowScope (host.formatTimestamp instant) =
      .ok ((latest WindowReading.instant stored instant).map WindowReading.value) := by
  have texts : ((rows.filter (BurnRow.inWindow accountKey windowKind windowScope)).map
      BurnRow.observedAt).Nodup := by
    have hli : (rows.filter (BurnRow.inWindow accountKey windowKind windowScope)).map
        BurnRow.observedAt = stored.map fun reading => host.formatTimestamp reading.instant := by
      have firsts := congrArg (List.map Prod.fst) hs
      rwa [map_map, map_map] at firsts
    rw [hli]
    refine hn.of_map.map_on fun _ isFirst _ isSecond equal => ?_
    exact inj_on_of_nodup_map hn isFirst isSecond
      (dated.inj (hi _ isFirst).1 (hi _ isSecond).1 equal)
  -- the newest row and the latest reading are the same facts
  have newest : (latest BurnRow.observedAt
      (rows.filter (BurnRow.inWindow accountKey windowKind windowScope))
        (host.formatTimestamp instant)).map BurnRow.facts =
          (latest WindowReading.instant stored instant).map (WindowReading.facts host) := by
    have byRows : latest Prod.fst ((rows.filter (BurnRow.inWindow accountKey windowKind
        windowScope)).map BurnRow.facts) (host.formatTimestamp instant) =
          (latest BurnRow.observedAt (rows.filter (BurnRow.inWindow accountKey windowKind
            windowScope)) (host.formatTimestamp instant)).map BurnRow.facts :=
      latest_map (fun _ _ _ _ => Iff.rfl) fun _ _ => Iff.rfl
    have byReadings : latest Prod.fst (stored.map (WindowReading.facts host))
        (host.formatTimestamp instant) =
          (latest WindowReading.instant stored instant).map (WindowReading.facts host) :=
      latest_map (fun _ isFirst _ isSecond =>
          dated.order _ _ (hi _ isFirst).1 (hi _ isSecond).1)
        fun _ hm => dated.order _ _ (hi _ hm).1 isInside
    rw [← byReadings, ← hs, byRows]
  have query : (rows.filter fun row => row.inWindow accountKey windowKind windowScope &&
      row.observedAt ≤ host.formatTimestamp instant) =
        (rows.filter (BurnRow.inWindow accountKey windowKind windowScope)).filter fun row =>
          row.observedAt ≤ host.formatTimestamp instant := by
    rw [filter_filter]
    exact filter_congr fun row _ => Bool.and_comm _ _
  unfold latestWindow
  simp only
  rw [query, first_eq_latest texts]
  cases hf : latest WindowReading.instant stored instant with
  | none =>
    rw [hf, Option.map_none, Option.map_eq_none_iff] at newest
    rw [newest]
    rfl
  | some reading =>
    rw [hf] at newest
    obtain ⟨row, isRow, facts⟩ := Option.map_eq_some_iff.mp newest
    obtain ⟨_, percent, resetsAt, severity⟩ : row.observedAt = _ ∧ row.percent = reading.percent ∧
          row.resetsAt = host.formatTimestamp reading.resetsAt ∧
            row.severity = reading.severity := by
      simpa [BurnRow.facts, WindowReading.facts] using facts
    rw [isRow]
    simp only [resetsAt, dated.parse _ (hi reading (latest_mem hf).1).2, percent, severity]
    rfl

end

section

variable (host : Host) {store : BurnStore} {account : String} (source : String) {text : String}

/-- A window as a row of the given time has it. -/
def BurnWindowSample.facts (text : String) (window : BurnWindowSample) :
    String × Rat × String × Option String :=
  (text, window.percent, host.formatTimestamp window.resetsAt, window.severity)

theorem burnRow_inWindow (id : Nat) (window : BurnWindowSample) (windowKind : String)
    (windowScope : Option String) :
    (burnRow host account source text id window).inWindow account windowKind windowScope =
      window.ofWindow windowKind windowScope := by
  simp only [BurnRow.inWindow, burnRow, BurnWindowSample.ofWindow, decide_true, Bool.true_and]
  rfl

theorem insertWindow_rows {window : BurnWindowSample}
    (fresh : ∀ row ∈ store.rows, row.inWindow account window.windowKind window.windowScope →
      row.observedAt ≠ text) :
    (insertWindow host account source text store window).rows =
      store.rows ++ [burnRow host account source text store.nextId window] := by
  unfold insertWindow
  rw [if_neg]
  rw [any_eq_true]
  rintro ⟨row, hm, hf⟩
  simp only [Bool.and_eq_true, decide_eq_true_eq] at hf
  exact fresh row hm hf.1.1 hf.2

theorem insertWindows_rows {windows : List BurnWindowSample}
    (kinds : (windows.map BurnWindowSample.windowKind).Nodup)
    (fresh : ∀ window ∈ windows, ∀ row ∈ store.rows,
      row.inWindow account window.windowKind window.windowScope → row.observedAt ≠ text)
    (windowKind : String) (windowScope : Option String) :
    ((insertWindows host store account windows source text).rows.filter
        (BurnRow.inWindow account windowKind windowScope)).map BurnRow.facts =
      (store.rows.filter (BurnRow.inWindow account windowKind windowScope)).map BurnRow.facts ++
        (windows.filter (BurnWindowSample.ofWindow windowKind windowScope)).map
          (BurnWindowSample.facts host text) := by
  induction windows generalizing store with
  | nil => simp [insertWindows]
  | cons window rest ih =>
    obtain ⟨apart, restKinds⟩ := nodup_cons.mp kinds
    have inserted := insertWindow_rows host source (fresh _ mem_cons_self)
    have later : ∀ other ∈ rest, ∀ row ∈ (insertWindow host account source text store window).rows,
        row.inWindow account other.windowKind other.windowScope → row.observedAt ≠ text := by
      intro other hm row isRow hi
      rw [inserted] at isRow
      rcases mem_append.mp isRow with old | isNew
      · exact fresh _ (mem_cons_of_mem _ hm) row old hi
      · rw [mem_singleton.mp isNew, burnRow_inWindow] at hi
        simp only [BurnWindowSample.ofWindow, Bool.and_eq_true, decide_eq_true_eq] at hi
        rw [hi.1] at apart
        exact absurd (mem_map_of_mem hm) apart
    show ((insertWindows host (insertWindow host account source text store window) account rest
      source text).rows.filter _).map _ = _
    rw [ih restKinds later, inserted, filter_append, map_append, append_assoc]
    rw [filter_cons, filter_cons, burnRow_inWindow]
    split <;> rfl

theorem insertWindows_identity (windows : List BurnWindowSample) :
    (insertWindows host store account windows source text).identity = store.identity := by
  induction windows generalizing store with
  | nil => rfl
  | cons _ _ ih =>
    refine (@ih (insertWindow _ _ _ _ _ _)).trans ?_
    unfold insertWindow
    split <;> rfl

end

variable {reading : WindowReading}

section

variable {host : Host} {era : Int → Prop} {identity : IdentityStore} {account : String}
  {report : RateReport} {rows : List BurnRow}
  {previous : BurnWindowSample → Option (Rat × Int × Option String)}

theorem changedWindows_eq {limits : RateLimits} {observedAt : Int}
    (complete : ∀ update ∈ limits.slots, (carriedWindow limits observedAt update).isSome)
    (valid : ∀ window ∈ limits.slots.filterMap (carriedWindow limits observedAt),
      validateWindow window = .ok ())
    (looked : ∀ window ∈ limits.slots.filterMap (carriedWindow limits observedAt),
      latestWindow host rows account window.windowKind window.windowScope
        (host.formatTimestamp observedAt) = .ok (previous window)) :
    changedWindows host rows account limits observedAt =
      .ok ((limits.slots.filterMap (carriedWindow limits observedAt)).filter fun window =>
        previous window ≠ some (window.percent, window.resetsAt, window.severity)) := by
  have each : ∀ update ∈ limits.slots, changedWindow host rows account limits observedAt update =
      .ok ((carriedWindow limits observedAt update).filter fun window =>
        previous window ≠ some (window.percent, window.resetsAt, window.severity)) := by
    intro update hm
    obtain ⟨window, carried⟩ := Option.isSome_iff_exists.mp (complete _ hm)
    have hli := mem_filterMap.mpr ⟨_, hm, carried⟩
    have isValid := valid _ hli
    have isLooked := looked _ hli
    rw [carried]
    obtain ⟨_, duration, carried⟩ := Option.bind_eq_some_iff.mp carried
    obtain ⟨_, used, carried⟩ := Option.bind_eq_some_iff.mp carried
    obtain ⟨_, resets, carried⟩ := Option.bind_eq_some_iff.mp carried
    cases carried
    simp only [changedWindow, duration, used, resets, Option.isNone_some, Bool.and_self,
      Bool.false_eq_true, if_false, isLooked, Option.some_or]
    refine (Fallible.bind_eq_ok.mpr ⟨_, rfl, ?_⟩ : (Except.ok _ >>= _) = _)
    split
    · rename_i hs
      simp only [Option.filter_some, hs, ne_eq, not_true_eq_false, decide_false,
        Bool.false_eq_true, if_false]
    · rename_i hne
      simp only [isValid, Option.filter_some, ne_eq, hne, not_false_eq_true, decide_true, if_true]
      rfl
  unfold changedWindows
  rw [Fallible.mapM_ok each, filter_filterMap]
  refine congrArg Except.ok ?_
  exact filterMap_map

/-- The account of a report is known, so recording it only inserts what changed. -/
theorem recordReport_eq {store : BurnStore} (full : FullReport host era identity account report)
    (isIdentity : store.identity = identity)
    (looked : ∀ window ∈ report.windows host,
      latestWindow host store.rows account window.windowKind window.windowScope
        (host.formatTimestamp (report.instant host)) = .ok (previous window)) :
    recordReport host store report = insertWindows host store account
      ((report.windows host).filter fun window =>
        previous window ≠ some (window.percent, window.resetsAt, window.severity))
      "codex_event" (host.formatTimestamp (report.instant host)) := by
  obtain ⟨attribution, attributed, rfl⟩ := full.attributed
  have isRateLimit := full.isRateLimit
  obtain ⟨limits, isLimits⟩ : ∃ limits, report.event.rateLimits = some limits := by
    have some := (Bool.and_eq_true_iff.mp isRateLimit).1
    exact Option.isSome_iff_exists.mp some
  have windows : report.windows host =
      limits.slots.filterMap (carriedWindow limits (report.instant host)) := by
    rw [RateReport.windows, isLimits]
  rw [windows] at looked ⊢
  have changed := changedWindows_eq (full.complete _ isLimits) (windows ▸ full.valid) looked
  have known : attributeCodex host store.identity (report.instant host) =
      (store.identity, .ok (some attribution)) := by
    rw [attributeCodex, isIdentity, attributed]
  have observed : report.event.observedAt host report.receivedAt = report.instant host := rfl
  unfold recordReport recordCodexEvent
  rw [if_pos isRateLimit]
  simp only [observed, known, isLimits, changed]

structure Sampled (host : Host) (identity : IdentityStore) (account : String)
    (reports : List RateReport) (store : BurnStore) : Prop where
  identity : store.identity = identity
  rows : ∀ windowKind windowScope,
    (store.rows.filter (BurnRow.inWindow account windowKind windowScope)).map BurnRow.facts =
      (samples WindowReading.instant WindowReading.value
        (windowReadings host windowKind windowScope reports)).map (WindowReading.facts host)

variable {reports : List RateReport} {windowKind : String} {windowScope : Option String}

theorem FullReport.window_cases (full : FullReport host era identity account report)
    (windowKind : String) (windowScope : Option String) :
    (report.windows host).filter (BurnWindowSample.ofWindow windowKind windowScope) = [] ∨
      ∃ window ∈ report.windows host, window.windowKind = windowKind ∧
        window.windowScope = windowScope ∧
        (report.windows host).filter (BurnWindowSample.ofWindow windowKind windowScope) =
          [window] := by
  have single : ((report.windows host).filter
      (BurnWindowSample.ofWindow windowKind windowScope)).length ≤ 1 := by
    refine Timeline.filter_le_one ((pairwise_map.mp full.kinds).imp ?_)
    rintro _ _ differ ⟨one, other⟩
    simp only [BurnWindowSample.ofWindow, Bool.and_eq_true, decide_eq_true_eq] at one other
    exact differ (one.1.trans other.1.symm)
  match hf : (report.windows _).filter (BurnWindowSample.ofWindow _ _) with
  | [] => exact .inl rfl
  | [window] =>
    have hm : window ∈ (report.windows host).filter
        (BurnWindowSample.ofWindow windowKind windowScope) := by
      rw [hf]
      exact mem_singleton.mpr rfl
    obtain ⟨isWindow, kind⟩ := mem_filter.mp hm
    simp only [BurnWindowSample.ofWindow, Bool.and_eq_true, decide_eq_true_eq] at kind
    exact .inr ⟨_, isWindow, kind.1, kind.2, rfl⟩
  | _ :: _ :: _ =>
    rw [hf] at single
    simp at single

theorem mem_readings (hm : reading ∈ report.readings host windowKind windowScope) :
    ∃ window ∈ report.windows host, window.ofWindow windowKind windowScope ∧
      reading = ⟨report.instant host, window.percent, window.resetsAt, window.severity⟩ := by
  obtain ⟨window, kept, rfl⟩ := mem_map.mp hm
  obtain ⟨isWindow, kind⟩ := mem_filter.mp kept
  exact ⟨_, isWindow, kind, rfl⟩

section

variable (full : ∀ report ∈ reports, FullReport host era identity account report)
include full

theorem readings_inside : ∀ reading ∈ windowReadings host windowKind windowScope reports,
      era reading.instant ∧ era reading.resetsAt := by
  intro reading hm
  obtain ⟨_, isReport, hli⟩ := mem_flatMap.mp hm
  obtain ⟨_, isWindow, _, rfl⟩ := mem_readings hli
  exact ⟨(full _ isReport).inside, (full _ isReport).resets _ isWindow⟩

theorem readings_distinct (hn : (reports.map (RateReport.instant host)).Nodup)
    (windowKind : String) (windowScope : Option String) :
    ((windowReadings host windowKind windowScope reports).map WindowReading.instant).Nodup := by
  refine hn.sublist ?_
  clear hn
  induction reports with
  | nil => exact .refl _
  | cons report _ ih =>
    have later := ih fun _ hm => full _ (mem_cons_of_mem _ hm)
    rw [windowReadings, flatMap_cons, RateReport.readings]
    rcases (full report mem_cons_self).window_cases windowKind windowScope with
      none | ⟨_, _, _, _, one⟩
    · rw [none]
      exact later.cons _
    · rw [one]
      exact later.cons_cons _

end

theorem windowReadings_append : windowReadings host windowKind windowScope (reports ++ [report]) =
      windowReadings host windowKind windowScope reports ++
        report.readings host windowKind windowScope := by
  rw [windowReadings, flatMap_append, flatMap_singleton, windowReadings]

namespace Sampled

variable {store : BurnStore} (sampled : Sampled host identity account reports store)
  (dated : Dated host era)
  (full : ∀ report ∈ reports, FullReport host era identity account report)

include sampled dated full

theorem looked (hn : (reports.map (RateReport.instant host)).Nodup)
    (hi : era instant) (windowKind : String) (windowScope : Option String) :
    latestWindow host store.rows account windowKind windowScope (host.formatTimestamp instant) =
      .ok ((latest WindowReading.instant (samples WindowReading.instant WindowReading.value
        (windowReadings host windowKind windowScope reports)) instant).map WindowReading.value) := by
  refine latestWindow_eq dated (sampled.rows _ _) ?_ ?_ hi
  · exact fun _ hm => readings_inside full _ (samples_sublist.subset hm)
  · exact (readings_distinct full hn _ _).sublist (samples_sublist.map _)

theorem fresh (isFull : FullReport host era identity account report)
    (new : report.instant host ∉ reports.map (RateReport.instant host)) {row : BurnRow}
    (hm : row ∈ store.rows) (hi : row.inWindow account windowKind windowScope) :
    row.observedAt ≠ host.formatTimestamp (report.instant host) := by
  intro hs
  have hli : row.facts ∈ (store.rows.filter
      (BurnRow.inWindow account windowKind windowScope)).map BurnRow.facts :=
    mem_map_of_mem (mem_filter.mpr ⟨hm, hi⟩)
  rw [sampled.rows] at hli
  obtain ⟨_, stored, facts⟩ := mem_map.mp hli
  obtain ⟨earlier, isEarlier, inEarlier⟩ := mem_flatMap.mp (samples_sublist.subset stored)
  obtain ⟨_, _, _, rfl⟩ := mem_readings inEarlier
  have texts := congrArg Prod.fst facts
  have equal := dated.inj (full _ isEarlier).inside isFull.inside (texts.trans hs)
  exact new (mem_map.mpr ⟨_, isEarlier, equal⟩)

theorem step (isFull : FullReport host era identity account report)
    (hn : (reports.map (RateReport.instant host)).Nodup)
    (new : report.instant host ∉ reports.map (RateReport.instant host)) :
    Sampled host identity account (reports ++ [report]) (recordReport host store report) := by
  have recorded := recordReport_eq isFull sampled.identity fun window _ =>
    sampled.looked dated full hn isFull.inside window.windowKind window.windowScope
  refine ⟨by rw [recorded, insertWindows_identity, sampled.identity], ?_⟩
  intro windowKind windowScope
  rw [recorded, insertWindows_rows host "codex_event" (isFull.kinds.sublist (filter_sublist.map _))
    (fun _ _ row hm => sampled.fresh dated full isFull new hm), sampled.rows,
    filter_comm, windowReadings_append, RateReport.readings]
  rcases isFull.window_cases windowKind windowScope with none | ⟨window, _, kind, scope, one⟩
  · simp [none]
  · subst kind scope
    generalize isReading : (⟨report.instant host, window.percent, window.resetsAt,
      window.severity⟩ : WindowReading) = reading
    have instant : report.instant host = reading.instant := by rw [← isReading]
    have value : (window.percent, window.resetsAt, window.severity) = reading.value := by
      rw [← isReading]
      rfl
    have facts : window.facts host (host.formatTimestamp (report.instant host)) =
        reading.facts host := by
      rw [← isReading]
      rfl
    rw [one, map_singleton, isReading, samples_append, sample, filter_cons,
      filter_nil, value, instant]
    rw [instant] at facts
    by_cases hs : (latest WindowReading.instant (samples WindowReading.instant
        WindowReading.value (windowReadings host window.windowKind window.windowScope reports))
          reading.instant).map WindowReading.value = some reading.value
    · simp [hs]
    · simp [hs, facts]

end Sampled

theorem sampled_reports (dated : Dated host era)
    (full : ∀ report ∈ reports, FullReport host era identity account report)
    (hn : (reports.map (RateReport.instant host)).Nodup) :
    Sampled host identity account reports (recordReports host identity reports) := by
  induction reports using List.reverseRecOn with
  | nil => exact ⟨rfl, fun _ _ => rfl⟩
  | append_singleton earlier report ih =>
    have earlierFull : ∀ other ∈ earlier, FullReport host era identity account other :=
      fun _ hm => full _ (mem_append_left _ hm)
    rw [map_append, nodup_append] at hn
    rw [recordReports, foldl_append]
    refine (ih earlierFull hn.1).step dated earlierFull (full _ (by simp)) hn.1 ?_
    exact fun hm => hn.2.2 _ hm _ (by simp) rfl

end

section

variable {host : Host} {era : Int → Prop} {identity : IdentityStore} {account : String}
  {reports : List RateReport} {earlier later : List RateReport} {report : RateReport}
  {windowKind : String}

def reported (value : Rat × Int × Option String) : Rat × Int := (value.1, value.2.1)

def reportedAt (host : Host) (store : BurnStore) (account windowKind : String)
    (windowScope : Option String) (instant : Int) : Except String (Option (Rat × Int)) :=
  (latestWindow host store.rows account windowKind windowScope (host.formatTimestamp instant)).map
    fun found => found.map reported

/-- A report that repeats the latest sample when it arrives says of the window what the report right
before it in time says. -/
def DroppedRepeat (host : Host) (identity : IdentityStore) (account : String)
    (reports : List RateReport) (windowKind : String) (windowScope : Option String) : Prop :=
  ∀ earlier report later, reports = earlier ++ report :: later →
    ∀ reading ∈ report.readings host windowKind windowScope,
      latestWindow host (recordReports host identity earlier).rows account windowKind windowScope
        (host.formatTimestamp reading.instant) = .ok (some reading.value) →
      ∃ before, Precedes WindowReading.instant (windowReadings host windowKind windowScope reports)
          before reading ∧
        (before.percent, before.resetsAt) = (reading.percent, reading.resetsAt)

theorem readings_split (full : ∀ report ∈ reports, FullReport host era identity account report)
    (split : reports = earlier ++ report :: later)
    (hm : reading ∈ report.readings host windowKind windowScope) :
    windowReadings host windowKind windowScope reports =
      windowReadings host windowKind windowScope earlier ++
        reading :: windowReadings host windowKind windowScope later := by
  have only : report.readings host windowKind windowScope = [reading] := by
    rcases (full report (by simp [split])).window_cases windowKind windowScope with
      none | ⟨_, _, _, _, one⟩
    · rw [RateReport.readings, none] at hm
      cases hm
    · rw [RateReport.readings, one, map_singleton] at hm ⊢
      rw [mem_singleton.mp hm]
  rw [split, windowReadings, flatMap_append, flatMap_cons, only]
  rfl

theorem dropped_iff (dated : Dated host era)
    (full : ∀ report ∈ reports, FullReport host era identity account report)
    (hn : (reports.map (RateReport.instant host)).Nodup)
    (split : reports = earlier ++ report :: later)
    (hm : reading ∈ report.readings host windowKind windowScope) :
    latestWindow host (recordReports host identity earlier).rows account windowKind windowScope
        (host.formatTimestamp reading.instant) = .ok (some reading.value) ↔
      reading ∉ samples WindowReading.instant WindowReading.value
        (windowReadings host windowKind windowScope reports) := by
  have isReport : report ∈ reports := by simp [split]
  have earlierFull : ∀ other ∈ earlier, FullReport host era identity account other :=
    fun _ isOther => full _ (by simp [split, isOther])
  have earlierDistinct : (earlier.map (RateReport.instant host)).Nodup := by
    rw [split, map_append] at hn
    exact hn.of_append_left
  have hi : era reading.instant := by
    obtain ⟨_, _, _, rfl⟩ := mem_readings hm
    exact (full _ isReport).inside
  have readingsDistinct := readings_distinct full hn windowKind windowScope
  rw [(sampled_reports dated earlierFull earlierDistinct).looked dated earlierFull earlierDistinct
    hi _ _, readings_split full split hm, not_mem_samples_iff]
  · exact ⟨fun hs => Except.ok.inj hs, congrArg Except.ok⟩
  · rw [← readings_split full split hm]
    exact readingsDistinct.of_map

/-- Whatever the order of arrival, the query reports at every instant the latest event of the window
exactly when every event that was dropped repeats the event right before it in time. -/
theorem latest_window_reports_events (dated : Dated host era)
    (full : ∀ report ∈ reports, FullReport host era identity account report)
    (distinct : (reports.map (RateReport.instant host)).Nodup) (windowKind : String)
    (windowScope : Option String) :
    (∀ instant, era instant →
      reportedAt host (recordReports host identity reports) account windowKind windowScope instant =
        .ok ((latest WindowReading.instant (windowReadings host windowKind windowScope reports)
          instant).map fun reading => (reading.percent, reading.resetsAt))) ↔
      DroppedRepeat host identity account reports windowKind windowScope := by
  have sampled := sampled_reports dated full distinct
  have single := readings_distinct full distinct windowKind windowScope
  have stored (instant : Int) (inside : era instant) :
      reportedAt host (recordReports host identity reports) account windowKind windowScope instant =
        .ok ((latest WindowReading.instant (samples WindowReading.instant WindowReading.value
          (windowReadings host windowKind windowScope reports)) instant).map
            fun reading => (reading.percent, reading.resetsAt)) := by
    rw [reportedAt, sampled.looked dated full distinct inside]
    simp only [Except.map, Option.map_map]
    rfl
  constructor
  · intro follows earlier report later split reading member dropped
    have absent := (dropped_iff dated full distinct split member).mp dropped
    have isReading : reading ∈ windowReadings host windowKind windowScope reports := by
      rw [readings_split full split member]
      simp
    refine repeats_of_reports single reported
      (fun reading listed => (readings_inside full reading listed).1) ?_ isReading absent
    intro instant inside
    have same := follows instant inside
    rw [stored instant inside] at same
    exact Except.ok.inj same
  · intro repeats instant inside
    rw [stored instant inside]
    refine congrArg Except.ok ?_
    refine reports_of_repeats single reported ?_ instant
    intro reading listed absent
    obtain ⟨report, isReport, member⟩ := mem_flatMap.mp listed
    obtain ⟨earlier, later, split⟩ := append_of_mem isReport
    exact repeats earlier report later split reading member
      ((dropped_iff dated full distinct split member).mpr absent)

end

section

def sinceNewYear : IdentityRow :=
  ⟨⟨"codex", "codex:one", januaryHost.formatTimestamp (january 1), none⟩, 0, false⟩

def oneAccount : IdentityStore := ⟨fun _ => none, [sinceNewYear]⟩

theorem oneAccount_at {instant : Int} (inside : InJanuary instant) :
    oneAccount.accountAt januaryHost .codex instant = .ok (some ⟨"codex:one", false, false⟩) := by
  have covers : sinceNewYear.fromTs ≤ januaryHost.formatTimestamp instant :=
    (januaryHost_dated.order _ _ (by decide) inside).mpr inside.1
  have rows : (oneAccount.rows .codex).filter (fun row =>
      row.fromTs ≤ januaryHost.formatTimestamp instant &&
        row.toTs.all fun toTs => januaryHost.formatTimestamp instant < toTs) = [sinceNewYear] := by
    rw [show oneAccount.rows .codex = [sinceNewYear] from rfl]
    simp only [filter_cons, covers, decide_true, filter_nil]
    rfl
  have start : IdentityStore.parseTimestamp januaryHost sinceNewYear.fromTs = .ok (january 1) := by
    have read : januaryHost.parseRfc3339 sinceNewYear.fromTs = some (january 1) :=
      januaryHost_dated.parse _ (by decide)
    rw [IdentityStore.parseTimestamp, read]
  simp only [IdentityStore.accountAt, rows, insertionSort_cons, insertionSort_nil, orderedInsert_nil,
    head?_cons, start]
  rfl

def rateReport (usedPercent : Rat) (day : Int) : RateReport where
  event :=
    { eventType := some "account/rateLimits/updated"
      payloadType := none
      timestamp := some (januaryHost.formatTimestamp day)
      rateLimits := some
        { limitId := none
          rateLimitReachedType := none
          primary := some ⟨some 300, some usedPercent, some 1767830400, none⟩
          secondary := none } }
  receivedAt := day

theorem fullReport_rateReport {usedPercent : Rat} {day : Int}
    (percent : 0 ≤ usedPercent ∧ usedPercent ≤ 100) (isDay : InJanuary day) :
    FullReport januaryHost InJanuary oneAccount "codex:one" (rateReport usedPercent day) := by
  have instant : (rateReport usedPercent day).instant januaryHost = day := by
    show ((some (januaryHost.formatTimestamp day)).bind januaryHost.parseRfc3339).getD day = day
    rw [Option.bind_some, januaryHost_dated.parse day isDay, Option.getD_some]
  have windows : (rateReport usedPercent day).windows januaryHost =
      [⟨"codex_300", none, 300, usedPercent, january 8, none, none⟩] := rfl
  refine ⟨rfl, ?_, ?_, ?_, by rw [instant]; exact isDay, ?_, ?_⟩
  · intro _ isLimits _ hm
    cases isLimits
    rw [mem_singleton.mp hm]
    rfl
  · intro window hm
    rw [windows, mem_singleton] at hm
    have hna : ¬(trim "codex_300" = "" ∨ (300 : Int) ≤ 0) := by decide
    rw [hm, validateWindow, if_neg hna, if_neg (not_not.mpr percent)]
  · exact nodup_singleton _
  · intro window hm
    rw [windows, mem_singleton] at hm
    rw [hm]
    exact (by decide : InJanuary (january 8))
  · rw [instant]
    exact ⟨⟨"codex:one", false, false⟩, oneAccount_at isDay, rfl⟩

theorem reports_full {reports : List (Rat × Int)}
    (fine : ∀ report ∈ reports, (0 ≤ report.1 ∧ report.1 ≤ 100) ∧ InJanuary report.2) :
    ∀ report ∈ reports.map fun report => rateReport report.1 report.2,
      FullReport januaryHost InJanuary oneAccount "codex:one" report := by
  intro _ hm
  obtain ⟨report, isReport, rfl⟩ := mem_map.mp hm
  exact fullReport_rateReport (fine _ isReport).1 (fine _ isReport).2

/-- Ten percent on the second and on the fourth of January, twenty on the third. -/
def lateReports : List RateReport :=
  [((10 : Rat), january 2), (10, january 4), (20, january 3)].map fun report =>
    rateReport report.1 report.2

theorem lateReports_full : ∀ report ∈ lateReports,
    FullReport januaryHost InJanuary oneAccount "codex:one" report :=
  reports_full (by decide)

theorem latest_window_reports_events_of_days :
    (lateReports.map (RateReport.instant januaryHost)).Nodup ∧
      ((∀ instant, InJanuary instant →
        reportedAt januaryHost (recordReports januaryHost oneAccount lateReports) "codex:one"
            "codex_300" none instant =
          .ok ((latest WindowReading.instant (windowReadings januaryHost "codex_300" none lateReports)
            instant).map fun reading => (reading.percent, reading.resetsAt))) ↔
        DroppedRepeat januaryHost oneAccount "codex:one" lateReports "codex_300" none) := by
  have distinct : (lateReports.map (RateReport.instant januaryHost)).Nodup := by
    decide +kernel
  exact ⟨distinct, latest_window_reports_events januaryHost_dated lateReports_full distinct _ _⟩

/-- The report of the fourth repeats the sample of the second and is dropped; the report of the third
comes later and is stored. From the fourth on the query then reports twenty percent, although the
latest event says ten. -/
theorem dropped_report_is_missed :
    (∀ report ∈ lateReports, FullReport januaryHost InJanuary oneAccount "codex:one" report) ∧
      (lateReports.map (RateReport.instant januaryHost)).Nodup ∧
      reportedAt januaryHost (recordReports januaryHost oneAccount lateReports) "codex:one"
        "codex_300" none (january 4) = .ok (some (20, january 8)) ∧
      (latest WindowReading.instant (windowReadings januaryHost "codex_300" none lateReports)
          (january 4)).map
        (fun reading => (reading.percent, reading.resetsAt)) = some (10, january 8) :=
  ⟨lateReports_full, by decide +kernel, by decide +kernel, by decide +kernel⟩

end

end SessionManager.Usage
