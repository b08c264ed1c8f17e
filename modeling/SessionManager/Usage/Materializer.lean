import SessionManager.Usage.Scan
import SessionManager.Usage.Windows

/-! Windows that arrive late. Messages are mapped to the windows known at their ingestion, and a
window that arrives later is materialized: its messages are selected, mapped in batches, and the
window is marked. Between any two of these transactions messages may be ingested, other windows
arrive, or the process may crash. When no window is pending any more, the mapping is the one that a
rebuild makes: always up to the start of the window when labels of scoped windows are not empty, no
selected message is rewritten before its batch and the counts fit, and in full when the windows of
one kind that cover a message have one start. -/
namespace SessionManager.Usage
open Foundation List

section

/-- The ledger, and the window being materialized with the selected messages not yet written. -/
structure Materializer where
  db : Ledger
  work : Option (BurnWindow × List Nat)

inductive MaterializerStep : Materializer → Materializer → Prop
  | ingests {db after : Ledger} {outcome : IngestOutcome} (work : Option (BurnWindow × List Nat))
      (candidate : Contribution) (done : ingestContribution db candidate = some (after, outcome)) :
      MaterializerStep ⟨db, work⟩ ⟨after, work⟩
  | arrives (db : Ledger) (work : Option (BurnWindow × List Nat)) (sample : BurnSample) :
      MaterializerStep ⟨db, work⟩ ⟨{ db with burnSamples := db.burnSamples ++ [sample] }, work⟩
  | selects (db : Ledger) {window : BurnWindow} (pending : window ∈ pendingBurnWindows db) :
      MaterializerStep ⟨db, none⟩ ⟨db, some (window, pendingMessageIdsForWindow db window)⟩
  | writes {db after : Ledger} {window : BurnWindow} {ids : List Nat} (left : ids ≠ [])
      (done : materializeWindowMessagesBatch window (ids.take ledgerWriteBatchSize) db =
        some after) :
      MaterializerStep ⟨db, some (window, ids)⟩
        ⟨after, some (window, ids.drop ledgerWriteBatchSize)⟩
  | marks (db : Ledger) (window : BurnWindow) :
      MaterializerStep ⟨db, some (window, [])⟩ ⟨commit (markBurnWindowMaterialized window) db, none⟩
  | crashes (db : Ledger) (work : Option (BurnWindow × List Nat)) :
      MaterializerStep ⟨db, work⟩ ⟨db, none⟩

/-- Scoped windows have no empty label, the counts fit, and a message that was selected is not
rewritten before its batch is written. -/
structure Careful (before after : Materializer) : Prop where
  labels : ∀ sample ∈ after.db.burnSamples, sample.plain
  small : after.db.Small
  selected : ∀ window ids, before.work = some (window, ids) → ∀ msgId ∈ ids,
    loadContribution after.db msgId = loadContribution before.db msgId

def CarefulStep (before after : Materializer) : Prop :=
  MaterializerStep before after ∧ Careful before after

end

section

/-- The samples whose windows the message must have been mapped to by now. -/
def Materializer.due (state : Materializer) (msgId : Nat) (sample : BurnSample) : Prop :=
  sample.burnWindow ∈ state.db.materialized ∨
    ∃ ids, state.work = some (sample.burnWindow, ids) ∧ msgId ∉ ids

structure Mapping (state : Materializer) : Prop where
  tallied : Tallied state.db
  small : state.db.Small
  maps : Maps state.db state.due
  labels : ∀ sample ∈ state.db.burnSamples, sample.plain
  known : ∀ window ∈ state.db.materialized, ∃ sample ∈ state.db.burnSamples,
    sample.burnWindow = window
  selected : ∀ window ids, state.work = some (window, ids) →
    ∃ sample ∈ state.db.burnSamples, sample.burnWindow = window ∧
      ∀ msgId ∈ ids, ∃ value, loadContribution state.db msgId = some value ∧
        sample.covers value = true

theorem mapping_start : Mapping ⟨Ledger.empty, none⟩ where
  tallied := tallied_of_samples []
  small := by decide
  maps := ⟨by simp [Ledger.empty], by simp [Ledger.empty]⟩
  labels := by simp [Ledger.empty]
  known := by simp [Ledger.empty]
  selected := by simp

variable {before after : Materializer} {db later : Ledger} {finish : Materializer}
  {window : BurnWindow}

theorem mem_pendingMessageIds (hso : Sound db) {msgId : Nat} :
    msgId ∈ pendingMessageIdsForWindow db window ↔
      ∃ value, loadContribution db msgId = some value ∧ window.covers value ∧
        (msgId, window.kind) ∉ db.slots := by
  have unmapped (id : Nat) : (!db.windows.any fun mapped =>
      mapped.msgId = id && mapped.window.kind = window.kind) ↔ (id, window.kind) ∉ db.slots := by
    simp [Ledger.slots, WindowRow.slot]
  simp only [pendingMessageIdsForWindow, mem_map, mem_insertionSort, mem_filter,
    Bool.and_eq_true, unmapped, Prod.exists, BurnWindow.covers]
  constructor
  · rintro ⟨id, value, ⟨hm, covers, free⟩, rfl⟩
    exact ⟨_, (mem_messages_iff hso id _).mp hm, covers, free⟩
  · rintro ⟨value, hlo, covers, free⟩
    exact ⟨_, _, ⟨(mem_messages_iff hso _ _).mpr hlo, covers, free⟩, rfl⟩

theorem mem_pendingBurnWindows : window ∈ pendingBurnWindows db ↔
      (∃ sample ∈ db.burnSamples, sample.burnWindow = window) ∧ window ∉ db.materialized := by
  unfold pendingBurnWindows
  simp only [mem_dedup, mem_filter, mem_map, decide_eq_true_eq]
  exact Iff.rfl

/-- A batch maps its messages to the window and leaves the rest alone. -/
theorem batch_maps {due : Nat → BurnSample → Prop} {sample : BurnSample} (ids : List Nat)
    (maps : Maps db due) (hm : sample ∈ db.burnSamples)
    (covered : ∀ msgId ∈ ids, ∃ value, loadContribution db msgId = some value ∧ sample.covers value)
    (hd : materializeWindowMessagesBatch sample.burnWindow ids db = some later) :
    (Maps later fun id other => due id other ∨ id ∈ ids ∧ other.windowKind = sample.windowKind) ∧
      SameMessages db later ∧ SameSamples db later := by
  unfold materializeWindowMessagesBatch at hd
  induction ids generalizing db due with
  | nil =>
    cases hd
    exact ⟨maps.weaken fun _ _ _ isDue => by simpa using isDue, .refl _, rfl, rfl⟩
  | cons msgId _ ih =>
    obtain ⟨middle, first, others⟩ := Option.bind_eq_some_iff.mp hd
    obtain ⟨value, hlo, covers⟩ := covered _ mem_cons_self
    have mapped : middle = materializeContributionForWindow db msgId value
        sample.messageWindow := by
      rw [materializeMessage, hlo] at first
      exact (Option.some.inj first).symm
    subst mapped
    have hfm := materializeContributionForWindow_frame db msgId value sample.messageWindow
    have samples := materializeContributionForWindow_samples db msgId value sample.messageWindow
    obtain ⟨hw, messages, windows⟩ :=
      ih (maps.forWindow hlo hm covers) (samples.samples ▸ hm) (fun _ among => by
          rw [hfm.load]
          exact covered _ (mem_cons_of_mem _ among)) others
    refine ⟨hw.weaken ?_, hfm.trans messages, samples.trans windows⟩
    rintro id other _ (isDue | ⟨among, hs⟩)
    · exact .inl (.inl isDue)
    · rcases mem_cons.mp among with hh | among
      · exact .inl (.inr ⟨hh, hs⟩)
      · exact .inr ⟨among, hs⟩

theorem Mapping.crash {work : Option (BurnWindow × List Nat)} (mapping : Mapping ⟨db, work⟩) :
    Mapping ⟨db, none⟩ := by
  refine ⟨mapping.tallied, mapping.small, mapping.maps.weaken ?_, mapping.labels, mapping.known,
    by simp⟩
  rintro _ _ _ (hd | ⟨_, working, _⟩)
  · exact .inl hd
  · cases working

theorem Mapping.step (mapping : Mapping before) (step : CarefulStep before after) :
    Mapping after := by
  obtain ⟨step, careful⟩ := step
  have labels := careful.labels
  have small := careful.small
  cases step with
  | @ingests _ _ _ _ _ hd =>
    have hs := ingestContribution_samples hd
    refine ⟨mapping.tallied.ingest mapping.small small hd, small, ?_, labels, ?_, ?_⟩
    · refine (mapping.maps.ingest mapping.tallied.sound hd).weaken fun _ _ _ isDue => ?_
      rwa [Materializer.due, hs.materialized] at isDue
    · rw [hs.samples, hs.materialized]
      exact mapping.known
    · intro window ids working
      obtain ⟨sample, hm, isWindow, covered⟩ := mapping.selected _ ids working
      refine ⟨_, hs.samples ▸ hm, isWindow, fun _ among => ?_⟩
      rw [careful.selected _ ids working _ among]
      exact covered _ among
  | arrives db _ sample =>
    refine ⟨mapping.tallied.change mapping.small (.sample db _ db.materialized), small, ⟨?_, ?_⟩,
      labels, ?_, ?_⟩
    · intro row hm value hlo
      obtain ⟨old, among, rest⟩ := mapping.maps.backed row hm _ hlo
      exact ⟨old, mem_append_left _ among, rest⟩
    · intro msgId value other hlo among covers isDue
      -- a window that was sampled before is due because of the earlier sample
      obtain ⟨old, hk, hs⟩ : ∃ old ∈ db.burnSamples, old.burnWindow = other.burnWindow := by
        rcases isDue with hd | ⟨ids, working, -⟩
        · exact mapping.known _ hd
        · obtain ⟨old, hk, hs, -⟩ := mapping.selected _ ids working
          exact ⟨old, hk, hs⟩
      have coversOld : old.covers value := by
        rw [← (mapping.labels old hk).covers_eq, hs, (labels _ among).covers_eq, covers]
      have slot := mapping.maps.complete _ _ old hlo hk coversOld
        (by rwa [Materializer.due, hs])
      rwa [show old.windowKind = other.windowKind from congrArg BurnWindow.kind hs] at slot
    · intro window hd
      obtain ⟨old, among, hs⟩ := mapping.known _ hd
      exact ⟨old, mem_append_left _ among, hs⟩
    · intro window ids working
      obtain ⟨old, among, rest⟩ := mapping.selected _ ids working
      exact ⟨old, mem_append_left _ among, rest⟩
  | @selects _ _ hpe =>
    obtain ⟨⟨sample, hm, hs⟩, -⟩ := mem_pendingBurnWindows.mp hpe
    refine ⟨mapping.tallied, small, ⟨mapping.maps.backed, ?_⟩, labels, mapping.known, ?_⟩
    · rintro msgId value other hlo among covers (hd | ⟨ids, working, hab⟩)
      · exact mapping.maps.complete _ _ _ hlo among covers (.inl hd)
      · cases working
        by_contra free
        refine hab ((mem_pendingMessageIds mapping.tallied.sound).mpr ⟨_, hlo, ?_, free⟩)
        rw [(labels _ among).covers_eq, covers]
    · intro chosen ids working
      cases working
      refine ⟨_, hm, hs, fun _ selected => ?_⟩
      obtain ⟨value, hlo, covers, -⟩ := (mem_pendingMessageIds mapping.tallied.sound).mp selected
      refine ⟨_, hlo, ?_⟩
      rw [← (labels _ hm).covers_eq, hs, covers]
  | @writes _ _ window ids _ hd =>
    obtain ⟨sample, hm, rfl, covered⟩ := mapping.selected _ ids rfl
    obtain ⟨hw, messages, windows⟩ := batch_maps (ids.take ledgerWriteBatchSize) mapping.maps hm
      (fun _ among => covered _ (mem_of_mem_take among)) hd
    have tallied := (mapping.tallied.changes mapping.small (changes_materializeBatch hd)).1
    refine ⟨tallied, small, hw.weaken ?_, labels, ?_, ?_⟩
    · rintro msgId other among (hd | ⟨rest, working, hab⟩)
      · exact .inl (.inl (windows.materialized ▸ hd))
      · obtain ⟨hs, rfl⟩ := Prod.mk.inj (Option.some.inj working)
        by_cases hh : msgId ∈ ids.take ledgerWriteBatchSize
        · exact .inr ⟨hh, congrArg BurnWindow.kind hs.symm⟩
        · refine .inl (.inr ⟨ids, by rw [hs], fun hi => ?_⟩)
          rw [← take_append_drop ledgerWriteBatchSize ids] at hi
          exact (mem_append.mp hi).elim hh hab
    · rw [windows.samples, windows.materialized]
      exact mapping.known
    · intro chosen rest working
      cases working
      refine ⟨_, windows.samples ▸ hm, rfl, fun _ among => ?_⟩
      rw [messages.load]
      exact covered _ (mem_of_mem_drop among)
  | marks db window =>
    obtain ⟨sample, hm, hs, -⟩ := mapping.selected _ [] rfl
    have hmk : commit (markBurnWindowMaterialized window) db =
        if window ∈ db.materialized then db
        else { db with materialized := db.materialized ++ [window] } := rfl
    rw [hmk] at labels small ⊢
    by_cases hk : window ∈ db.materialized
    · rw [if_pos hk]
      exact mapping.crash
    · have due : Maps { db with materialized := db.materialized ++ [window] } fun id other =>
          other.burnWindow ∈ db.materialized ∨ other.burnWindow = window := by
        refine (mapping.maps.weaken fun _ _ _ isDue => isDue.imp_right fun isWindow => ?_).congr
          rfl (fun _ => rfl) rfl
        exact ⟨[], by rw [isWindow], not_mem_nil⟩
      rw [if_neg hk] at labels small ⊢
      refine ⟨mapping.tallied.change mapping.small (.sample db db.burnSamples _), small,
        due.weaken ?_, labels, ?_, by simp⟩
      · rintro msgId other _ (hd | ⟨_, working, _⟩)
        · simpa using hd
        · cases working
      · intro other hd
        rcases mem_append.mp hd with old | isNew
        · exact mapping.known _ old
        · exact ⟨_, hm, hs.trans (mem_singleton.mp isNew).symm⟩
  | crashes => exact mapping.crash

theorem mapping_reached
    (run : Relation.ReflTransGen CarefulStep ⟨Ledger.empty, none⟩ finish) : Mapping finish := by
  induction run with
  | refl => exact mapping_start
  | tail _ step ih => exact ih.step step

theorem Mapping.complete (mapping : Mapping finish)
    (nothing : pendingBurnWindows finish.db = []) : Maps finish.db fun _ _ => True := by
  refine mapping.maps.weaken fun _ _ hm _ => .inl ?_
  by_contra missing
  have hpe := mem_pendingBurnWindows.mpr ⟨⟨_, hm, rfl⟩, missing⟩
  rw [nothing] at hpe
  cases hpe

/-- When no window is pending, a rebuild leaves the totals and the mapped kinds as they are, every
message has the kinds of all windows that cover it, and where the windows of one kind that cover a
message have one start the rebuild leaves the rows themselves as they are. -/
theorem mapping_matches_rebuild {finish : Materializer}
    (run : Relation.ReflTransGen CarefulStep ⟨Ledger.empty, none⟩ finish)
    (nothing : pendingBurnWindows finish.db = []) :
    (∀ msgId value sample, loadContribution finish.db msgId = some value →
      sample ∈ finish.db.burnSamples → sample.covers value = true →
      (msgId, sample.windowKind) ∈ finish.db.slots) ∧
    ∃ rebuilt, rebuildRollups finish.db = some rebuilt ∧
      rebuilt.seatTokens = finish.db.seatTokens ∧ rebuilt.slots.Perm finish.db.slots ∧
      (OneStart finish.db → ∀ row, row ∈ rebuilt.windows ↔ row ∈ finish.db.windows) := by
  have mapping := mapping_reached run
  have maps := mapping.complete nothing
  have sound := mapping.tallied.sound
  obtain ⟨rebuilt, done, complete, loads, samples⟩ := rebuildRollups_complete sound
  have tallied := (mapping.tallied.changes mapping.small (changes_rebuild done)).1
  refine ⟨fun msgId value sample loaded among covers =>
    maps.complete msgId value sample loaded among covers trivial, rebuilt, done,
    totals_agree mapping.tallied tallied
      (rollupEntries_perm maps complete sound tallied.sound loads samples),
    (slots_perm maps complete sound tallied.sound loads samples).symm, ?_⟩
  intro oneStart row
  have again : OneStart rebuilt := by
    intro msgId value loaded first inFirst second inSecond
    rw [samples] at inFirst inSecond
    exact oneStart msgId value ((loads msgId).symm.trans loaded) first inFirst second inSecond
  exact ⟨rows_agree complete maps tallied.sound (fun msgId => (loads msgId).symm) samples.symm again,
    rows_agree maps complete sound loads samples oneStart⟩

end

section

def arrived (db : Ledger) (sample : BurnSample) : Ledger :=
  { db with burnSamples := db.burnSamples ++ [sample] }

def marked (db : Ledger) (sample : BurnSample) : Ledger :=
  commit (markBurnWindowMaterialized sample.burnWindow) db

def lateSample : BurnSample :=
  { weeklySample with windowKind := "five_hour", resetsAt := "2026-01-03" }

/-- Two messages in a known window. -/
def knownWindow : Ledger :=
  ingested (ingested (marked (arrived Ledger.empty weeklySample) weeklySample) sampleMessage)
    secondMessage

def mappedLate : Ledger :=
  commit (materializeWindowMessagesBatch lateSample.burnWindow [1, 2])
    (arrived knownWindow lateSample)

/-- A second window that covers both messages arrives after them. -/
theorem mapping_matches_rebuild_of_late_window :
    pendingBurnWindows (marked mappedLate lateSample) = [] ∧
      (marked mappedLate lateSample).slots =
        [(1, "weekly_all"), (2, "weekly_all"), (1, "five_hour"), (2, "five_hour")] ∧
      ∃ rebuilt, rebuildRollups (marked mappedLate lateSample) = some rebuilt ∧
        rebuilt.seatTokens = (marked mappedLate lateSample).seatTokens := by
  have plain : ∀ sample ∈ [weeklySample, lateSample], sample.plain := by
    simp [BurnSample.plain, weeklySample, lateSample]
  have one : ∀ sample ∈ [weeklySample], sample.plain := fun sample hm => plain sample (by simp_all)
  have arrives : CarefulStep ⟨Ledger.empty, none⟩ ⟨arrived Ledger.empty weeklySample, none⟩ :=
    ⟨.arrives _ _ _, one, by decide, by simp⟩
  have selects : CarefulStep ⟨arrived Ledger.empty weeklySample, none⟩
      ⟨arrived Ledger.empty weeklySample, some (weeklySample.burnWindow, [])⟩ :=
    ⟨.selects _ (by decide +kernel), one, by decide, by simp⟩
  have marks : CarefulStep ⟨arrived Ledger.empty weeklySample, some (weeklySample.burnWindow, [])⟩
      ⟨marked (arrived Ledger.empty weeklySample) weeklySample, none⟩ :=
    ⟨.marks _ _, one, by decide +kernel, by simp⟩
  have first : CarefulStep ⟨marked (arrived Ledger.empty weeklySample) weeklySample, none⟩
      ⟨ingested (marked (arrived Ledger.empty weeklySample) weeklySample) sampleMessage, none⟩ :=
    ⟨.ingests none sampleMessage rfl, one, by decide +kernel, by simp⟩
  have second : CarefulStep
      ⟨ingested (marked (arrived Ledger.empty weeklySample) weeklySample) sampleMessage, none⟩
      ⟨knownWindow, none⟩ := ⟨.ingests none secondMessage rfl, one, by decide +kernel, by simp⟩
  have comes : CarefulStep ⟨knownWindow, none⟩ ⟨arrived knownWindow lateSample, none⟩ :=
    ⟨.arrives _ _ _, plain, by decide +kernel, by simp⟩
  have picks : CarefulStep ⟨arrived knownWindow lateSample, none⟩
      ⟨arrived knownWindow lateSample, some (lateSample.burnWindow, [1, 2])⟩ :=
    ⟨.selects _ (by decide +kernel), plain, by decide +kernel, by simp⟩
  have writes : CarefulStep ⟨arrived knownWindow lateSample, some (lateSample.burnWindow, [1, 2])⟩
      ⟨mappedLate, some (lateSample.burnWindow, [])⟩ :=
    ⟨.writes (by simp) rfl, plain, by decide +kernel, by
      rintro window ids ⟨⟩ msgId _
      rfl⟩
  have settles : CarefulStep ⟨mappedLate, some (lateSample.burnWindow, [])⟩
      ⟨marked mappedLate lateSample, none⟩ :=
    ⟨.marks _ _, plain, by decide +kernel, by simp⟩
  have known := ((((Relation.ReflTransGen.single arrives).tail selects).tail marks).tail first).tail
    second
  have nothing : pendingBurnWindows (marked mappedLate lateSample) = [] := by decide +kernel
  obtain ⟨_, rebuilt, rebuilds, totals, _⟩ := mapping_matches_rebuild
    ((((known.tail comes).tail picks).tail writes).tail settles) nothing
  exact ⟨nothing, by decide +kernel, rebuilt, rebuilds, totals⟩

def unlabelledSample : BurnSample :=
  { weeklySample with windowKind := "weekly_scoped", windowScope := some "" }

def laterSample : BurnSample := { weeklySample with windowStart := "2026-01-02" }

/-- A scoped window with an empty label that arrives after its message. -/
def unlabelled : Ledger :=
  marked (arrived (ingested Ledger.empty sampleMessage) unlabelledSample) unlabelledSample

def mappedToLater : Ledger :=
  commit (materializeWindowMessagesBatch laterSample.burnWindow [1])
    (arrived (ingested Ledger.empty sampleMessage) laterSample)

/-- A second window of the same kind that starts earlier but arrives later. -/
def superseded : Ledger :=
  marked (arrived (marked mappedToLater laterSample) weeklySample) weeklySample

/-- The SQL test misses a message that the Rust test finds, and the row of a message stays with the
window that came first. -/
theorem late_windows_mapped_differently :
    (Relation.ReflTransGen MaterializerStep ⟨Ledger.empty, none⟩ ⟨unlabelled, none⟩ ∧
      pendingBurnWindows unlabelled = [] ∧ unlabelled.slots = [] ∧
      (rebuildRollups unlabelled).map Ledger.slots = some [(1, "weekly_scoped")]) ∧
    Relation.ReflTransGen MaterializerStep ⟨Ledger.empty, none⟩ ⟨superseded, none⟩ ∧
      pendingBurnWindows superseded = [] ∧
      superseded.windows = [⟨1, ⟨"weekly_all", "2026-01-02"⟩⟩] ∧
      (rebuildRollups superseded).map Ledger.windows =
        some [⟨1, ⟨"weekly_all", "2026-01-01"⟩⟩] := by
  have done : ingestContribution Ledger.empty sampleMessage =
      some (ingested Ledger.empty sampleMessage, .inserted) := rfl
  have first : MaterializerStep ⟨Ledger.empty, none⟩ ⟨ingested Ledger.empty sampleMessage, none⟩ :=
    .ingests none sampleMessage done
  refine ⟨⟨?_, by decide +kernel, by decide +kernel, by decide +kernel⟩, ?_, by decide +kernel,
    by decide +kernel, by decide +kernel⟩
  · have selects : MaterializerStep
        ⟨arrived (ingested Ledger.empty sampleMessage) unlabelledSample, none⟩
        ⟨arrived (ingested Ledger.empty sampleMessage) unlabelledSample,
          some (unlabelledSample.burnWindow, [])⟩ := .selects _ (by decide +kernel)
    exact (((Relation.ReflTransGen.single first).tail (.arrives _ _ unlabelledSample)).tail
      selects).tail (.marks _ _)
  · have selects : MaterializerStep
        ⟨arrived (ingested Ledger.empty sampleMessage) laterSample, none⟩
        ⟨arrived (ingested Ledger.empty sampleMessage) laterSample,
          some (laterSample.burnWindow, [1])⟩ := .selects _ (by decide +kernel)
    have writes : MaterializerStep
        ⟨arrived (ingested Ledger.empty sampleMessage) laterSample,
          some (laterSample.burnWindow, [1])⟩
        ⟨mappedToLater, some (laterSample.burnWindow, [])⟩ := .writes (by simp) rfl
    have again : MaterializerStep ⟨arrived (marked mappedToLater laterSample) weeklySample, none⟩
        ⟨arrived (marked mappedToLater laterSample) weeklySample,
          some (weeklySample.burnWindow, [])⟩ := .selects _ (by decide +kernel)
    have later := ((((Relation.ReflTransGen.single first).tail (.arrives _ _ laterSample)).tail
      selects).tail writes).tail (.marks _ _)
    exact ((later.tail (.arrives _ _ weeklySample)).tail again).tail (.marks _ _)

end

end SessionManager.Usage
