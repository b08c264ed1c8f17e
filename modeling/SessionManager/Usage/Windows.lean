import Mathlib.Data.List.Dedup
import SessionManager.Usage.Rollup

/-! Which windows a message is mapped to. A window row takes the slot of its message and kind, and
a slot is taken once. The rows of a ledger are backed when each lies in a window that a burn sample
has announced, and they are complete for the samples that are due when each message such a sample
covers has its slot. Mapping, unmapping and rebuilding are followed by what they make due; two
ledgers with the same messages and samples that are complete for all of them agree. -/
namespace SessionManager.Usage
open Foundation List

variable {sample : BurnSample}

section

/-- The Rust test of `windows_for`. -/
def BurnSample.covers (sample : BurnSample) (value : Contribution) : Bool :=
  sample.accountKey = value.accountKey && sample.windowStart ≤ value.recordedAt &&
    value.recordedAt < sample.resetsAt &&
    (sample.windowKind ≠ "weekly_scoped" || sample.windowScope.any (modelMatchesScope value.model))

/-- The SQL test of `pending_message_ids_for_window`. -/
def BurnWindow.covers (window : BurnWindow) (value : Contribution) : Bool :=
  value.accountKey = window.accountKey && window.start ≤ value.recordedAt &&
    value.recordedAt < window.resetsAt &&
    (window.kind ≠ "weekly_scoped" ||
      window.scope ≠ "" && modelMatchesScope value.model window.scope)

/-- The columns by which a sample's window is looked up. -/
def BurnSample.burnWindow (sample : BurnSample) : BurnWindow :=
  ⟨sample.accountKey, sample.windowKind, sample.windowScope.getD "", sample.windowStart,
    sample.resetsAt⟩

def BurnSample.messageWindow (sample : BurnSample) : MessageWindow :=
  ⟨sample.windowKind, sample.windowStart⟩

/-- A scoped window without a label or with one that is not empty. -/
def BurnSample.plain (sample : BurnSample) : Prop :=
  sample.windowKind = "weekly_scoped" → sample.windowScope ≠ some ""

/-- The two tests agree but for the empty label, which the Rust test finds in every model. -/
theorem BurnSample.plain.covers_eq (plain : sample.plain)
    (value : Contribution) : sample.burnWindow.covers value = sample.covers value := by
  have accounts : (value.accountKey = sample.accountKey) = (sample.accountKey = value.accountKey) :=
    propext eq_comm
  unfold BurnWindow.covers BurnSample.covers BurnSample.burnWindow
  by_cases isScoped : sample.windowKind = "weekly_scoped"
  · cases label : sample.windowScope with
    | none => simp [isScoped, accounts]
    | some scope =>
      have hna : scope ≠ "" := fun empty => plain isScoped (by rw [label, empty])
      simp [isScoped, hna, accounts]
  · simp [isScoped, accounts]

theorem mem_windowsFor {db : Ledger} {value : Contribution} {window : MessageWindow} :
    window ∈ windowsFor db value ↔
      ∃ sample ∈ db.burnSamples, sample.covers value ∧ sample.messageWindow = window := by
  unfold windowsFor
  simp only [mem_insertionSort, mem_map, mem_filter, mem_dedup,
    BurnSample.covers, BurnSample.messageWindow, Bool.and_eq_true, Prod.exists]
  constructor
  · rintro ⟨_, _, ⟨⟨sample, ⟨hm, covers⟩, hs⟩, applies⟩, rfl⟩
    cases hs
    exact ⟨_, hm, ⟨covers, applies⟩, rfl⟩
  · rintro ⟨sample, hm, ⟨covers, applies⟩, rfl⟩
    exact ⟨_, sample.windowScope, ⟨⟨_, ⟨hm, covers⟩, rfl⟩, applies⟩, rfl⟩

end

section

def Backed (db : Ledger) (row : WindowRow) : Prop :=
  ∀ value, loadContribution db row.msgId = some value →
    ∃ sample ∈ db.burnSamples, sample.covers value = true ∧ sample.messageWindow = row.window

/-- Every slot is taken by a row of a window that covers its message, and the messages that a due
sample covers have their slots. -/
structure Maps (db : Ledger) (due : Nat → BurnSample → Prop) : Prop where
  backed : ∀ row ∈ db.windows, Backed db row
  complete : ∀ msgId value sample, loadContribution db msgId = some value →
    sample ∈ db.burnSamples → sample.covers value = true → due msgId sample →
    (msgId, sample.windowKind) ∈ db.slots

variable {db after : Ledger} {due later : Nat → BurnSample → Prop}

theorem Maps.weaken (maps : Maps db due)
    (less : ∀ msgId sample, sample ∈ db.burnSamples → later msgId sample → due msgId sample) :
    Maps db later :=
  { maps with
    complete := fun msgId value sample hlo hm covers isDue =>
      maps.complete msgId value sample hlo hm covers (less msgId sample hm isDue) }

theorem Maps.congr (maps : Maps db due) (windows : after.windows = db.windows)
    (loads : ∀ msgId, loadContribution after msgId = loadContribution db msgId)
    (samples : after.burnSamples = db.burnSamples) : Maps after due where
  backed := by
    intro row hm value hlo
    rw [windows] at hm
    rw [loads] at hlo
    rw [samples]
    exact maps.backed row hm _ hlo
  complete := by
    intro msgId value _ hlo hm covers isDue
    rw [loads] at hlo
    rw [samples] at hm
    rw [Ledger.slots, windows]
    exact maps.complete _ _ _ hlo hm covers isDue

structure SameSamples (db after : Ledger) : Prop where
  samples : after.burnSamples = db.burnSamples
  materialized : after.materialized = db.materialized

theorem SameSamples.trans {middle : Ledger} (first : SameSamples db middle)
    (second : SameSamples middle after) : SameSamples db after :=
  ⟨second.samples.trans first.samples, second.materialized.trans first.materialized⟩

theorem materializeContributionForWindow_samples (db : Ledger) (msgId : Nat) (value : Contribution)
    (window : MessageWindow) :
    SameSamples db (materializeContributionForWindow db msgId value window) := by
  unfold materializeContributionForWindow
  split
  · exact ⟨rfl, rfl⟩
  · split <;> exact ⟨rfl, rfl⟩

variable {msgId : Nat} {value : Contribution} {candidate : Contribution} {outcome : IngestOutcome}

/-- Mapping a message to a window that covers it makes the samples of that kind due. -/
theorem Maps.forWindow (maps : Maps db due) (hlo : loadContribution db msgId = some value)
    (hm : sample ∈ db.burnSamples) (covers : sample.covers value) :
    Maps (materializeContributionForWindow db msgId value sample.messageWindow) fun id other =>
      due id other ∨ id = msgId ∧ other.windowKind = sample.windowKind := by
  have hfm := materializeContributionForWindow_frame db msgId value sample.messageWindow
  have samples :=
    (materializeContributionForWindow_samples db msgId value sample.messageWindow).samples
  have windows := materializeContributionForWindow_windows db msgId value sample.messageWindow
  by_cases hk : (msgId, sample.messageWindow.kind) ∈ db.slots
  · rw [if_pos hk] at windows
    refine Maps.congr ⟨maps.backed, ?_⟩ windows hfm.load samples
    rintro id other kind loads among covered (isDue | ⟨rfl, hs⟩)
    · exact maps.complete id _ _ loads among covered isDue
    · rw [hs]
      exact hk
  · rw [if_neg hk] at windows
    have slots : (materializeContributionForWindow db msgId value sample.messageWindow).slots =
        db.slots ++ [(msgId, sample.windowKind)] := by
      rw [Ledger.slots, windows, map_append]
      rfl
    refine ⟨?_, ?_⟩
    · intro row among held loads
      rw [hfm.load] at loads
      rw [samples]
      rw [windows] at among
      rcases mem_append.mp among with old | isNew
      · exact maps.backed row old held loads
      · obtain rfl := mem_singleton.mp isNew
        obtain rfl := Option.some.inj (hlo.symm.trans loads)
        exact ⟨_, hm, covers, rfl⟩
    · intro id held other loads among covered isDue
      rw [hfm.load] at loads
      rw [samples] at among
      rw [slots]
      rcases isDue with isDue | ⟨rfl, hs⟩
      · exact mem_append_left _ (maps.complete id held _ loads among covered isDue)
      · rw [hs]
        exact mem_append_right _ (mem_singleton_self _)

theorem materializeContribution_samples (db : Ledger) (msgId : Nat) (value : Contribution) :
    SameSamples db (materializeContribution db msgId value) := by
  unfold materializeContribution
  generalize windowsFor db value = windows
  induction windows generalizing db with
  | nil => exact ⟨rfl, rfl⟩
  | cons _ _ ih =>
    exact (materializeContributionForWindow_samples db _ _ _).trans (ih _)

theorem unmap_samples (db : Ledger) (msgId : Nat) (incumbent value : Contribution) : SameSamples db
      (overwriteContribution (reverseContribution db msgId incumbent) msgId value) := by
  unfold reverseContribution
  simp only [foldl_applyRollup]
  split <;> exact ⟨rfl, rfl⟩

theorem ingestContribution_samples
    (hd : ingestContribution db candidate = some (after, outcome)) : SameSamples db after := by
  rcases ingestContribution_cases hd with
    ⟨msgId, incumbent, -, -, ⟨-, -, rfl⟩ | ⟨-, -, rfl⟩⟩ | ⟨-, -, rfl⟩
  · have unmapped := unmap_samples db msgId incumbent candidate
    have mapped := unmapped.trans (materializeContribution_samples _ msgId candidate)
    exact ⟨mapped.samples, mapped.materialized⟩
  · exact ⟨rfl, rfl⟩
  · have mapped := materializeContribution_samples (insertContribution db candidate).1 db.nextId
      candidate
    exact ⟨mapped.samples, mapped.materialized⟩

section

variable (maps : Maps db due)
include maps

theorem Maps.foldl_windows
    (hlo : loadContribution db msgId = some value) {windows : List MessageWindow}
    (covering : ∀ window ∈ windows, ∃ sample ∈ db.burnSamples,
      sample.covers value ∧ sample.messageWindow = window) :
    Maps (windows.foldl (fun db window =>
        materializeContributionForWindow db msgId value window) db) fun id other =>
      due id other ∨ id = msgId ∧ other.messageWindow ∈ windows := by
  induction windows generalizing db due with
  | nil => exact maps.weaken fun _ _ _ isDue => by simpa using isDue
  | cons window _ ih =>
    obtain ⟨sample, hm, covers, rfl⟩ := covering _ mem_cons_self
    have hfm := materializeContributionForWindow_frame db msgId value sample.messageWindow
    have samples :=
      (materializeContributionForWindow_samples db msgId value sample.messageWindow).samples
    refine (ih (maps.forWindow hlo hm covers) ((hfm.load _).trans hlo) ?_).weaken ?_
    · intro other among
      rw [samples]
      exact covering _ (mem_cons_of_mem _ among)
    · rintro id other _ (isDue | ⟨rfl, among⟩)
      · exact .inl (.inl isDue)
      · rcases mem_cons.mp among with hs | among
        · exact .inl (.inr ⟨rfl, congrArg MessageWindow.kind hs⟩)
        · exact .inr ⟨rfl, among⟩

theorem Maps.materialize (hlo : loadContribution db msgId = some value) :
    Maps (materializeContribution db msgId value) fun id other => due id other ∨ id = msgId := by
  have folded := maps.foldl_windows hlo fun _ => mem_windowsFor.mp
  refine ⟨folded.backed, ?_⟩
  intro id held _ loads among covers isDue
  refine folded.complete id held _ loads among covers (isDue.imp_right fun hs => ⟨hs, ?_⟩)
  subst hs
  rw [(materializeContribution_frame db id _).load, hlo] at loads
  obtain rfl := Option.some.inj loads
  rw [(materializeContribution_samples db id _).samples] at among
  exact mem_windowsFor.mpr ⟨_, among, covers, rfl⟩

theorem Maps.unmap (incumbent value : Contribution) :
    Maps (overwriteContribution (reverseContribution db msgId incumbent) msgId value)
      fun id other => id ≠ msgId ∧ due id other := by
  have windows : (overwriteContribution (reverseContribution db msgId incumbent) msgId
      value).windows = db.windows.filter fun row => row.msgId ≠ msgId := rfl
  have samples := (unmap_samples db msgId incumbent value).samples
  have loads (other : Nat) (hap : other ≠ msgId) :
      loadContribution (overwriteContribution (reverseContribution db msgId incumbent) msgId value)
        other = loadContribution db other := by
    rw [loadContribution_overwrite, if_neg hap, (reverseContribution_frame db _ _).load]
  refine ⟨?_, ?_⟩
  · intro row hm held hlo
    rw [windows, mem_filter] at hm
    rw [loads row.msgId (by simpa using hm.2)] at hlo
    rw [samples]
    exact maps.backed row hm.1 held hlo
  · rintro id held _ hlo among covers ⟨hap, isDue⟩
    rw [loads id hap] at hlo
    rw [samples] at among
    obtain ⟨row, hm, slot⟩ := mem_map.mp (maps.complete id held _ hlo among covers isDue)
    refine mem_map.mpr ⟨row, ?_, slot⟩
    rw [windows, mem_filter]
    have own : row.msgId = id := congrArg Prod.fst slot
    exact ⟨hm, by simpa [own] using hap⟩

theorem Maps.rewrite {incumbent : Contribution}
    (hlo : loadContribution db msgId = some incumbent) (value : Contribution) :
    Maps (rewriteContribution db msgId incumbent value) due := by
  refine ((maps.unmap _ _).materialize (loadContribution_unmapped hlo value)).weaken ?_
  intro id _ _ isDue
  by_cases hs : id = msgId
  · exact .inr hs
  · exact .inl ⟨hs, isDue⟩

theorem Maps.insert (hso : Sound db) (value : Contribution) :
    Maps (insertContribution db value).1 fun id other => id ≠ db.nextId ∧ due id other := by
  have loads (other : Nat) (hap : other ≠ db.nextId) :
      loadContribution (insertContribution db value).1 other = loadContribution db other := by
    rw [loadContribution_insert db _ hso.ids_fresh, if_neg hap]
  refine ⟨?_, ?_⟩
  · intro row hm held hlo
    rw [loads row.msgId (hso.mapped_ne_next hm)] at hlo
    exact maps.backed row hm held hlo
  · rintro id held _ hlo among covers ⟨hap, isDue⟩
    rw [loads id hap] at hlo
    exact maps.complete id held _ hlo among covers isDue

theorem Maps.ingest (hso : Sound db)
    (hd : ingestContribution db candidate = some (after, outcome)) :
    Maps after due := by
  have aliased {changed : Ledger} (maps : Maps changed due) (msgId : Nat) :
      Maps (upsertAliases changed candidate msgId) due := maps.congr rfl (fun _ => rfl) rfl
  rcases ingestContribution_cases hd with
    ⟨msgId, _, -, hlo, ⟨-, -, rfl⟩ | ⟨-, -, rfl⟩⟩ | ⟨-, -, rfl⟩
  · exact aliased (maps.rewrite hlo _) _
  · exact aliased maps _
  · refine aliased (((maps.insert hso _).materialize ?_).weaken ?_) db.nextId
    · rw [loadContribution_insert db _ hso.ids_fresh, if_pos rfl]
    · intro id _ _ isDue
      by_cases hs : id = db.nextId
      · exact .inr hs
      · exact .inl ⟨hs, isDue⟩

end

end

section

variable {db other : Ledger}

theorem Maps.mem_slots (maps : Maps db fun _ _ => True) (hso : Sound db) (msgId : Nat)
    (kind : String) :
    (msgId, kind) ∈ db.slots ↔ ∃ value, loadContribution db msgId = some value ∧
      ∃ sample ∈ db.burnSamples, sample.covers value ∧ sample.windowKind = kind := by
  constructor
  · intro taken
    obtain ⟨row, hm, slot⟩ := mem_map.mp taken
    obtain ⟨value, hlo⟩ := Option.isSome_iff_exists.mp (hso.windows_name_messages row hm)
    obtain ⟨sample, among, covers, hs⟩ := maps.backed row hm _ hlo
    cases slot
    exact ⟨_, hlo, _, among, covers, congrArg MessageWindow.kind hs⟩
  · rintro ⟨value, hlo, sample, among, covers, rfl⟩
    exact maps.complete _ _ _ hlo among covers trivial

def slotEntry (db : Ledger) (slot : Nat × String) :
    Option (RollupKey × (TotalColumn → Int)) :=
  rollupEntry db ⟨slot.1, ⟨slot.2, ""⟩⟩

theorem rollupEntries_eq_slots (db : Ledger) :
    rollupEntries db = db.slots.filterMap (slotEntry db) := by
  rw [Ledger.slots, filterMap_map]
  rfl

section

variable (maps : Maps db fun _ _ => True) (also : Maps other fun _ _ => True) (hso : Sound db)
  (soundAlso : Sound other)
  (loads : ∀ msgId, loadContribution other msgId = loadContribution db msgId)
  (samples : other.burnSamples = db.burnSamples)
include maps also hso soundAlso loads samples

theorem slots_perm : db.slots.Perm other.slots := by
  rw [perm_ext_iff_of_nodup hso.slots_nodup soundAlso.slots_nodup]
  rintro ⟨_, _⟩
  rw [maps.mem_slots hso, also.mem_slots soundAlso, loads, samples]

theorem rollupEntries_perm : (rollupEntries db).Perm (rollupEntries other) := by
  rw [rollupEntries_eq_slots, rollupEntries_eq_slots]
  have hs : slotEntry other = slotEntry db := by
    funext slot
    exact rollupEntry_eq (loads slot.1)
  rw [hs]
  exact (slots_perm maps also hso soundAlso loads samples).filterMap _

end

theorem totals_agree (tallied : Tallied db) (talliedAlso : Tallied other)
    (entries : (rollupEntries db).Perm (rollupEntries other)) :
    other.seatTokens = db.seatTokens := by
  funext key
  rw [tallied.totals_exact key, talliedAlso.totals_exact key, GroupSum.groupSum, GroupSum.groupSum,
    GroupSum.under, GroupSum.under, ((entries.filter _).map _).sum_eq]

/-- The windows of one kind that cover a message have one start. -/
def OneStart (db : Ledger) : Prop :=
  ∀ msgId value, loadContribution db msgId = some value →
    ∀ first ∈ db.burnSamples, ∀ second ∈ db.burnSamples, first.covers value = true →
      second.covers value = true → first.windowKind = second.windowKind →
      first.windowStart = second.windowStart

theorem rows_agree (maps : Maps db fun _ _ => True) (also : Maps other fun _ _ => True)
    (hso : Sound db) (loads : ∀ msgId, loadContribution other msgId = loadContribution db msgId)
    (samples : other.burnSamples = db.burnSamples) (oneStart : OneStart db) {row : WindowRow}
    (hm : row ∈ db.windows) : row ∈ other.windows := by
  obtain ⟨_, hlo⟩ := Option.isSome_iff_exists.mp (hso.windows_name_messages row hm)
  obtain ⟨sample, among, covers, hs⟩ := maps.backed row hm _ hlo
  obtain ⟨twin, twinMember, slot⟩ := mem_map.mp (also.complete row.msgId _ _
    ((loads _).trans hlo) (samples ▸ among) covers trivial)
  have own : twin.msgId = row.msgId := congrArg Prod.fst slot
  obtain ⟨second, amongSecond, coversSecond, sameSecond⟩ := also.backed twin twinMember _
    (by rw [own, loads, hlo])
  have kinds : second.windowKind = sample.windowKind :=
    (congrArg MessageWindow.kind sameSecond).trans (congrArg Prod.snd slot)
  have starts := oneStart row.msgId _ hlo _ (samples ▸ amongSecond) _ among
    coversSecond covers kinds
  have _ : twin.window = row.window := by
    rw [← sameSecond, ← hs]
    simp [BurnSample.messageWindow, kinds, starts]
  have heq : twin = row := by
    cases twin
    simp_all
  exact heq ▸ twinMember

end

section

variable {db after : Ledger} {due : Nat → BurnSample → Prop}

theorem rebuild_maps (ids : List Nat) (maps : Maps db due)
    (hk : ∀ msgId ∈ ids, (loadContribution db msgId).isSome) :
    ∃ after, ids.foldlM rebuildMessage db = some after ∧
      (Maps after fun id other => due id other ∨ id ∈ ids) ∧
      (∀ msgId, loadContribution after msgId = loadContribution db msgId) ∧
      after.burnSamples = db.burnSamples := by
  induction ids generalizing db due with
  | nil =>
    refine ⟨db, rfl, maps.weaken fun _ _ _ isDue => ?_, fun _ => rfl, rfl⟩
    simpa using isDue
  | cons msgId _ ih =>
    obtain ⟨value, hlo⟩ := Option.isSome_iff_exists.mp (hk _ mem_cons_self)
    have hfm := materializeContribution_frame db msgId value
    obtain ⟨after, hd, complete, loads, samples⟩ := ih (maps.materialize hlo) fun _ hm => by
      rw [hfm.load]
      exact hk _ (mem_cons_of_mem _ hm)
    refine ⟨_, ?_, complete.weaken ?_, fun _ => (loads _).trans (hfm.load _),
      samples.trans (materializeContribution_samples db _ _).samples⟩
    · rw [foldlM_cons, rebuildMessage, hlo]
      exact hd
    · rintro id _ _ (isDue | hm)
      · exact .inl (.inl isDue)
      · rcases mem_cons.mp hm with hs | hm
        · exact .inl (.inr hs)
        · exact .inr hm

theorem rebuildRollups_complete (hso : Sound db) :
    ∃ rebuilt, rebuildRollups db = some rebuilt ∧ Maps rebuilt (fun _ _ => True) ∧
      (∀ msgId, loadContribution rebuilt msgId = loadContribution db msgId) ∧
      rebuilt.burnSamples = db.burnSamples := by
  have empty : Maps { db with seatTokens := fun _ => none, windows := [], materialized := [] }
      fun _ _ => False := ⟨by simp, fun _ _ _ _ _ _ never => never.elim⟩
  have hli : ∀ msgId value, loadContribution db msgId = some value ↔
      (msgId, value) ∈ db.messages := fun _ _ => (mem_messages_iff hso _ _).symm
  obtain ⟨rebuilt, hd, maps, loads, samples⟩ :=
    rebuild_maps (db.messages.map Prod.fst) empty (by
      intro msgId hm
      obtain ⟨⟨id, value⟩, hi, rfl⟩ := mem_map.mp hm
      exact Option.isSome_iff_exists.mpr ⟨_, (hli id _).mpr hi⟩)
  refine ⟨rebuilt, hd, ⟨maps.backed, ?_⟩, loads, samples⟩
  intro msgId value _ hlo among covers _
  refine maps.complete _ _ _ hlo among covers (.inr ?_)
  exact mem_map.mpr ⟨(_, _), (hli _ _).mp ((loads _).symm.trans hlo), rfl⟩

end

end SessionManager.Usage
