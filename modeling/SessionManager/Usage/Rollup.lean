import Mathlib.Algebra.Order.Group.Int
import Mathlib.Algebra.Order.Ring.Nat
import Mathlib.Logic.Relation
import SessionManager.Usage.Ledger

/-! The rolled-up seat totals are kept by adding and taking away single messages on four different
paths. Here they are shown to be the group sums of the ledger joined with the window mapping, in
every state that committed transactions can reach while the counts of all messages together fit into
64 bits. A message is mapped once to each kind of window, so no total is larger, not even between two
upserts of a transaction. -/
namespace SessionManager.Usage
open Foundation Foundation.GroupSum List

def WindowRow.slot (row : WindowRow) : Nat × String := (row.msgId, row.window.kind)

def Ledger.slots (db : Ledger) : List (Nat × String) := db.windows.map WindowRow.slot

/-- What every reachable database keeps: ids are handed out once, and window rows name messages that
exist and take a slot each. -/
structure Sound (db : Ledger) : Prop where
  ids_fresh : ∀ row ∈ db.messages, row.1 < db.nextId
  ids_nodup : (db.messages.map Prod.fst).Nodup
  windows_name_messages : ∀ row ∈ db.windows, (loadContribution db row.msgId).isSome
  slots_nodup : db.slots.Nodup

theorem sound_of_samples (burnSamples : List BurnSample) :
    Sound { Ledger.empty with burnSamples } where
  ids_fresh := by simp [Ledger.empty]
  ids_nodup := by simp [Ledger.empty]
  windows_name_messages := by simp [Ledger.empty]
  slots_nodup := by simp [Ledger.empty, Ledger.slots]

variable {db after : Ledger} {α : Type}

section

variable (db : Ledger) (msgId : Nat) (value : Contribution)

theorem materializeContributionForWindow_windows (window : MessageWindow) :
    (materializeContributionForWindow db msgId value window).windows =
      if (msgId, window.kind) ∈ db.slots then db.windows else db.windows ++ [⟨msgId, window⟩] := by
  have taken : (db.windows.any fun row => row.msgId = msgId && row.window.kind = window.kind) =
      decide ((msgId, window.kind) ∈ db.slots) := by
    rw [Bool.eq_iff_iff]
    simp [Ledger.slots, WindowRow.slot]
  unfold materializeContributionForWindow
  rw [taken]
  by_cases hk : (msgId, window.kind) ∈ db.slots
  · simp [hk]
  · by_cases real : value.model = synthetic <;> simp [hk, real, applyRollup]

theorem reverseContribution_windows : (reverseContribution db msgId value).windows =
    db.windows.filter fun row => !decide (row.msgId = msgId) := by
  simp [reverseContribution]

theorem overwriteContribution_ids :
    (overwriteContribution db msgId value).messages.map Prod.fst = db.messages.map Prod.fst := by
  simp only [overwriteContribution, map_map]
  refine map_congr_left fun row _ => ?_
  by_cases hh : row.1 = msgId <;> simp [hh]

end

section

variable (sound : Sound db)
include sound

theorem Sound.withWindows (hs : SameMessages db after)
    (named : ∀ row ∈ after.windows, (loadContribution db row.msgId).isSome)
    (slots : after.slots.Nodup) : Sound after := by
  refine ⟨?_, ?_, ?_, slots⟩
  · rw [hs.messages, hs.nextId]
    exact sound.ids_fresh
  · rw [hs.messages]
    exact sound.ids_nodup
  · intro row hm
    rw [hs.load]
    exact named row hm

variable {msgId : Nat} {value : Contribution}

theorem Sound.materializeForWindow (hf : loadContribution db msgId = some value)
    (window : MessageWindow) : Sound (materializeContributionForWindow db msgId value window) := by
  have windows := materializeContributionForWindow_windows db msgId value window
  have hfm := materializeContributionForWindow_frame db msgId value window
  by_cases taken : (msgId, window.kind) ∈ db.slots
  · rw [if_pos taken] at windows
    refine sound.withWindows hfm ?_ ?_
    · rw [windows]
      exact sound.windows_name_messages
    · rw [Ledger.slots, windows]
      exact sound.slots_nodup
  · rw [if_neg taken] at windows
    refine sound.withWindows hfm ?_ ?_
    · intro row hm
      rw [windows] at hm
      rcases mem_append.mp hm with old | new
      · exact sound.windows_name_messages row old
      · rw [mem_singleton.mp new, hf]
        rfl
    · rw [Ledger.slots, windows, map_append, map_singleton, ← concat_eq_append]
      exact sound.slots_nodup.concat taken

theorem Sound.materialize (hf : loadContribution db msgId = some value) :
    Sound (materializeContribution db msgId value) := by
  unfold materializeContribution
  generalize windowsFor db value = windows
  induction windows generalizing db with
  | nil => exact sound
  | cons window _ ih =>
    have hfm := materializeContributionForWindow_frame db msgId value window
    exact ih (sound.materializeForWindow hf _) (by rw [hfm.load, hf])

theorem Sound.reverse (msgId : Nat) (value : Contribution) :
    Sound (reverseContribution db msgId value) := by
  refine sound.withWindows (reverseContribution_frame db msgId value) ?_ ?_
  · intro row hm
    rw [reverseContribution_windows] at hm
    exact sound.windows_name_messages row (mem_of_mem_filter hm)
  · rw [Ledger.slots, reverseContribution_windows]
    exact sound.slots_nodup.sublist (filter_sublist.map _)

theorem Sound.overwrite (msgId : Nat) (value : Contribution) :
    Sound (overwriteContribution db msgId value) := by
  refine ⟨?_, ?_, ?_, sound.slots_nodup⟩
  · intro row hm
    have inIds : row.1 ∈ db.messages.map Prod.fst := by
      rw [← overwriteContribution_ids _ _]
      exact mem_map_of_mem hm
    obtain ⟨hst, inMessages, id⟩ := mem_map.mp inIds
    rw [← id]
    exact sound.ids_fresh hst inMessages
  · rw [overwriteContribution_ids]
    exact sound.ids_nodup
  · intro row hm
    have named := sound.windows_name_messages row hm
    rw [loadContribution_overwrite]
    split <;> simpa using named

omit sound in
theorem loadContribution_unmapped {incumbent : Contribution}
    (hf : loadContribution db msgId = some incumbent) (value : Contribution) :
    loadContribution (overwriteContribution (reverseContribution db msgId incumbent) msgId value)
      msgId = some value := by
  rw [loadContribution_overwrite, if_pos rfl, (reverseContribution_frame db _ _).load, hf]
  rfl

theorem Sound.rewrite {incumbent : Contribution}
    (hf : loadContribution db msgId = some incumbent) (value : Contribution) :
    Sound (rewriteContribution db msgId incumbent value) :=
  ((sound.reverse msgId incumbent).overwrite msgId value).materialize
    (loadContribution_unmapped hf value)

theorem Sound.mapped_ne_next {row : WindowRow} (hm : row ∈ db.windows) : row.msgId ≠ db.nextId := by
  obtain ⟨hst, hlo⟩ := Option.isSome_iff_exists.mp (sound.windows_name_messages row hm)
  obtain ⟨_, _, split, -⟩ := lookup_eq_some_iff.mp hlo
  exact (sound.ids_fresh (row.msgId, hst) (by simp [split])).ne

theorem Sound.insert (value : Contribution) : Sound (insertContribution db value).1 := by
  refine ⟨?_, ?_, ?_, sound.slots_nodup⟩
  · intro row hm
    rcases mem_append.mp hm with old | new
    · exact Nat.lt_succ_of_lt (sound.ids_fresh row old)
    · rw [mem_singleton.mp new]
      exact Nat.lt_succ_self _
  · simp only [insertContribution, map_append, map_cons, map_nil]
    refine nodup_append.mpr ⟨sound.ids_nodup, nodup_singleton _, ?_⟩
    intro _ inIds _ isNext
    obtain ⟨row, hm, rfl⟩ := mem_map.mp inIds
    rw [mem_singleton.mp isNext]
    exact (sound.ids_fresh row hm).ne
  · intro row hm
    rw [loadContribution_insert db _ sound.ids_fresh, if_neg (sound.mapped_ne_next hm)]
    exact sound.windows_name_messages row hm

theorem Sound.aliases (candidate : Contribution) (msgId : Nat) :
    Sound (upsertAliases db candidate msgId) :=
  ⟨sound.ids_fresh, sound.ids_nodup, sound.windows_name_messages, sound.slots_nodup⟩

theorem Sound.ingest {candidate : Contribution} {outcome : IngestOutcome}
    (hd : ingestContribution db candidate = some (after, outcome)) : Sound after := by
  obtain ⟨msgId, _, -, hlo, ⟨-, -, rfl⟩ | ⟨-, -, rfl⟩⟩ | ⟨-, -, rfl⟩ := ingestContribution_cases hd
  · exact (sound.rewrite hlo _).aliases _ _
  · exact sound.aliases _ _
  · refine ((sound.insert _).materialize ?_).aliases _ _
    rw [loadContribution_insert db _ sound.ids_fresh, if_pos rfl]

end

section

/-- What the transactions other than an ingestion consist of. -/
inductive LedgerChange : Ledger → Ledger → Prop
  | reattribute {db : Ledger} {msgId : Nat} {incumbent : Contribution}
      (seatId projectKey model : String) (loaded : loadContribution db msgId = some incumbent) :
      LedgerChange db
        (rewriteContribution db msgId incumbent { incumbent with seatId, projectKey, model })
  | map {db : Ledger} {msgId : Nat} {value : Contribution} (window : MessageWindow)
      (loaded : loadContribution db msgId = some value) :
      LedgerChange db (materializeContributionForWindow db msgId value window)
  | clear (db : Ledger) :
      LedgerChange db { db with seatTokens := fun _ => none, windows := [], materialized := [] }
  | sample (db : Ledger) (burnSamples : List BurnSample) (materialized : List BurnWindow) :
      LedgerChange db { db with burnSamples, materialized }

abbrev LedgerChanges := Relation.ReflTransGen LedgerChange

theorem changes_foldlM {step : Ledger → α → Option Ledger}
    (each : ∀ {db after : Ledger} {item : α}, step db item = some after → LedgerChanges db after)
    {items : List α} (hd : items.foldlM step db = some after) : LedgerChanges db after := by
  induction items generalizing db with
  | nil =>
    cases hd
    exact .refl
  | cons item _ ih =>
    obtain ⟨_, first, others⟩ := Option.bind_eq_some_iff.mp hd
    exact (each first).trans (ih others)

theorem changes_materialize {msgId : Nat} {value : Contribution}
    (hf : loadContribution db msgId = some value) :
    LedgerChanges db (materializeContribution db msgId value) := by
  unfold materializeContribution
  generalize windowsFor db value = windows
  induction windows generalizing db with
  | nil => exact .refl
  | cons window _ ih =>
    have hfm := materializeContributionForWindow_frame db msgId value window
    exact .head (.map window hf) (ih (by rw [hfm.load, hf]))

variable {defaults : ModelDefaults} {seatMeta : String → Option UsageSeatMetadata} {ids : List Nat}

theorem changes_rebind {bindings : List ArtifactBinding}
    (hd : rebindProvisionalMessages defaults seatMeta bindings db = some after) :
    LedgerChanges db after := by
  refine changes_foldlM (fun {_ _ _} hd => ?_) hd
  unfold rebindBinding at hd
  split at hd
  · cases hd
    exact .refl
  split at hd
  · cases hd
    exact .refl
  refine changes_foldlM (fun {_ _ _} hd => ?_) hd
  obtain ⟨_, hlo, hrw⟩ := Option.bind_eq_some_iff.mp hd
  cases hrw
  exact .single (.reattribute _ _ _ hlo)

theorem changes_reconcile (hd : reconcileUnknownModelsBatch defaults seatMeta ids db = some after) :
    LedgerChanges db after := by
  refine changes_foldlM (fun {_ _ _} hd => ?_) hd
  obtain ⟨incumbent, hlo, rest⟩ := Option.bind_eq_some_iff.mp hd
  split at rest
  · cases rest
    exact .refl
  split at rest
  · cases rest
    exact .refl
  · cases rest
    exact .single (.reattribute incumbent.seatId incumbent.projectKey _ hlo)

theorem changes_materializeBatch {window : BurnWindow}
    (hd : materializeWindowMessagesBatch window ids db = some after) : LedgerChanges db after := by
  refine changes_foldlM (fun {_ _ _} hd => ?_) hd
  obtain ⟨_, hlo, rest⟩ := Option.bind_eq_some_iff.mp hd
  cases rest
  exact .single (.map _ hlo)

theorem changes_rebuild (hd : rebuildRollups db = some after) : LedgerChanges db after := by
  refine .head (.clear db) (changes_foldlM (fun {_ _ _} hd => ?_) hd)
  obtain ⟨_, hlo, rest⟩ := Option.bind_eq_some_iff.mp hd
  cases rest
  exact changes_materialize hlo

/-- One committed transaction, a new burn sample, or a crash between two commits. -/
inductive LedgerStep (defaults : ModelDefaults) : Ledger → Ledger → Prop
  | ingest (db : Ledger) (candidate : Contribution) :
      LedgerStep defaults db
        (commit (fun db => (ingestContribution db candidate).map Prod.fst) db)
  | rebind (db : Ledger) (seatMeta : String → Option UsageSeatMetadata)
      (bindings : List ArtifactBinding) :
      LedgerStep defaults db (commit (rebindProvisionalMessages defaults seatMeta bindings) db)
  | reconcile (db : Ledger) (seatMeta : String → Option UsageSeatMetadata) (ids : List Nat) :
      LedgerStep defaults db (commit (reconcileUnknownModelsBatch defaults seatMeta ids) db)
  | materialize (db : Ledger) (window : BurnWindow) (ids : List Nat) :
      LedgerStep defaults db (commit (materializeWindowMessagesBatch window ids) db)
  | markMaterialized (db : Ledger) (window : BurnWindow) :
      LedgerStep defaults db (commit (markBurnWindowMaterialized window) db)
  | rebuild (db : Ledger) : LedgerStep defaults db (commit rebuildRollups db)
  | burnSample (db : Ledger) (sample : BurnSample) :
      LedgerStep defaults db { db with burnSamples := db.burnSamples ++ [sample] }
  | crash (db : Ledger) : LedgerStep defaults db db

theorem changes_commit {tx : Transaction}
    (each : ∀ {after : Ledger}, tx db = some after → LedgerChanges db after) :
    LedgerChanges db (commit tx db) := by
  unfold commit
  cases hd : tx db with
  | none => exact .refl
  | some => exact each hd

/-- A step is an ingestion or a sequence of the other changes. -/
theorem LedgerStep.changes (step : LedgerStep defaults db after) : LedgerChanges db after ∨
    ∃ candidate outcome, ingestContribution db candidate = some (after, outcome) := by
  cases step with
  | ingest candidate =>
    cases hd : ingestContribution db candidate with
    | none =>
      simp only [commit, hd]
      exact .inl .refl
    | some ingested =>
      simp only [commit, hd]
      exact .inr ⟨candidate, ingested.2, hd⟩
  | rebind => exact .inl (changes_commit changes_rebind)
  | reconcile => exact .inl (changes_commit changes_reconcile)
  | materialize => exact .inl (changes_commit changes_materializeBatch)
  | markMaterialized =>
    refine .inl (changes_commit fun hd => ?_)
    cases hd
    split
    · exact .refl
    · exact .single (.sample db db.burnSamples _)
  | rebuild => exact .inl (changes_commit changes_rebuild)
  | burnSample => exact .inl (.single (.sample db _ db.materialized))
  | crash => exact .inl .refl

theorem Sound.change (sound : Sound db) (change : LedgerChange db after) : Sound after := by
  cases change with
  | reattribute _ _ _ hlo => exact sound.rewrite hlo _
  | map window hlo => exact sound.materializeForWindow hlo window
  | clear => exact ⟨sound.ids_fresh, sound.ids_nodup, by simp, nodup_nil⟩
  | sample =>
    exact ⟨sound.ids_fresh, sound.ids_nodup, sound.windows_name_messages, sound.slots_nodup⟩

theorem Sound.changes (sound : Sound db) (changes : LedgerChanges db after) : Sound after := by
  induction changes with
  | refl => exact sound
  | tail _ change ih => exact ih.change change

theorem Sound.step (sound : Sound db) (step : LedgerStep defaults db after) : Sound after := by
  rcases step.changes with changes | ⟨_, _, hd⟩
  · exact sound.changes changes
  · exact sound.ingest hd

theorem sound_of_reachable
    (hr : Relation.ReflTransGen (LedgerStep defaults) Ledger.empty db) : Sound db := by
  induction hr with
  | refl => exact sound_of_samples []
  | tail _ step ih => exact ih.step step

end

section

/-- What a window row contributes to the totals: its message, unless that is synthetic. -/
def rollupEntry (db : Ledger) (row : WindowRow) : Option (RollupKey × (TotalColumn → Int)) :=
  (loadContribution db row.msgId).bind fun value =>
    if value.model = synthetic then none
    else some (rollupKey value row.window, rollupAmount value 1)

/-- The ledger joined with the window mapping, over the messages that count. -/
def rollupEntries (db : Ledger) : List (RollupKey × (TotalColumn → Int)) :=
  db.windows.filterMap (rollupEntry db)

/-- The counts of all messages together fit into a column. -/
def Ledger.Small (db : Ledger) : Prop :=
  ∀ column, (db.messages.map fun row => (row.2.amount column).natAbs).sum < 2 ^ 63

instance (db : Ledger) : Decidable db.Small :=
  decidable_of_iff (∀ column ∈ TotalColumn.all,
    (db.messages.map fun row => (row.2.amount column).natAbs).sum < 2 ^ 63) (by simp [Ledger.Small])

theorem Ledger.Small.congr (small : db.Small) (hs : after.messages = db.messages) :
    after.Small := by
  unfold Ledger.Small
  rwa [hs]

theorem rollupEntry_eq {row : WindowRow}
    (hs : loadContribution after row.msgId = loadContribution db row.msgId) :
    rollupEntry after row = rollupEntry db row := by
  rw [rollupEntry, hs, rollupEntry]

theorem filterMap_rollupEntry_congr {rows : List WindowRow}
    (hs : ∀ row ∈ rows, loadContribution after row.msgId = loadContribution db row.msgId) :
    rows.filterMap (rollupEntry after) = rows.filterMap (rollupEntry db) :=
  filterMap_congr fun row hm => rollupEntry_eq (hs row hm)

/-- The first row is found under its own id only, and that is asked for at most once. -/
theorem sum_lookup_cons_le (weight : α → Nat) (own : Nat) (value : α) (rest : List (Nat × α))
    {ids : List Nat} (nodup : ids.Nodup) :
    (ids.map fun id => ((((own, value) :: rest).lookup id).map weight).getD 0).sum ≤
      weight value + ((ids.filter (· ≠ own)).map fun id =>
        ((rest.lookup id).map weight).getD 0).sum := by
  induction ids with
  | nil => simp
  | cons id ids ih =>
    obtain ⟨absent, nodup⟩ := nodup_cons.mp nodup
    by_cases hs : id = own
    · subst hs
      have apart : ids.filter (fun other => !decide (other = id)) = ids := by
        refine filter_eq_self.mpr fun other hm => ?_
        simpa using fun hs : other = id => absent (hs ▸ hm)
      have same : (ids.map fun other => ((((id, value) :: rest).lookup other).map
          weight).getD 0) = ids.map fun other => ((rest.lookup other).map weight).getD 0 := by
        refine map_congr_left fun other hm => ?_
        have skip : (other == id) = false := beq_false_of_ne fun hs => absent (hs ▸ hm)
        rw [lookup_cons, skip]
      simp [apart, same]
    · have skip : (id == own) = false := beq_false_of_ne hs
      have later := ih nodup
      simp only [map_cons, sum_cons, lookup_cons, skip, filter_cons, ne_eq, hs,
        not_false_eq_true, decide_true, if_true] at later ⊢
      omega

/-- Rows looked up under different ids weigh no more than all rows. -/
theorem sum_lookup_le (weight : α → Nat) (rows : List (Nat × α)) {ids : List Nat}
    (nodup : ids.Nodup) :
    (ids.map fun id => ((rows.lookup id).map weight).getD 0).sum ≤
      (rows.map fun row => weight row.2).sum := by
  induction rows generalizing ids with
  | nil => simp
  | cons row rest ih =>
    obtain ⟨own, value⟩ := row
    have others := sum_lookup_cons_le weight own value rest nodup
    have bound := ih (nodup.filter (· ≠ own))
    simp only [map_cons, sum_cons]
    omega

theorem natAbs_groupSum_le (db : Ledger) (rows : List WindowRow) (key : RollupKey)
    (column : TotalColumn) :
    (groupSum (rows.filterMap (rollupEntry db)) key column).natAbs ≤
      ((rows.filter fun row => row.window.kind = key.windowKind).map fun row =>
        ((loadContribution db row.msgId).map fun value =>
          (value.amount column).natAbs).getD 0).sum := by
  induction rows with
  | nil => simp
  | cons row rest ih =>
    have more : ((rest.filter fun row => row.window.kind = key.windowKind).map fun row =>
        ((loadContribution db row.msgId).map fun value =>
          (value.amount column).natAbs).getD 0).sum ≤
        (((row :: rest).filter fun row => row.window.kind = key.windowKind).map fun row =>
          ((loadContribution db row.msgId).map fun value =>
            (value.amount column).natAbs).getD 0).sum := by
      rw [filter_cons]
      split <;> simp
    cases hf : rollupEntry db row with
    | none =>
      rw [filterMap_cons_none hf]
      exact ih.trans more
    | some entry =>
      rw [filterMap_cons_some hf, groupSum_cons]
      obtain ⟨value, hlo, hf⟩ := Option.bind_eq_some_iff.mp hf
      split at hf
      · cases hf
      cases hf
      by_cases hs : rollupKey value row.window = key
      · subst hs
        have own : row.window.kind = (rollupKey value row.window).windowKind := rfl
        rw [if_pos rfl, filter_cons, if_pos (decide_eq_true own), map_cons, sum_cons, hlo]
        refine (Int.natAbs_add_le _ _).trans (Nat.add_le_add ?_ ih)
        simp [rollupAmount]
      · rw [if_neg hs, zero_add]
        exact ih.trans more

/-- Rows are told apart by whatever tells their slots apart. -/
theorem Sound.nodup_map_filter (sound : Sound db) {β : Type} {chosen : WindowRow → Bool}
    {label : WindowRow → β} (apart : ∀ first second, chosen first → chosen second →
      label first = label second → first.msgId = second.msgId ∧
        first.window.kind = second.window.kind) :
    ((db.windows.filter chosen).map label).Nodup := by
  refine Nodup.map_on ?_ (sound.slots_nodup.of_map.filter _)
  intro first inFirst second inSecond hs
  obtain ⟨ids, kinds⟩ := apart _ _ (mem_filter.mp inFirst).2 (mem_filter.mp inSecond).2 hs
  exact inj_on_of_nodup_map sound.slots_nodup (mem_of_mem_filter inFirst)
    (mem_of_mem_filter inSecond) (Prod.ext ids kinds)

/-- A message is mapped once to windows of the kind of a key, so a total is no more than the counts
of all messages. -/
theorem fits_of_small (sound : Sound db) (small : db.Small) (key : RollupKey) :
    rollupStorage.Fits (groupSum (rollupEntries db) key) := by
  intro column
  have ids : ((db.windows.filter fun row => row.window.kind = key.windowKind).map
      WindowRow.msgId).Nodup := by
    refine sound.nodup_map_filter fun first second one two ids => ⟨ids, ?_⟩
    exact (of_decide_eq_true one).trans (of_decide_eq_true two).symm
  have bound := sum_lookup_le (fun value => (value.amount column).natAbs) db.messages ids
  rw [map_map] at bound
  have total := ((natAbs_groupSum_le db db.windows key column).trans bound).trans_lt (small column)
  rw [← rollupEntries] at total
  constructor <;> omega

/-- The totals are exact. -/
structure Tallied (db : Ledger) : Prop where
  sound : Sound db
  totals_exact : Exact rollupStorage db.seatTokens (rollupEntries db)

theorem tallied_of_samples (burnSamples : List BurnSample) :
    Tallied { Ledger.empty with burnSamples } :=
  ⟨sound_of_samples burnSamples, exact_empty⟩

end

section

variable (tallied : Tallied db)
include tallied

/-- Mapping one more message keeps the totals exact when its amount is added to them. -/
theorem Tallied.map_row {row : WindowRow} (soundAfter : Sound after) (small : after.Small)
    (hs : SameMessages db after) (windows : after.windows = db.windows ++ [row])
    (totals : after.seatTokens = (rollupEntry db row).elim db.seatTokens
      fun entry => add rollupStorage db.seatTokens entry.1 entry.2) : Tallied after := by
  refine ⟨soundAfter, ?_⟩
  have fits := fits_of_small soundAfter small
  have entries : rollupEntries after = rollupEntries db ++ (rollupEntry db row).toList := by
    rw [rollupEntries, filterMap_rollupEntry_congr fun row _ => hs.load row.msgId, windows,
      filterMap_append]
    cases hf : rollupEntry db row <;> simp [rollupEntries, hf]
  rw [entries] at fits
  rw [totals, entries]
  cases hf : rollupEntry db row with
  | none => simpa using tallied.totals_exact
  | some entry =>
    have moved (key : RollupKey) : groupSum (entry :: rollupEntries db) key =
        groupSum (rollupEntries db ++ [entry]) key := by
      simp [groupSum_cons, groupSum_append, add_comm]
    rw [hf] at fits
    exact (tallied.totals_exact.add entry (moved entry.1 ▸ fits entry.1)).congr moved

variable {msgId : Nat} {value : Contribution}

theorem Tallied.materializeForWindow (small : db.Small)
    (hf : loadContribution db msgId = some value) (window : MessageWindow) :
    Tallied (materializeContributionForWindow db msgId value window) := by
  have hfm := materializeContributionForWindow_frame db msgId value window
  have soundAfter := tallied.sound.materializeForWindow hf window
  have smallAfter := small.congr hfm.messages
  unfold materializeContributionForWindow at hfm soundAfter smallAfter ⊢
  split at hfm
  · simp only [*, if_true]
  rename_i unmapped
  simp only [if_neg unmapped] at soundAfter smallAfter ⊢
  by_cases real : value.model = synthetic
  · simp only [real, ne_eq, not_true_eq_false, if_false] at hfm soundAfter smallAfter ⊢
    exact tallied.map_row soundAfter smallAfter hfm rfl (by simp [rollupEntry, hf, real])
  · simp only [ne_eq, real, not_false_eq_true, if_true] at hfm soundAfter smallAfter ⊢
    exact tallied.map_row soundAfter smallAfter hfm rfl (by simp [rollupEntry, hf, real, applyRollup])

theorem Tallied.materialize (small : db.Small) (hf : loadContribution db msgId = some value) :
    Tallied (materializeContribution db msgId value) := by
  unfold materializeContribution
  generalize windowsFor db value = windows
  induction windows generalizing db with
  | nil => exact tallied
  | cons window _ ih =>
    have hfm := materializeContributionForWindow_frame db msgId value window
    exact ih (tallied.materializeForWindow small hf _) (small.congr hfm.messages)
      (by rw [hfm.load, hf])

/-- Taking a message out of the totals keeps them exact. -/
theorem Tallied.reverse (small : db.Small) (hf : loadContribution db msgId = some value) :
    Tallied (reverseContribution db msgId value) := by
  have hfm := reverseContribution_frame db msgId value
  have soundAfter := tallied.sound.reverse msgId value
  refine ⟨soundAfter, ?_⟩
  have before := fits_of_small tallied.sound small
  have after := fits_of_small soundAfter (small.congr hfm.messages)
  have entries : rollupEntries (reverseContribution db msgId value) =
      (db.windows.filter fun row => !decide (row.msgId = msgId)).filterMap (rollupEntry db) := by
    rw [rollupEntries, filterMap_rollupEntry_congr fun row _ => hfm.load row.msgId,
      reverseContribution_windows]
  have each : ∀ row ∈ db.windows.filter (fun row => decide (row.msgId = msgId)),
      rollupEntry db row = if value.model = synthetic then none
        else some (rollupKey value row.window, rollupAmount value 1) := by
    intro row hm
    have this : row.msgId = msgId := by simpa using (mem_filter.mp hm).2
    simp [rollupEntry, this, hf]
  have split := fun key => groupSum_filterMap_filter (rollupEntry db)
    (fun row => decide (row.msgId = msgId)) db.windows key
  simp only [filterMap_congr each] at split
  rw [entries] at after ⊢
  simp only [reverseContribution, foldl_applyRollup]
  by_cases real : value.model = synthetic
  · simp only [real, ne_eq, not_true_eq_false, if_false]
    refine tallied.totals_exact.congr fun key => ?_
    rw [rollupEntries, split]
    simp [real]
  · simp only [ne_eq, real, not_false_eq_true, if_true]
    have negated : ((db.windows.filter fun row => decide (row.msgId = msgId)).map fun row =>
        (rollupKey value row.window, rollupAmount value (-1))) =
        ((db.windows.filter fun row => decide (row.msgId = msgId)).map fun row =>
          (rollupKey value row.window, rollupAmount value 1)).map
            fun entry => (entry.1, -entry.2) := by
      simp only [map_map]
      refine map_congr_left fun row _ => Prod.ext rfl (funext fun column => ?_)
      simp [rollupAmount]
    have sums (key : RollupKey) : groupSum (rollupEntries db ++
        (db.windows.filter fun row => decide (row.msgId = msgId)).map fun row =>
          (rollupKey value row.window, rollupAmount value (-1))) key =
        groupSum ((db.windows.filter fun row => !decide (row.msgId = msgId)).filterMap
          (rollupEntry db)) key := by
      rw [groupSum_append, rollupEntries, split, negated, groupSum_neg]
      simp only [real, if_false, filterMap_eq_map']
      abel
    refine (tallied.totals_exact.foldl_add _ ?_ before fun key => sums key ▸ after key).congr sums
    -- the rows of one message have different kinds
    rw [map_map]
    refine tallied.sound.nodup_map_filter fun first second one two keys => ⟨?_, ?_⟩
    · exact (of_decide_eq_true one).trans (of_decide_eq_true two).symm
    · exact congrArg RollupKey.windowKind keys

theorem Tallied.overwrite (value : Contribution) (unmapped : ∀ row ∈ db.windows, row.msgId ≠ msgId) :
    Tallied (overwriteContribution db msgId value) := by
  refine ⟨tallied.sound.overwrite msgId value, ?_⟩
  have entries : rollupEntries (overwriteContribution db msgId value) = rollupEntries db := by
    refine filterMap_rollupEntry_congr fun row hm => ?_
    rw [loadContribution_overwrite, if_neg (unmapped row hm)]
  rw [entries]
  exact tallied.totals_exact

theorem Tallied.rewrite {incumbent : Contribution} (small : db.Small)
    (hf : loadContribution db msgId = some incumbent) (value : Contribution)
    (smallAfter : (rewriteContribution db msgId incumbent value).Small) :
    Tallied (rewriteContribution db msgId incumbent value) := by
  have unmapped : ∀ row ∈ (reverseContribution db msgId incumbent).windows, row.msgId ≠ msgId := by
    intro row hm
    rw [reverseContribution_windows] at hm
    simpa using (mem_filter.mp hm).2
  refine ((tallied.reverse small hf).overwrite value unmapped).materialize ?_
    (loadContribution_unmapped hf value)
  exact smallAfter.congr (materializeContribution_frame _ msgId value).messages.symm

theorem Tallied.insert (value : Contribution) : Tallied (insertContribution db value).1 := by
  refine ⟨tallied.sound.insert value, ?_⟩
  have entries : rollupEntries (insertContribution db value).1 = rollupEntries db := by
    refine filterMap_rollupEntry_congr fun row hm => ?_
    rw [loadContribution_insert db _ tallied.sound.ids_fresh,
      if_neg (tallied.sound.mapped_ne_next hm)]
  rw [entries]
  exact tallied.totals_exact

theorem Tallied.aliases (candidate : Contribution) (msgId : Nat) :
    Tallied (upsertAliases db candidate msgId) :=
  ⟨tallied.sound.aliases candidate msgId, tallied.totals_exact⟩

theorem Tallied.ingest {candidate : Contribution} {outcome : IngestOutcome} (small : db.Small)
    (smallAfter : after.Small) (hd : ingestContribution db candidate = some (after, outcome)) :
    Tallied after := by
  obtain ⟨msgId, _, -, hlo, ⟨-, -, rfl⟩ | ⟨-, -, rfl⟩⟩ | ⟨-, -, rfl⟩ := ingestContribution_cases hd
  · exact (tallied.rewrite small hlo _ smallAfter).aliases _ _
  · exact tallied.aliases _ _
  · refine ((tallied.insert _).materialize ?_ ?_).aliases _ _
    · exact smallAfter.congr (materializeContribution_frame _ db.nextId candidate).messages.symm
    · rw [loadContribution_insert db _ tallied.sound.ids_fresh, if_pos rfl]

end

section

variable (group : List Contribution)

theorem filter_id_eq_lookup {rows : List (Nat × α)} (nodup : (rows.map Prod.fst).Nodup)
    (msgId : Nat) :
    rows.filter (fun hst => hst.1 = msgId) =
      ((rows.lookup msgId).map fun value => (msgId, value)).toList := by
  induction rows with
  | nil => rfl
  | cons hst rest ih =>
    obtain ⟨id, value⟩ := hst
    simp only [map_cons, nodup_cons] at nodup
    by_cases hh : id = msgId
    · subst hh
      have hab : rest.filter (fun hst => hst.1 = id) = [] := by
        refine filter_eq_nil_iff.mpr fun _ hm => ?_
        intro hs
        exact nodup.1 (mem_map.mpr ⟨_, hm, by simpa using hs⟩)
      simp [hab]
    · have skip : (msgId == id) = false := beq_false_of_ne (Ne.symm hh)
      simp only [filter_cons, hh, decide_false, Bool.false_eq_true, if_false, ih nodup.2,
        lookup_cons, skip]

theorem mem_messages_iff (sound : Sound db) (msgId : Nat) (value : Contribution) :
    (msgId, value) ∈ db.messages ↔ loadContribution db msgId = some value := by
  have own := filter_id_eq_lookup sound.ids_nodup msgId
  have hm : (msgId, value) ∈ db.messages ↔
      (msgId, value) ∈ db.messages.filter fun hst => hst.1 = msgId := by simp
  rw [hm, own, ← loadContribution]
  simp

/-- Seats, projects and models are rewritten without a change of the counts. -/
theorem Ledger.Small.change (small : db.Small) (sound : Sound db)
    (change : LedgerChange db after) : after.Small := by
  cases change with
  | @reattribute msgId incumbent _ _ _ hlo =>
    intro column
    rw [rewriteContribution_messages, map_map]
    refine lt_of_eq_of_lt (congrArg sum (map_congr_left fun row hm => ?_)) (small column)
    by_cases hs : row.1 = msgId
    · have own : row.2 = incumbent := by
        have held := (mem_messages_iff sound row.1 row.2).mp hm
        rw [hs, hlo] at held
        exact (Option.some.inj held).symm
      simp only [Function.comp_apply, if_pos hs, own]
      cases column <;> rfl
    · simp [hs]
  | map window => exact small.congr (materializeContributionForWindow_frame db _ _ window).messages
  | clear => exact small.congr rfl
  | sample => exact small.congr rfl

theorem Tallied.change (tallied : Tallied db) (small : db.Small) (change : LedgerChange db after) :
    Tallied after := by
  have smallAfter := small.change tallied.sound change
  cases change with
  | reattribute _ _ _ hlo => exact tallied.rewrite small hlo _ smallAfter
  | map window hlo => exact tallied.materializeForWindow small hlo window
  | clear => exact ⟨⟨tallied.sound.ids_fresh, tallied.sound.ids_nodup, by simp, nodup_nil⟩, exact_empty⟩
  | sample => exact ⟨tallied.sound.change (.sample db _ _), tallied.totals_exact⟩

theorem Tallied.changes (tallied : Tallied db) (small : db.Small)
    (changes : LedgerChanges db after) : Tallied after ∧ after.Small := by
  induction changes with
  | refl => exact ⟨tallied, small⟩
  | tail _ change ih => exact ⟨ih.1.change ih.2 change, ih.2.change ih.1.sound change⟩

/-- A step to a ledger whose counts fit. -/
def SmallStep (defaults : ModelDefaults) (db after : Ledger) : Prop :=
  LedgerStep defaults db after ∧ after.Small

theorem tallied_of_small {defaults : ModelDefaults}
    (hr : Relation.ReflTransGen (SmallStep defaults) Ledger.empty db) : Tallied db ∧ db.Small := by
  induction hr with
  | refl => exact ⟨tallied_of_samples [], by decide⟩
  | tail _ step ih =>
    refine ⟨?_, step.2⟩
    rcases step.1.changes with changes | ⟨_, _, hd⟩
    · exact (ih.1.changes ih.2 changes).1
    · exact ih.1.ingest ih.2 step.2 hd

/-- `message_ledger` joined with `message_window` on the message id, without synthetic messages. -/
def joinedMessages (db : Ledger) : List (Contribution × MessageWindow) :=
  db.windows.flatMap fun row =>
    (db.messages.filter fun stored => stored.2.model ≠ synthetic && stored.1 = row.msgId).map
      fun stored => (stored.2, row.window)

def rollupGroup (db : Ledger) (key : RollupKey) : List Contribution :=
  ((joinedMessages db).filter fun joined => rollupKey joined.1 joined.2 = key).map Prod.fst

def groupTotals (group : List Contribution) : TotalColumn → Int
  | .inputTokens => (group.map fun value => value.tokens.input).sum
  | .outputTokens => (group.map fun value => value.tokens.output).sum
  | .reasoningTokens => (group.map fun value => value.tokens.reasoning).sum
  | .cacheWrite5m => (group.map fun value => value.tokens.cacheWrite5m).sum
  | .cacheWrite1h => (group.map fun value => value.tokens.cacheWrite1h).sum
  | .cacheReadTokens => (group.map fun value => value.tokens.cacheRead).sum
  | .messageCount => group.length

theorem sum_rollupAmount :
    (group.map fun value => rollupAmount value 1).sum = groupTotals group := by
  induction group with
  | nil =>
    funext column
    cases column <;> rfl
  | cons _ _ ih =>
    rw [map_cons, sum_cons, ih]
    funext column
    cases column <;> simp [groupTotals, rollupAmount, Contribution.amount, Int.add_comm]

theorem row_groupTotals : rollupStorage.row (groupTotals group) =
    if 0 < group.length then some fun column => .integer (groupTotals group column) else none := by
  cases group with
  | nil => rfl
  | cons value rest =>
    have counted : ¬rollupStorage.isZero (rollupStorage.store (groupTotals (value :: rest))) := by
      rw [rollupStorage.isZero_store]
      intro zero
      have count : (groupTotals (value :: rest)) .messageCount = 0 := congrFun zero _
      simp only [groupTotals, length_cons] at count
      omega
    rw [Storage.row, if_neg counted, if_pos (by simp)]
    rfl

theorem rollupEntries_eq_joined (sound : Sound db) :
    rollupEntries db = (joinedMessages db).map fun joined =>
      (rollupKey joined.1 joined.2, rollupAmount joined.1 1) := by
  rw [rollupEntries, joinedMessages, map_flatMap, filterMap_eq_flatMap_toList]
  refine flatMap_congr fun mapped _ => ?_
  have rows := filter_id_eq_lookup sound.ids_nodup mapped.msgId
  rw [← filter_filter, rows, rollupEntry, loadContribution]
  cases db.messages.lookup mapped.msgId with
  | none => rfl
  | some value => by_cases real : value.model = synthetic <;> simp [real]

theorem rollupGroup_sum (sound : Sound db) (key : RollupKey) :
    groupSum (rollupEntries db) key = groupTotals (rollupGroup db key) := by
  rw [← sum_rollupAmount, rollupEntries_eq_joined sound, groupSum, under, rollupGroup]
  simp [filter_map, Function.comp_def]

/-- As long as the counts of all messages together fit, each seat total is the group-by of the joined
messages of its key, and a total exists exactly when that group has a message. -/
theorem seat_totals_are_group_by (defaults : ModelDefaults) (db : Ledger)
    (reached : Relation.ReflTransGen (SmallStep defaults) Ledger.empty db) (key : RollupKey) :
    db.seatTokens key =
      if 0 < (rollupGroup db key).length then
        some fun column => .integer (groupTotals (rollupGroup db key) column)
      else none := by
  have tallied := (tallied_of_small reached).1
  rw [tallied.totals_exact key, rollupGroup_sum tallied.sound, row_groupTotals]

def quietDefaults : ModelDefaults := ⟨none, none, none⟩

def weeklySample : BurnSample := ⟨"claude:a", "weekly_all", none, "2026-01-01", "2026-01-08"⟩

def sampleMessage : Contribution :=
  { messageId := "m", requestId := some "r", isSidechain := false, hasSpeed := false
    totalTokens := 7, seatId := "seat", accountKey := "claude:a", projectKey := "p"
    sourceRef := "s", sourceSeq := none, bucketTs := "2026-01-02", recordedAt := "2026-01-02"
    model := "opus", effort := none, tokens := ⟨3, 4, 0, 0, 0, 0⟩, creditMetered := false }

def sampleLedger : Ledger :=
  commit (fun db => (ingestContribution db sampleMessage).map Prod.fst)
    { Ledger.empty with burnSamples := [weeklySample] }

def secondMessage : Contribution :=
  { sampleMessage with messageId := "n", totalTokens := 6, tokens := ⟨5, 1, 1, 0, 0, 0⟩ }

def largerCopy : Contribution :=
  { sampleMessage with totalTokens := 9, tokens := ⟨5, 4, 0, 0, 0, 0⟩ }

def ingested (db : Ledger) (candidate : Contribution) : Ledger :=
  commit (fun db => (ingestContribution db candidate).map Prod.fst) db

/-- Two messages in one group, the first replaced by a larger copy. -/
theorem seat_totals_of_two_messages :
    (rollupGroup (ingested (ingested sampleLedger secondMessage) largerCopy)
      (rollupKey sampleMessage ⟨"weekly_all", "2026-01-01"⟩)).length = 2 ∧
    ((ingested (ingested sampleLedger secondMessage) largerCopy).seatTokens
      (rollupKey sampleMessage ⟨"weekly_all", "2026-01-01"⟩)).map TotalColumn.all.map =
        some [.integer 10, .integer 5, .integer 1, .integer 0, .integer 0, .integer 0,
          .integer 2] := by
  have sampled : SmallStep quietDefaults Ledger.empty
      { Ledger.empty with burnSamples := [weeklySample] } :=
    ⟨.burnSample Ledger.empty weeklySample, by decide⟩
  have first : SmallStep quietDefaults { Ledger.empty with burnSamples := [weeklySample] }
      sampleLedger := ⟨.ingest _ sampleMessage, by decide +kernel⟩
  have second : SmallStep quietDefaults sampleLedger (ingested sampleLedger secondMessage) :=
    ⟨.ingest _ secondMessage, by decide +kernel⟩
  have third : SmallStep quietDefaults (ingested sampleLedger secondMessage)
      (ingested (ingested sampleLedger secondMessage) largerCopy) :=
    ⟨.ingest _ largerCopy, by decide +kernel⟩
  refine ⟨by decide +kernel, ?_⟩
  rw [seat_totals_are_group_by quietDefaults _
    ((((Relation.ReflTransGen.single sampled).tail first).tail second).tail third)]
  decide +kernel

def hugeTokens : TokenBuckets := ⟨2 ^ 63 - 1, 0, 0, 0, 0, 0⟩

def hugeMessage (messageId : String) : Contribution :=
  { sampleMessage with messageId, totalTokens := 2 ^ 63 - 1, tokens := hugeTokens }

def hugeLedger : Ledger :=
  ingested (ingested { Ledger.empty with burnSamples := [weeklySample] } (hugeMessage "m"))
    (hugeMessage "n")

/-- Two messages of 2^63 - 1 input tokens: their total becomes a floating-point number. -/
theorem huge_total_rounded :
    Relation.ReflTransGen (LedgerStep quietDefaults) Ledger.empty hugeLedger ∧
      groupTotals (rollupGroup hugeLedger
        (rollupKey sampleMessage ⟨"weekly_all", "2026-01-01"⟩)) .inputTokens = 2 ^ 64 - 2 ∧
      (hugeLedger.seatTokens (rollupKey sampleMessage ⟨"weekly_all", "2026-01-01"⟩)).map
        (· .inputTokens) = some (.real (2 ^ 64)) := by
  refine ⟨?_, by decide +kernel, by decide +kernel⟩
  exact ((Relation.ReflTransGen.single (.burnSample Ledger.empty weeklySample)).tail
    (.ingest _ (hugeMessage "m"))).tail (.ingest _ (hugeMessage "n"))

end

end SessionManager.Usage
