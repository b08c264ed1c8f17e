import Mathlib.Data.Prod.Lex
import SessionManager.Usage.Rollup

/-! Reading a transcript again. Copies of a message are ranked: those outside of a sidechain come
first, then those with more tokens, then those that name their speed. An exact alias is never
pointed at another row, and the copy a row holds only ever gains rank, so a copy that was ingested
once is ignored from then on, whatever else has been ingested, rebound or materialized. -/
namespace SessionManager.Usage
open Foundation Option Function

section

def rank (copy : Contribution) : Bool ×ₗ Int ×ₗ Bool :=
  toLex (!copy.isSidechain, toLex (copy.totalTokens, copy.hasSpeed))

theorem shouldReplace_eq_rank (candidate incumbent : Contribution) :
    shouldReplace candidate incumbent = decide (rank incumbent < rank candidate) := by
  unfold shouldReplace rank
  rcases Bool.eq_or_eq_not candidate.isSidechain incumbent.isSidechain with kind | kind
  · rcases lt_trichotomy candidate.totalTokens incumbent.totalTokens with less | hs | more
    · simp [kind, Prod.Lex.toLex_lt_toLex, less.ne, less.not_gt, less.ne']
    · cases candidate.hasSpeed <;> cases incumbent.hasSpeed <;>
        simp [kind, hs, Prod.Lex.toLex_lt_toLex]
    · simp [kind, more, Prod.Lex.toLex_lt_toLex, more.ne, more.ne']
  · cases side : incumbent.isSidechain <;>
      simp [kind, side, Prod.Lex.toLex_lt_toLex]

end

section

/-- Exact aliases stay, and rows stay with copies of the same rank or a higher one. -/
structure Keeps (db after : Ledger) : Prop where
  aliases : ∀ messageId requestId msgId, db.aliases (.exact messageId requestId) = some msgId →
    after.aliases (.exact messageId requestId) = some msgId
  rows : ∀ msgId value, loadContribution db msgId = some value →
    ∃ later, loadContribution after msgId = some later ∧ rank value ≤ rank later

variable {db middle after : Ledger} {msgId : Nat}

theorem Keeps.refl (db : Ledger) : Keeps db db :=
  ⟨fun _ _ _ hk => hk, fun _ value hlo => ⟨value, hlo, le_rfl⟩⟩

theorem Keeps.trans (first : Keeps db middle) (second : Keeps middle after) : Keeps db after where
  aliases messageId requestId msgId hk :=
    second.aliases messageId requestId msgId (first.aliases messageId requestId msgId hk)
  rows := by
    intro msgId _ hlo
    obtain ⟨held, ht, higher⟩ := first.rows _ _ hlo
    obtain ⟨_, hf, highest⟩ := second.rows _ held ht
    exact ⟨_, hf, higher.trans highest⟩

theorem SameMessages.keeps (hs : SameMessages db after) : Keeps db after where
  aliases _ _ _ hk := hs.aliases ▸ hk
  rows msgId value hlo := ⟨value, (hs.load msgId).trans hlo, le_rfl⟩

theorem keeps_rewrite {incumbent value : Contribution}
    (hlo : loadContribution db msgId = some incumbent) (higher : rank incumbent ≤ rank value) :
    Keeps db (rewriteContribution db msgId incumbent value) where
  aliases _ _ _ hk := (rewriteContribution_frame db msgId incumbent value).2 ▸ hk
  rows := by
    intro other held ht
    rw [rewriteContribution_load]
    by_cases hs : other = msgId
    · subst hs
      obtain rfl := Option.some.inj (hlo.symm.trans ht)
      exact ⟨_, by simp [ht], higher⟩
    · exact ⟨held, by rw [if_neg hs, ht], le_rfl⟩

variable {candidate : Contribution} {defaults : ModelDefaults}

theorem keeps_upsertAliases
    (hag : ∀ known, db.aliases (exactKey candidate) = some known → known = msgId) :
    Keeps db (upsertAliases db candidate msgId) where
  aliases := by
    intro messageId requestId known ht
    show Function.update (Function.update db.aliases (exactKey candidate) (some msgId))
      (looseKey candidate) (some msgId) (.exact messageId requestId) = some known
    rw [update_of_ne (by simp [looseKey])]
    by_cases hs : AliasKey.exact messageId requestId = exactKey candidate
    · rw [hs] at ht ⊢
      rw [update_self, hag known ht]
    · rw [update_of_ne hs, ht]
  rows _ _ hlo := ⟨_, hlo, le_rfl⟩

theorem loadContribution_upsertAliases (db : Ledger) (candidate : Contribution) (msgId other : Nat) :
    loadContribution (upsertAliases db candidate msgId) other = loadContribution db other := rfl

theorem matchedId_exact {known : Nat} (ht : db.aliases (exactKey candidate) = some known) :
    matchedId db candidate = some (some known) := by
  simp [matchedId, aliasTarget, ht]

theorem keeps_insert (hso : Sound db) (value : Contribution) :
    Keeps db (insertContribution db value).1 where
  aliases _ _ _ hk := hk
  rows := by
    intro msgId held hlo
    have old : msgId ≠ db.nextId := by
      rintro rfl
      rw [loadContribution, List.lookup_eq_none_iff.mpr] at hlo
      · cases hlo
      · intro row hm
        simpa using (hso.ids_fresh row hm).ne'
    refine ⟨held, ?_, le_rfl⟩
    rw [loadContribution_insert db _ hso.ids_fresh, if_neg old, hlo]

/-- An ingestion keeps what is there, and puts its copy under its exact alias. -/
theorem keeps_ingest (hso : Sound db) {outcome : IngestOutcome}
    (hd : ingestContribution db candidate = some (after, outcome)) :
    Keeps db after ∧ ∃ msgId held, after.aliases (exactKey candidate) = some msgId ∧
      loadContribution after msgId = some held ∧ rank candidate ≤ rank held := by
  have hna (db : Ledger) (msgId : Nat) :
      (upsertAliases db candidate msgId).aliases (exactKey candidate) = some msgId := by
    simp [upsertAliases, upsertAlias, exactKey, looseKey]
  rcases ingestContribution_cases hd with ⟨msgId, incumbent, matched, hlo, cases⟩ |
    ⟨matched, _, rfl⟩
  · have hag (known : Nat) (ht : db.aliases (exactKey candidate) = some known) : known = msgId := by
      rw [matchedId_exact ht] at matched
      exact Option.some.inj (Option.some.inj matched)
    rcases cases with ⟨better, _, rfl⟩ | ⟨worse, _, rfl⟩
    · rw [shouldReplace_eq_rank, decide_eq_true_eq] at better
      have hfm := rewriteContribution_frame db msgId incumbent candidate
      have hrw := keeps_rewrite hlo better.le
      refine ⟨hrw.trans (keeps_upsertAliases (hfm.2 ▸ hag)), _, _,
        hna _ _, ?_, le_rfl⟩
      rw [loadContribution_upsertAliases, rewriteContribution_load, if_pos rfl, hlo]
      rfl
    · rw [shouldReplace_eq_rank, decide_eq_false_iff_not, not_lt] at worse
      exact ⟨keeps_upsertAliases hag, _, _, hna db _, hlo, worse⟩
  · have hfm := materializeContribution_frame (insertContribution db candidate).1 db.nextId
      candidate
    have inserted := (keeps_insert hso _).trans hfm.keeps
    refine ⟨inserted.trans (keeps_upsertAliases ?_), db.nextId, _, hna _ _, ?_, le_rfl⟩
    · intro known ht
      rw [hfm.aliases] at ht
      rw [matchedId_exact (show db.aliases (exactKey _) = some known from ht)] at matched
      cases matched
    · rw [loadContribution_upsertAliases, hfm.load, loadContribution_insert db _ hso.ids_fresh,
        if_pos rfl]

theorem keeps_change (change : LedgerChange db after) : Keeps db after := by
  cases change with
  | reattribute _ _ _ hlo => exact keeps_rewrite hlo le_rfl
  | map window => exact (materializeContributionForWindow_frame db _ _ window).keeps
  | clear => exact SameMessages.keeps ⟨rfl, rfl, rfl⟩
  | sample => exact SameMessages.keeps ⟨rfl, rfl, rfl⟩

theorem keeps_changes (changes : LedgerChanges db after) : Keeps db after := by
  induction changes with
  | refl => exact .refl db
  | tail _ change ih => exact ih.trans (keeps_change change)

theorem keeps_step (hso : Sound db) (step : LedgerStep defaults db after) : Keeps db after := by
  rcases step.changes with changes | ⟨_, _, hd⟩
  · exact keeps_changes changes
  · exact (keeps_ingest hso hd).1

theorem keeps_run (hso : Sound db) (run : Relation.ReflTransGen (LedgerStep defaults) db after) :
    Sound after ∧ Keeps db after := by
  induction run with
  | refl => exact ⟨hso, .refl db⟩
  | tail _ step ih => exact ⟨ih.1.step step, ih.2.trans (keeps_step ih.1 step)⟩

end

section

/-- The same copy of a message, read again. Its seat, account, project and model are resolved anew
and may have changed. -/
structure Reread (first again : Contribution) : Prop where
  sourceRef : again.sourceRef = first.sourceRef
  sourceSeq : again.sourceSeq = first.sourceSeq
  messageId : again.messageId = first.messageId
  requestId : again.requestId = first.requestId
  isSidechain : again.isSidechain = first.isSidechain
  hasSpeed : again.hasSpeed = first.hasSpeed
  recordedAt : again.recordedAt = first.recordedAt
  tokens : again.tokens = first.tokens
  totalTokens : again.totalTokens = first.totalTokens

/-- Whatever has happened since a copy was ingested, ingesting it again is reported as ignored and
changes neither the messages, nor their mapping, nor the totals. -/
theorem rereading_is_ignored {defaults : ModelDefaults} {start ingested db : Ledger}
    {first again : Contribution} {outcome : IngestOutcome}
    (reached : Relation.ReflTransGen (LedgerStep defaults) Ledger.empty start)
    (done : ingestContribution start first = some (ingested, outcome))
    (run : Relation.ReflTransGen (LedgerStep defaults) ingested db) (reread : Reread first again) :
    ∃ after, ingestContribution db again = some (after, .ignored) ∧
      after.messages = db.messages ∧ after.windows = db.windows ∧
      after.seatTokens = db.seatTokens := by
  have sound := sound_of_reachable reached
  obtain ⟨_, msgId, held, named, loaded, higher⟩ := keeps_ingest sound done
  obtain ⟨_, keeps⟩ := keeps_run (sound.ingest done) run
  have known : db.aliases (exactKey again) = some msgId := by
    rw [show exactKey again = exactKey first by simp [exactKey, reread.messageId, reread.requestId]]
    exact keeps.aliases _ _ msgId named
  obtain ⟨later, there, highest⟩ := keeps.rows msgId held loaded
  have same : rank again = rank first := by
    simp [rank, reread.isSidechain, reread.hasSpeed, reread.totalTokens]
  have worse : shouldReplace again later = false := by
    rw [shouldReplace_eq_rank, decide_eq_false_iff_not, not_lt, same]
    exact higher.trans highest
  refine ⟨upsertAliases db again msgId, ?_, rfl, rfl, rfl⟩
  simp [ingestContribution, matchedId_exact known, there, worse]

def reboundCopy : Contribution := { sampleMessage with seatId := "other", model := "sonnet" }

theorem rereading_is_ignored_after_larger :
    ∃ after, ingestContribution
        (commit (fun db => (ingestContribution db largerCopy).map Prod.fst) sampleLedger)
        reboundCopy = some (after, .ignored) ∧
      after.messages = [(1, largerCopy)] := by
  have done : ingestContribution { Ledger.empty with burnSamples := [weeklySample] } sampleMessage =
      some (sampleLedger, .inserted) := rfl
  have reread : Reread sampleMessage reboundCopy := ⟨rfl, rfl, rfl, rfl, rfl, rfl, rfl, rfl, rfl⟩
  have sampled : LedgerStep quietDefaults Ledger.empty
      { Ledger.empty with burnSamples := [weeklySample] } := .burnSample Ledger.empty weeklySample
  obtain ⟨after, ignored, messages, _⟩ :=
    rereading_is_ignored (.single sampled) done (.single (.ingest _ largerCopy)) reread
  exact ⟨after, ignored, messages.trans (by decide +kernel)⟩

/-- No message is ever lost or outranked, and the exact name it was ingested under stays its own. -/
theorem messages_last {defaults : ModelDefaults} {db after : Ledger}
    (reached : Relation.ReflTransGen (LedgerStep defaults) Ledger.empty db)
    (run : Relation.ReflTransGen (LedgerStep defaults) db after) : Keeps db after :=
  (keeps_run (sound_of_reachable reached) run).2

theorem messages_last_of_larger : Keeps sampleLedger
    (commit (fun db => (ingestContribution db largerCopy).map Prod.fst) sampleLedger) :=
  @messages_last quietDefaults _ _
    (.tail (.single (.burnSample _ weeklySample)) (.ingest _ sampleMessage))
    (.single (.ingest _ largerCopy))

end

end SessionManager.Usage
