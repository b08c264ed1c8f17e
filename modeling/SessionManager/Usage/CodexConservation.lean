import SessionManager.Foundation.Numerals
import SessionManager.Usage.Copies
import SessionManager.Usage.ScanResume
import SessionManager.Usage.Wrapping

/-! Codex events carry cumulative totals, and the ledger counts their growth. Events come in batches
of one transaction each; a batch that fails or is cut off leaves nothing behind, and events may be
read any number of times. Whatever was read in whatever batches, the rows of a thread add up to the
totals of its cursor less the growth of the events from before the account timeline, which move the
cursor without a row, as long as cached and written input of every event together fit into 64 bits. -/
namespace SessionManager.Usage
open Foundation Foundation.Numerals List Fallible Function

theorem codexMessageId_inj {threadId other : String} {sourceSeq otherSeq : Int}
    (hs : codexMessageId threadId sourceSeq = codexMessageId other otherSeq) :
    threadId = other ∧ sourceSeq = otherSeq := by
  have texts (threadId : String) (sourceSeq : Int) : (codexMessageId threadId sourceSeq).toList =
      "codex:".toList ++ (threadId.toList ++ ':' :: (toString sourceSeq).toList) := by
    show ((("codex:" ++ threadId) ++ ":") ++ toString sourceSeq).toList = _
    simp only [String.toList_append, append_assoc]
    rfl
  have lists := congrArg String.toList hs
  rw [texts, texts] at lists
  obtain ⟨threads, numbers⟩ := separated_inj (append_cancel_left lists)
    (colon_not_mem_int _) (colon_not_mem_int _)
  exact ⟨String.toList_inj.mp threads, Int.repr_injective (String.toList_inj.mp numbers)⟩

section

namespace CodexTotals

variable {totals : CodexTotals}

theorem eq_zero_of_total (valid : totals.validate = .ok ()) (none : totals.buckets.total = 0) :
    totals = zero := by
  rw [buckets_total valid] at none
  obtain ⟨hpo, sum, cached, reasoning⟩ := validate_ok valid
  obtain ⟨_, _, _, _, _, _⟩ := totals
  simp only at hpo sum cached reasoning none
  simp only [zero, CodexTotals.mk.injEq]
  omega

def plus (totals more : CodexTotals) : CodexTotals :=
  { input := totals.input + more.input
    cachedInput := totals.cachedInput + more.cachedInput
    cacheWrite := totals.cacheWrite + more.cacheWrite
    output := totals.output + more.output
    reasoning := totals.reasoning + more.reasoning
    total := totals.total + more.total }

/-- Counts of 64 bits whose cached and written input together fit. -/
def Fits (totals : CodexTotals) : Prop :=
  totals.wrapped = totals ∧ totals.cachedInput + totals.cacheWrite < 2 ^ 63

/-- What the totals of a cursor keep. -/
def Held (totals : CodexTotals) : Prop :=
  totals.wrapped = totals ∧ 0 ≤ totals.cachedInput ∧ 0 ≤ totals.cacheWrite

theorem delta_of_fits {previous : Option CodexCursor} {tokens : TokenBuckets} (fits : totals.Fits)
    (held : ((previous.map CodexCursor.last).getD zero).Held)
    (counted : totals.deltaWrapping previous = .ok tokens) :
    totals.Held ∧ (totals.since ((previous.map CodexCursor.last).getD zero)).validate = .ok () ∧
      tokens = (totals.since ((previous.map CodexCursor.last).getD zero)).buckets ∧
      tokens.totalWrapping = tokens.total := by
  obtain ⟨valid, grown, _⟩ := deltaWrapping_ok fits.1 held.1 counted
  obtain ⟨⟨_, cached, written, _⟩, _⟩ := validateWrapping_ok valid
  -- the growth is no more than the totals themselves
  have more : (totals.since ((previous.map CodexCursor.last).getD zero)).cachedInput +
      (totals.since ((previous.map CodexCursor.last).getD zero)).cacheWrite < 2 ^ 63 := by
    obtain ⟨_, small⟩ := fits
    obtain ⟨_, _, _⟩ := held
    simp only [since]
    omega
  obtain ⟨exact, -, -, total⟩ := delta_of_wrapping fits.1 held.1 counted fits.2 more
  obtain ⟨valid, rfl⟩ := delta_ok exact
  refine ⟨⟨fits.1, cached, written⟩, valid, rfl, ?_⟩
  have checked : (totals.since ((previous.map CodexCursor.last).getD zero)).buckets.validate =
      .ok () := by
    obtain ⟨_, _, exact⟩ := bind_eq_ok.mp exact
    obtain ⟨_, _, exact⟩ := bind_eq_ok.mp exact
    obtain ⟨_, checked, _⟩ := bind_eq_ok.mp exact
    exact checked
  refine (TokenBuckets.totalWrapping_eq_iff checked).mpr ?_
  unfold wrap at total
  omega

theorem plus_zero : totals.plus zero = totals := by
  simp [plus, zero]

theorem since_zero : totals.since zero = totals := by
  simp [since, zero]

end CodexTotals

def bucketSums (rows : List Contribution) : TokenBuckets :=
  let sum (column : TokenBuckets → Int) := (rows.map fun row => column row.tokens).sum
  { input := sum TokenBuckets.input
    output := sum TokenBuckets.output
    reasoning := sum TokenBuckets.reasoning
    cacheWrite5m := sum TokenBuckets.cacheWrite5m
    cacheWrite1h := sum TokenBuckets.cacheWrite1h
    cacheRead := sum TokenBuckets.cacheRead }

def totalSum (rows : List Contribution) : Int := (rows.map Contribution.totalTokens).sum

def cursorTotals (tables : UsageTables) (threadId : String) : CodexTotals :=
  ((tables.codexCursors threadId).map CodexCursor.last).getD .zero

/-- The growth of an event from before the first interval of the account timeline, which moves the
cursor of its thread without a row. -/
def unattributed (scanner : Scanner) (tables : UsageTables) (threadId : String) :
    CodexEvent → CodexTotals
  | .settings _ _ _ _ => .zero
  | .cumulative thread _ sourceSeq timestamp totals =>
    if thread = threadId && !((tables.codexCursors thread).any fun cursor =>
        sourceSeq ≤ cursor.lastSeq) && (accountAt scanner "codex" timestamp).isNone &&
        (predatesFirstAccountInterval scanner "codex" timestamp).toOption = some true
    then totals.since (cursorTotals tables thread)
    else .zero

end

section

def CodexEvent.Fits : CodexEvent → Prop
  | .settings _ _ _ _ => True
  | .cumulative _ _ _ _ totals => totals.Fits

structure CodexBatch where
  scanner : Scanner
  artifact : Artifact
  projectKey : Option String
  events : List CodexEvent

/-- The tables, and for each thread the growth that was not attributed so far. -/
structure Counted where
  tables : UsageTables
  withheld : String → CodexTotals

def CodexBatch.takeEvent (batch : CodexBatch) (state : Counted) (event : CodexEvent) :
    Except String Counted := do
  let (tables, _) ←
    processCodexEvent batch.scanner state.tables batch.artifact batch.projectKey event
  pure ⟨tables, fun threadId =>
    (state.withheld threadId).plus (unattributed batch.scanner state.tables threadId event)⟩

def CodexBatch.take (batch : CodexBatch) (state : Counted) : Except String Counted :=
  batch.events.foldlM batch.takeEvent
    { state with tables := ensureCodexCursorBaselines batch.artifact state.tables }

/-- A transaction that fails leaves everything as it was. -/
def CodexBatch.commit (state : Counted) (batch : CodexBatch) : Counted :=
  match batch.take state with
  | .ok after => after
  | .error _ => state

def Counted.fresh (burnSamples : List BurnSample) : Counted :=
  ⟨⟨{ Ledger.empty with burnSamples }, fun _ => none, []⟩, fun _ => .zero⟩

end

section

structure Conserved (state : Counted) : Prop where
  sound : Sound state.tables.ledger
  linked : state.tables.ledger.copies.Linked
  rows : ∀ row ∈ state.tables.ledger.messages, ∃ sourceSeq cursor,
    row.2.messageId = codexMessageId row.2.sourceRef sourceSeq ∧
      row.2.sourceSeq = some sourceSeq ∧
      state.tables.codexCursors row.2.sourceRef = some cursor ∧ sourceSeq ≤ cursor.lastSeq
  held : ∀ threadId, (cursorTotals state.tables threadId).Held
  buckets : ∀ threadId, bucketSums (threadRows state.tables.ledger threadId) =
    ((cursorTotals state.tables threadId).since (state.withheld threadId)).buckets
  totals : ∀ threadId, totalSum (threadRows state.tables.ledger threadId) =
    ((cursorTotals state.tables threadId).since (state.withheld threadId)).total

/-- The rows add up to the totals, bucket by bucket and as a whole. -/
def AddUp (rows : List Contribution) (totals : CodexTotals) : Prop :=
  bucketSums rows = totals.buckets ∧ totalSum rows = totals.total

theorem Conserved.adds {state : Counted} (conserved : Conserved state) (threadId : String) :
    AddUp (threadRows state.tables.ledger threadId)
      ((cursorTotals state.tables threadId).since (state.withheld threadId)) :=
  ⟨conserved.buckets threadId, conserved.totals threadId⟩

theorem conserved_fresh (burnSamples : List BurnSample) : Conserved (.fresh burnSamples) where
  sound := sound_of_samples burnSamples
  linked := Copies.linked_empty
  rows := by simp [Counted.fresh, Ledger.empty]
  held := fun _ => ⟨rfl, le_rfl, le_rfl⟩
  buckets := fun _ => rfl
  totals := fun _ => rfl

variable {state : Counted} {scanner : Scanner} {artifact : Artifact}
  {outcome : Option IngestOutcome}

theorem Conserved.cursored (conserved : Conserved state) : Cursored state.tables := by
  intro row hm _
  obtain ⟨_, _, _, _, held, _⟩ := conserved.rows row hm
  rw [held]
  rfl

section

variable (conserved : Conserved state) {contribution : Contribution} {threadId : String}
  {sourceSeq : Int} {growth : TokenBuckets}
include conserved

/-- No row has the id of an event that is newer than its thread's cursor. -/
theorem Conserved.unmatched (newer : Newer state.tables threadId sourceSeq)
    (counts : CountedRow contribution threadId sourceSeq growth) :
    state.tables.ledger.copies.target contribution = none := by
  cases hf : state.tables.ledger.copies.target contribution with
  | none => rfl
  | some =>
    obtain ⟨_, hlo, hs⟩ := conserved.linked.target_row hf
    have hm := (mem_messages_iff conserved.sound _ _).mpr hlo
    obtain ⟨_, cursor, hna, _, cursorHeld, _⟩ := conserved.rows _ hm
    rw [counts.messageId, hna] at hs
    obtain ⟨rfl, rfl⟩ := codexMessageId_inj hs
    exact absurd (newer _ cursorHeld) (by omega)

theorem Conserved.inserts {ingested : UsageTables} (newer : Newer state.tables threadId sourceSeq)
    (counts : CountedRow contribution threadId sourceSeq growth)
    (hd : ingestInto state.tables contribution = .ok (ingested, outcome)) :
    Sound ingested.ledger ∧ ingested.ledger.copies.Linked ∧
      ingested.codexCursors = state.tables.codexCursors ∧
      ingested.ledger.messages =
        state.tables.ledger.messages ++ [(state.tables.ledger.nextId, contribution)] := by
  unfold ingestInto at hd
  split at hd
  · cases hd
  rename_i outcome ingests
  cases hd
  obtain ⟨_, _, follows, copies⟩ := ingestContribution_copies conserved.linked
    conserved.sound.ids_fresh _
  obtain ⟨rfl, _⟩ := Prod.mk.inj (Option.some.inj (follows.symm.trans ingests))
  refine ⟨conserved.sound.ingest ingests, by rw [copies]; exact conserved.linked.ingest _, rfl, ?_⟩
  have unmatched : matchedId state.tables.ledger contribution = some none := by
    rw [matchedId_eq_target conserved.linked, conserved.unmatched newer counts]
  rcases ingestContribution_cases ingests with ⟨_, _, matched, _⟩ | ⟨_, _, rfl⟩
  · cases unmatched.symm.trans matched
  · rw [upsertAliases_messages, (materializeContribution_frame _ _ _).messages]
    rfl

end

theorem cursorTotals_save (tables : UsageTables) (threadId other : String) (path : List String)
    (sourceSeq : Int) (totals : CodexTotals) :
    cursorTotals (saveCodexCursor tables threadId path sourceSeq totals) other =
      if other = threadId then totals else cursorTotals tables other := by
  unfold cursorTotals saveCodexCursor
  by_cases hs : other = threadId <;> simp [hs]

theorem Conserved.save (conserved : Conserved state) {base : UsageTables} {threadId : String}
    {path : List String} {sourceSeq : Int} {totals : CodexTotals} {withheld : String → CodexTotals}
    (newer : Newer state.tables threadId sourceSeq) (held : totals.Held) (hso : Sound base.ledger)
    (linked : base.ledger.copies.Linked)
    (cursors : base.codexCursors = state.tables.codexCursors)
    (rows : ∀ row ∈ base.ledger.messages, row ∈ state.tables.ledger.messages ∨
      row.2.messageId = codexMessageId threadId sourceSeq ∧ row.2.sourceRef = threadId ∧
        row.2.sourceSeq = some sourceSeq)
    (others : ∀ other, other ≠ threadId →
      threadRows base.ledger other = threadRows state.tables.ledger other ∧
        withheld other = state.withheld other)
    (adds : AddUp (threadRows base.ledger threadId) (totals.since (withheld threadId))) :
    Conserved ⟨saveCodexCursor base threadId path sourceSeq totals, withheld⟩ := by
  have each : ∀ other, AddUp (threadRows base.ledger other) ((cursorTotals
      (saveCodexCursor base threadId path sourceSeq totals) other).since (withheld other)) := by
    intro other
    rw [cursorTotals_save]
    split
    · rename_i hs
      rw [hs]
      exact adds
    rename_i hap
    obtain ⟨sameRows, sameWithheld⟩ := others _ hap
    have cursor : cursorTotals base other = cursorTotals state.tables other := by
      rw [cursorTotals, cursors, cursorTotals]
    simp only [sameWithheld, cursor, sameRows]
    exact conserved.adds _
  refine ⟨hso, linked, ?_, ?_, fun _ => (each _).1, fun _ => (each _).2⟩
  · intro row hm
    rcases rows row hm with old | ⟨hna, source, counted⟩
    · obtain ⟨number, cursor, hna, counted, cursorHeld, bound⟩ := conserved.rows row old
      by_cases hs : row.2.sourceRef = threadId
      · refine ⟨number, ⟨path, sourceSeq, totals⟩, hna, counted, ?_, ?_⟩
        · simp [saveCodexCursor, hs]
        · have _ := newer _ (hs ▸ cursorHeld)
          show number ≤ sourceSeq
          omega
      · refine ⟨number, _, hna, counted, ?_, bound⟩
        rw [← cursorHeld, ← cursors]
        exact update_of_ne hs _ _
    · refine ⟨_, ⟨path, _, totals⟩, by rw [hna, source], counted, ?_, le_rfl⟩
      simp [saveCodexCursor, source]
  · intro other
    rw [cursorTotals_save]
    split
    · exact held
    · rw [cursorTotals, cursors]
      exact conserved.held other

theorem Conserved.takes (conserved : Conserved state) {event : CodexEvent} {after : UsageTables}
    (fits : event.Fits)
    (takes : TakesEvent scanner artifact state.tables event after outcome) :
    Conserved ⟨after, fun threadId =>
      (state.withheld threadId).plus (unattributed scanner state.tables threadId event)⟩ := by
  cases takes with
  | settings =>
    simp only [unattributed, CodexTotals.plus_zero]
    exact ⟨conserved.sound, conserved.linked, conserved.rows, conserved.held, conserved.buckets,
      conserved.totals⟩
  | @stale threadId _ sourceSeq _ _ old =>
    have seen : ((state.tables.codexCursors threadId).any fun cursor =>
        sourceSeq ≤ cursor.lastSeq) := by
      simpa [newer_iff] using old
    simp only [unattributed, seen, Bool.not_true, Bool.and_false, Bool.false_and,
      Bool.false_eq_true, if_false, CodexTotals.plus_zero]
    exact conserved
  | @withheld threadId turnId sourceSeq timestamp totals _ newer counted unknown early =>
    obtain ⟨held, -⟩ := CodexTotals.delta_of_fits fits (conserved.held threadId) counted
    have growth (wanted : String) : unattributed scanner state.tables wanted
        (.cumulative threadId turnId sourceSeq timestamp totals) =
          if threadId = wanted then totals.since (cursorTotals state.tables threadId)
          else .zero := by
      simp [unattributed, newer_iff.mp newer, unknown, early, Except.toOption]
    -- the cursor and the withheld growth move by the same amount
    have hs : totals.since ((state.withheld threadId).plus
        (totals.since (cursorTotals state.tables threadId))) =
          (cursorTotals state.tables threadId).since (state.withheld threadId) := by
      simp only [CodexTotals.since, CodexTotals.plus, CodexTotals.mk.injEq]
      omega
    simp only [growth]
    refine conserved.save newer held conserved.sound conserved.linked rfl (fun _ old => .inl old)
      ?_ ?_
    · intro other apart
      exact ⟨rfl, by rw [if_neg apart.symm, CodexTotals.plus_zero]⟩
    · rw [if_pos rfl, hs]
      exact conserved.adds _
  | @unchanged threadId turnId sourceSeq timestamp totals tokens accountKey newer counted known
      zero =>
      have growth (wanted : String) : unattributed scanner state.tables wanted
          (.cumulative threadId turnId sourceSeq timestamp totals) = .zero := by
        simp [unattributed, known]
      obtain ⟨held, valid, rfl, total⟩ :=
        CodexTotals.delta_of_fits fits (conserved.held threadId) counted
      have still : totals.since (cursorTotals state.tables threadId) = .zero :=
        CodexTotals.eq_zero_of_total valid (total ▸ zero)
      have hs : totals = cursorTotals state.tables threadId := by
        cases totals
        cases held : cursorTotals state.tables threadId
        simp only [held, CodexTotals.since, CodexTotals.zero, CodexTotals.mk.injEq] at still ⊢
        omega
      simp only [growth, CodexTotals.plus_zero]
      refine conserved.save newer held conserved.sound conserved.linked rfl
        (fun _ old => .inl old) (fun _ _ => ⟨rfl, rfl⟩) ?_
      rw [hs]
      exact conserved.adds _
  | @counted threadId turnId sourceSeq timestamp totals tokens accountKey contribution ingested
      outcome newer counted known row hd =>
      have growth (wanted : String) : unattributed scanner state.tables wanted
          (.cumulative threadId turnId sourceSeq timestamp totals) = .zero := by
        simp [unattributed, known]
      obtain ⟨held, valid, rfl, total⟩ :=
        CodexTotals.delta_of_fits fits (conserved.held threadId) counted
      obtain ⟨hso, linked, cursors, messages⟩ := conserved.inserts newer row hd
      have rows (other : String) : threadRows ingested.ledger other =
          if threadId = other then threadRows state.tables.ledger other ++ [contribution]
          else threadRows state.tables.ledger other := by
        simp only [threadRows, messages, map_append, map_cons, map_nil,
          filter_append, filter_cons, filter_nil, row.sourceRef, row.sourceSeq]
        by_cases hs : threadId = other <;> simp [hs]
      simp only [growth, CodexTotals.plus_zero]
      refine conserved.save newer held hso linked cursors ?_ ?_ ⟨?_, ?_⟩
      · intro _ hm
        rw [messages] at hm
        rcases mem_append.mp hm with old | isNew
        · exact .inl old
        · rw [mem_singleton.mp isNew]
          exact .inr ⟨row.messageId, row.sourceRef, row.sourceSeq⟩
      · intro other apart
        exact ⟨by rw [rows, if_neg apart.symm], rfl⟩
      · have sums := conserved.buckets threadId
        rw [rows, if_pos rfl]
        simp only [bucketSums, map_append, sum_append, map_singleton, sum_singleton, row.tokens,
          CodexTotals.since, CodexTotals.buckets, TokenBuckets.mk.injEq, cursorTotals] at sums ⊢
        omega
      · rw [rows, if_pos rfl, totalSum, map_append, sum_append, map_singleton,
          sum_singleton, row.totalTokens, total, CodexTotals.buckets_total valid, ← totalSum,
          conserved.totals _]
        simp only [CodexTotals.since, cursorTotals]
        omega

theorem Conserved.batch (conserved : Conserved state) {batch : CodexBatch}
    (fits : ∀ event ∈ batch.events, event.Fits) : Conserved (batch.commit state) := by
  unfold CodexBatch.commit
  split
  · rename_i hd
    unfold CodexBatch.take at hd
    rw [conserved.cursored.baselines] at hd
    refine foldlM_keeps Conserved hd ?_ conserved
    intro event hm _ _ taken held
    obtain ⟨⟨_, _⟩, processed, kept⟩ := bind_eq_ok.mp taken
    cases kept
    exact held.takes (fits event hm) (processCodexEvent_takes processed)
  · exact conserved

theorem Conserved.batches (conserved : Conserved state) {batches : List CodexBatch}
    (fits : ∀ batch ∈ batches, ∀ event ∈ batch.events, event.Fits) :
    Conserved (batches.foldl CodexBatch.commit state) := by
  induction batches generalizing state with
  | nil => exact conserved
  | cons batch _ ih =>
    exact ih (conserved.batch (fits batch mem_cons_self)) fun _ hm => fits _ (mem_cons_of_mem _ hm)

/-- Whatever batches of events that fit were taken, the rows of a thread add up, bucket by bucket, to
the totals of its cursor less the growth that was not attributed, and an event that is not newer than
the cursor changes nothing. -/
theorem codex_tokens_conserved (burnSamples : List BurnSample) {batches : List CodexBatch}
    (fits : ∀ batch ∈ batches, ∀ event ∈ batch.events, event.Fits) (threadId : String) :
    let reached := batches.foldl CodexBatch.commit (.fresh burnSamples)
    let attributed := (cursorTotals reached.tables threadId).since (reached.withheld threadId)
    bucketSums (threadRows reached.tables.ledger threadId) = attributed.buckets ∧
      totalSum (threadRows reached.tables.ledger threadId) = attributed.total ∧
      ∀ scanner artifact projectKey turnId sourceSeq timestamp totals,
        ¬Newer reached.tables threadId sourceSeq →
        processCodexEvent scanner reached.tables artifact projectKey
          (.cumulative threadId turnId sourceSeq timestamp totals) =
            .ok (reached.tables, some .ignored) := by
  intro reached attributed
  have conserved := (conserved_fresh burnSamples).batches fits
  refine ⟨conserved.buckets threadId, conserved.totals threadId, ?_⟩
  intro scanner artifact projectKey turnId sourceSeq timestamp totals old
  have seen : ((reached.tables.codexCursors threadId).any fun cursor =>
      sourceSeq ≤ cursor.lastSeq) = true := by
    simpa [newer_iff] using old
  simp [processCodexEvent, seen]

/-- An event of a thread on a day of January, with input tokens and nothing cached. -/
def inputEvent (sourceSeq : Int) (day : Nat) (tokens : Int) : CodexEvent :=
  .cumulative "thread" none sourceSeq (january day) ⟨tokens, 0, 0, 0, 0, tokens⟩

/-- The account timeline starts on the second of January. -/
def startingScanner : Scanner :=
  { sampleScanner with
    accountTimeline := [⟨"codex", "codex:a", januaryHost.formatTimestamp (january 2), none⟩] }

def oneBatch (events : List CodexEvent) : List CodexBatch :=
  [⟨startingScanner, sampleArtifact, none, events⟩]

def counted (events : List CodexEvent) : Counted :=
  (oneBatch events).foldl CodexBatch.commit (.fresh [])

theorem oneBatch_fits {events : List CodexEvent} (fits : ∀ event ∈ events, event.Fits) :
    ∀ batch ∈ oneBatch events, ∀ event ∈ batch.events, event.Fits := by
  intro batch hm
  rw [mem_singleton.mp hm]
  exact fits

theorem inputEvent_fits {sourceSeq tokens : Int} {day : Nat} (small : wrap tokens = tokens) :
    (inputEvent sourceSeq day tokens).Fits :=
  ⟨by simp [CodexTotals.wrapped, small, show wrap 0 = 0 from rfl], show (0 : Int) + 0 < 2 ^ 63 by decide⟩

def threeInputs : List CodexEvent := [inputEvent 1 1 5, inputEvent 2 2 7, inputEvent 3 3 11]

theorem threeInputs_fit : ∀ event ∈ threeInputs, event.Fits := by
  simp only [threeInputs, forall_mem_cons, not_mem_nil, false_implies, implies_true, and_true]
  exact ⟨inputEvent_fits rfl, inputEvent_fits rfl, inputEvent_fits rfl⟩

/-- One event before the account timeline and two in it. -/
theorem codex_tokens_conserved_of_three :
    bucketSums (threadRows (counted threeInputs).tables.ledger "thread") = ⟨6, 0, 0, 0, 0, 0⟩ ∧
      (counted threeInputs).withheld "thread" = ⟨5, 0, 0, 0, 0, 5⟩ := by
  have withheld : (counted threeInputs).withheld "thread" = ⟨5, 0, 0, 0, 0, 5⟩ := by
    decide +kernel
  have cursor : cursorTotals (counted threeInputs).tables "thread" = ⟨11, 0, 0, 0, 0, 11⟩ := by
    decide +kernel
  have sums := (codex_tokens_conserved [] (oneBatch_fits threeInputs_fit) "thread").1
  rw [← counted, cursor, withheld] at sums
  exact ⟨sums, withheld⟩

def hugeCache : CodexTotals := ⟨0, 2 ^ 63 - 1, 2 ^ 63 - 1, 0, 0, 0⟩

/-- Cached and written input of 2^63 - 1 each wrap to less than no input: the event is accepted, its
wrapped total is zero, and the cursor moves without a row although nothing was withheld. -/
theorem huge_cache_uncounted :
    let reached := counted [.cumulative "thread" none 1 (january 2) hugeCache]
    cursorTotals reached.tables "thread" = hugeCache ∧ reached.withheld "thread" = .zero ∧
      threadRows reached.tables.ledger "thread" = [] ∧
      bucketSums (threadRows reached.tables.ledger "thread") ≠
        ((cursorTotals reached.tables "thread").since (reached.withheld "thread")).buckets := by
  decide +kernel

end

section

def recorded (scanner : Scanner) (tables : UsageTables) (artifact : Artifact)
    (projectKey : Option String) (event : CodexEvent) :
    Except String (Ledger × Option IngestOutcome) :=
  (processCodexEvent scanner tables artifact projectKey event).map fun taken =>
    (taken.1.ledger, taken.2)

def loseCursor (tables : UsageTables) (threadId : String) : UsageTables :=
  { tables with codexCursors := Function.update tables.codexCursors threadId none }

/-- What events read of a cursor: all but the path of its file. -/
def CodexCursor.position (cursor : CodexCursor) : Int × CodexTotals :=
  (cursor.lastSeq, cursor.last)

theorem recorded_congr (tables : UsageTables) {cursors : String → Option CodexCursor}
    (hs : ∀ threadId, (cursors threadId).map CodexCursor.position =
      (tables.codexCursors threadId).map CodexCursor.position) (scanner : Scanner)
    (artifact : Artifact) (projectKey : Option String) (event : CodexEvent) :
    recorded scanner { tables with codexCursors := cursors } artifact projectKey event =
      recorded scanner tables artifact projectKey event := by
  cases event with
  | settings => rfl
  | cumulative threadId _ sourceSeq timestamp totals =>
    have read : (cursors threadId).any (fun cursor => sourceSeq ≤ cursor.lastSeq) =
        (tables.codexCursors threadId).any (fun cursor => sourceSeq ≤ cursor.lastSeq) ∧
        totals.deltaWrapping (cursors threadId) =
          totals.deltaWrapping (tables.codexCursors threadId) := by
      have place := hs threadId
      revert place
      cases cursors threadId <;> cases tables.codexCursors threadId <;>
        simp +contextual [CodexCursor.position, CodexTotals.deltaWrapping]
    unfold recorded
    simp only [processCodexEvent, read]
    split
    · rfl
    cases totals.deltaWrapping (tables.codexCursors threadId) with
    | error => rfl
    | ok =>
      simp only [bind, Except.bind, ingestInto]
      split
      · cases predatesFirstAccountInterval scanner "codex" timestamp with
        | error => rfl
        | ok early => cases early <;> rfl
      rename_i accountKey _
      have settings : codexModel scanner { tables with codexCursors := cursors } _ _
          sourceSeq = codexModel _ tables artifact threadId _ ∧
          codexEffort _ { tables with codexCursors := cursors } _ _ _ =
            codexEffort scanner tables artifact threadId sourceSeq := ⟨rfl, rfl⟩
      simp only [settings]
      cases scanner.creditMetered accountKey (codexModel scanner tables artifact threadId
        sourceSeq) timestamp with
      | error => rfl
      | ok =>
        dsimp only
        split
        · rfl
        · generalize ingestContribution tables.ledger _ = ingested
          rcases ingested with _ | ⟨_, _⟩ <;> rfl

theorem AddUp.baseline {rows : List Contribution} {totals : CodexTotals}
    (adds : AddUp rows totals) : baselineTotals rows = totals := by
  obtain ⟨buckets, total⟩ := adds
  cases totals
  change (rows.map fun row => row.totalTokens).sum = _ at total
  simp only [bucketSums, CodexTotals.buckets, TokenBuckets.mk.injEq] at buckets total
  simp only [baselineTotals, sum_map_add, CodexTotals.mk.injEq]
  omega

theorem Conserved.baselineCursor_position (conserved : Conserved state) {threadId : String}
    (attributed : state.withheld threadId = .zero)
    (hst : ∀ cursor, state.tables.codexCursors threadId = some cursor →
      ∃ row ∈ threadRows state.tables.ledger threadId, row.sourceSeq = some cursor.lastSeq)
    (path : List String) :
    (baselineCursor path state.tables.ledger threadId).map CodexCursor.position =
      (state.tables.codexCursors threadId).map CodexCursor.position := by
  cases held : state.tables.codexCursors threadId with
  | none => simp [baselineCursor, conserved.cursored.threadRows_eq_nil held]
  | some cursor =>
    have newest : ((threadRows state.tables.ledger threadId).filterMap Contribution.sourceSeq).max? =
        some cursor.lastSeq := by
      refine max?_eq_some_iff.mpr ⟨mem_filterMap.mpr (hst _ held), ?_⟩
      intro _ hm
      obtain ⟨row, hm, numbered⟩ := mem_filterMap.mp hm
      obtain ⟨hm, ours⟩ := mem_filter.mp hm
      obtain ⟨_, hst, rfl⟩ := mem_map.mp hm
      obtain ⟨_, _, -, source, cursorHeld, bound⟩ := conserved.rows _ hst
      simp only [Bool.and_eq_true, decide_eq_true_eq] at ours
      rw [ours.1, held] at cursorHeld
      cases cursorHeld
      rw [source] at numbered
      cases numbered
      exact bound
    have adds := (conserved.adds threadId).baseline
    rw [attributed, CodexTotals.since_zero, cursorTotals, held] at adds
    simp [baselineCursor, newest, adds, CodexCursor.position]

/-- A cursor that is lost and rebuilt from the ledger counts every next event as the cursor before
did, if the events so far fit, all growth of its thread was attributed and its last event has a
row. -/
theorem codex_cursor_rebuilt (burnSamples : List BurnSample) {batches : List CodexBatch}
    (fits : ∀ batch ∈ batches, ∀ event ∈ batch.events, event.Fits) {reached : Counted}
    (run : reached = batches.foldl CodexBatch.commit (.fresh burnSamples))
    {threadId : String} {finder : Artifact} (codex : isCodex finder.provider)
    (listed : threadId ∈ finder.providerSessionIds)
    (attributed : reached.withheld threadId = .zero)
    (stored : ∀ cursor, reached.tables.codexCursors threadId = some cursor →
      ∃ row ∈ threadRows reached.tables.ledger threadId, row.sourceSeq = some cursor.lastSeq)
    (scanner : Scanner) (artifact : Artifact) (projectKey : Option String) (event : CodexEvent) :
    recorded scanner (ensureCodexCursorBaselines finder (loseCursor reached.tables threadId))
        artifact projectKey event =
      recorded scanner reached.tables artifact projectKey event := by
  have conserved : Conserved reached := run ▸ (conserved_fresh burnSamples).batches fits
  rw [ensureCodexCursorBaselines, if_pos codex, baselines_eq]
  refine recorded_congr reached.tables ?_ scanner artifact projectKey event
  intro other
  by_cases hs : other = threadId
  · subst hs
    simp only [loseCursor, update_self, Option.none_or, if_pos listed]
    exact conserved.baselineCursor_position attributed stored finder.path
  · simp only [loseCursor, update_of_ne hs]
    cases held : reached.tables.codexCursors other with
    | some => rfl
    | none => simp [baselineCursor, conserved.cursored.threadRows_eq_nil held]

theorem counted_cursor_rebuilt :
    recorded startingScanner (ensureCodexCursorBaselines sampleArtifact
        (loseCursor (counted [inputEvent 1 2 5, inputEvent 2 3 9]).tables "thread")) sampleArtifact
          none (inputEvent 3 4 11) =
      recorded startingScanner (counted [inputEvent 1 2 5, inputEvent 2 3 9]).tables sampleArtifact
        none (inputEvent 3 4 11) := by
  have fits : ∀ event ∈ [inputEvent 1 2 5, inputEvent 2 3 9], event.Fits := by
    simp only [forall_mem_cons, not_mem_nil, false_implies, implies_true, and_true]
    exact ⟨inputEvent_fits rfl, inputEvent_fits rfl⟩
  refine codex_cursor_rebuilt [] (oneBatch_fits fits) rfl rfl ?_ (by decide +kernel) ?_ _ _ _ _
  · exact mem_cons_self
  · rintro cursor ⟨⟩
    exact ⟨_, mem_cons_of_mem _ mem_cons_self, rfl⟩

def growthOf (tables : UsageTables) (event : CodexEvent) : Except String (List Int) :=
  (recorded startingScanner tables sampleArtifact none event).map fun result =>
    result.1.messages.map fun row => row.2.totalTokens

/-- The first event lies before the account timeline and leaves no row. With its cursor the next
event grows by 2, after a rebuild by all of its 7. -/
theorem early_growth_recounted :
    growthOf (counted [inputEvent 1 1 5]).tables (inputEvent 2 2 7) = .ok [2] ∧
      growthOf (ensureCodexCursorBaselines sampleArtifact
        (loseCursor (counted [inputEvent 1 1 5]).tables "thread")) (inputEvent 2 2 7) =
          .ok [7] := by
  decide +kernel

end

end SessionManager.Usage
