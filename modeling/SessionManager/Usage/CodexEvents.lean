import SessionManager.Usage.Scan

/-! What one Codex event does to the tables: settings are stored, a token event that is not newer
than the cursor of its thread is passed over, and a newer one moves the cursor to its totals. Its
growth becomes a row of the thread, unless it is zero or the event lies before the first interval of
the account timeline. -/
namespace SessionManager.Usage
open Foundation

section

def Newer (tables : UsageTables) (threadId : String) (sourceSeq : Int) : Prop :=
  ∀ cursor, tables.codexCursors threadId = some cursor → cursor.lastSeq < sourceSeq

def codexMessageId (threadId : String) (sourceSeq : Int) : String :=
  s!"codex:{threadId}:{sourceSeq}"

/-- The row that the growth of a token event becomes, up to its attribution. -/
structure CountedRow (contribution : Contribution) (threadId : String) (sourceSeq : Int)
    (growth : TokenBuckets) : Prop where
  messageId : contribution.messageId = codexMessageId threadId sourceSeq
  sourceRef : contribution.sourceRef = threadId
  sourceSeq : contribution.sourceSeq = some sourceSeq
  tokens : contribution.tokens = growth
  totalTokens : contribution.totalTokens = growth.totalWrapping

inductive TakesEvent (scanner : Scanner) (artifact : Artifact) (tables : UsageTables) :
    CodexEvent → UsageTables → Option IngestOutcome → Prop
  | settings (threadId : String) (sourceSeq : Int) (model : String) (effort : Option String) :
      TakesEvent scanner artifact tables (.settings threadId sourceSeq model effort)
        (saveThreadSettings tables ⟨threadId, sourceSeq, model, effort⟩) none
  | stale {threadId : String} {turnId : Option String} {sourceSeq timestamp : Int}
      {totals : CodexTotals} (old : ¬Newer tables threadId sourceSeq) :
      TakesEvent scanner artifact tables (.cumulative threadId turnId sourceSeq timestamp totals)
        tables (some .ignored)
  | withheld {threadId : String} {turnId : Option String} {sourceSeq timestamp : Int}
      {totals : CodexTotals} {tokens : TokenBuckets} (newer : Newer tables threadId sourceSeq)
      (counted : totals.deltaWrapping (tables.codexCursors threadId) = .ok tokens)
      (unknown : accountAt scanner "codex" timestamp = none)
      (early : predatesFirstAccountInterval scanner "codex" timestamp = .ok true) :
      TakesEvent scanner artifact tables (.cumulative threadId turnId sourceSeq timestamp totals)
        (saveCodexCursor tables threadId artifact.path sourceSeq totals) (some .ignored)
  | unchanged {threadId : String} {turnId : Option String} {sourceSeq timestamp : Int}
      {totals : CodexTotals} {tokens : TokenBuckets} {accountKey : String}
      (newer : Newer tables threadId sourceSeq)
      (counted : totals.deltaWrapping (tables.codexCursors threadId) = .ok tokens)
      (known : accountAt scanner "codex" timestamp = some accountKey)
      (zero : tokens.totalWrapping = 0) :
      TakesEvent scanner artifact tables (.cumulative threadId turnId sourceSeq timestamp totals)
        (saveCodexCursor tables threadId artifact.path sourceSeq totals) (some .ignored)
  | counted {threadId : String} {turnId : Option String} {sourceSeq timestamp : Int}
      {totals : CodexTotals} {tokens : TokenBuckets} {accountKey : String}
      {contribution : Contribution} {ingested : UsageTables} {outcome : Option IngestOutcome}
      (newer : Newer tables threadId sourceSeq)
      (counted : totals.deltaWrapping (tables.codexCursors threadId) = .ok tokens)
      (known : accountAt scanner "codex" timestamp = some accountKey)
      (row : CountedRow contribution threadId sourceSeq tokens)
      (done : ingestInto tables contribution = .ok (ingested, outcome)) :
      TakesEvent scanner artifact tables (.cumulative threadId turnId sourceSeq timestamp totals)
        (saveCodexCursor ingested threadId artifact.path sourceSeq totals) outcome

variable {scanner : Scanner} {artifact : Artifact} {tables after : UsageTables}
  {outcome : Option IngestOutcome}

theorem newer_iff {threadId : String} {sourceSeq : Int} : Newer tables threadId sourceSeq ↔
      ((tables.codexCursors threadId).any fun cursor => sourceSeq ≤ cursor.lastSeq) = false := by
  unfold Newer
  cases tables.codexCursors threadId <;> simp

theorem processCodexEvent_takes {projectKey : Option String} {event : CodexEvent}
    (hd : processCodexEvent scanner tables artifact projectKey event = .ok (after, outcome)) :
    TakesEvent scanner artifact tables event after outcome := by
  cases event with
  | settings threadId sourceSeq =>
    cases hd
    exact .settings _ _ _ _
  | cumulative threadId _ sourceSeq timestamp totals =>
    simp only [processCodexEvent] at hd
    split at hd
    · rename_i old
      cases hd
      refine .stale fun newer => ?_
      rw [newer_iff.mp newer] at old
      cases old
    rename_i old
    have newer : Newer tables threadId sourceSeq := newer_iff.mpr (by simpa using old)
    cases counted : totals.deltaWrapping (tables.codexCursors threadId) with
    | error => simp [counted, bind, Except.bind] at hd
    | ok =>
      simp only [counted, bind, Except.bind] at hd
      split at hd
      · rename_i unknown
        cases early : predatesFirstAccountInterval scanner "codex" timestamp with
        | error => simp [early] at hd
        | ok predates =>
          cases predates with
          | true =>
            simp only [early, if_true, pure, Except.pure] at hd
            cases hd
            exact .withheld newer counted unknown early
          | false => simp [early] at hd
      · rename_i accountKey hk
        cases metered : scanner.creditMetered accountKey
            (codexModel scanner tables artifact threadId sourceSeq) timestamp with
        | error => simp [metered] at hd
        | ok =>
          simp only [metered] at hd
          split at hd
          · rename_i zero
            cases hd
            exact .unchanged newer counted hk zero
          split at hd
          · cases hd
          · rename_i ingest
            cases hd
            exact .counted newer counted hk ⟨rfl, rfl, rfl, rfl, rfl⟩ ingest

end

end SessionManager.Usage
