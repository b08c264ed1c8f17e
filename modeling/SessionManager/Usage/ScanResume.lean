import SessionManager.Usage.Calendar
import SessionManager.Usage.CodexEvents

/-! Scanning a transcript while it grows, with crashes, against scanning it once. Every store that
such a run can leave behind has taken a number of whole lines, each as one scan of the full content
would have taken it, provided the project of the artifact was settled in time. -/
namespace SessionManager.Usage
open Foundation List Option Function LineLog

variable {projectKey : Option String} {event : CodexEvent} {allowed : List UInt8 → Prop}
  {parsed : ParsedMessage} {position : Nat}

section

variable {scanner : Scanner} {artifact : Artifact} {tables after : UsageTables}
  {outcome : Option IngestOutcome}

theorem ingestInto_ledger {contribution : Contribution}
    (hd : ingestInto tables contribution = .ok (after, outcome)) :
    after.codexCursors = tables.codexCursors ∧
      ∀ row ∈ after.ledger.messages, row ∈ tables.ledger.messages ∨ row.2 = contribution := by
  unfold ingestInto at hd
  split at hd
  · cases hd
  · rename_i outcome ingested
    cases hd
    exact ⟨rfl, fun row hm => ingestContribution_messages ingested hm⟩

theorem resolveClaudeContribution_cases
    (hd : resolveClaudeContribution scanner tables parsed = .ok (after, outcome)) :
    after = tables ∨ ∃ contribution, contribution.sourceSeq = none ∧
      ingestInto tables contribution = .ok (after, outcome) := by
  unfold resolveClaudeContribution at hd
  split at hd
  · cases early : predatesFirstAccountInterval scanner "claude" parsed.timestamp with
    | error => simp [early, bind, Except.bind] at hd
    | ok predates =>
      cases predates with
      | true =>
        simp only [early, bind, Except.bind, if_true, pure, Except.pure] at hd
        cases hd
        exact .inl rfl
      | false => simp [early, bind, Except.bind] at hd
  · rename_i accountKey _
    cases metered : scanner.creditMetered accountKey parsed.model parsed.timestamp with
    | error => simp [metered, bind, Except.bind] at hd
    | ok =>
      simp only [metered, bind, Except.bind] at hd
      exact .inr ⟨_, rfl, hd⟩

/-- A token event is passed over, or the cursor of its thread is saved after at most one
contribution of the thread. -/
theorem processCodexEvent_cases
    (hd : processCodexEvent scanner tables artifact projectKey event = .ok (after, outcome)) :
    after = tables ∨ (∃ settings, after = saveThreadSettings tables settings) ∨
      ∃ threadId sourceSeq totals ingested,
        after = saveCodexCursor ingested threadId artifact.path sourceSeq totals ∧
        (ingested = tables ∨ ∃ contribution, contribution.sourceRef = threadId ∧
          ingestInto tables contribution = .ok (ingested, outcome)) := by
  cases processCodexEvent_takes hd with
  | settings => exact .inr (.inl ⟨_, rfl⟩)
  | stale => exact .inl rfl
  | @withheld threadId _ sourceSeq _ totals | @unchanged threadId _ sourceSeq _ totals =>
    exact .inr (.inr ⟨_, _, _, _, rfl, .inl rfl⟩)
  | @counted threadId _ sourceSeq _ totals _ _ contribution ingested _ _ _ _ row hd =>
    exact .inr (.inr ⟨_, _, _, _, rfl,
      .inr ⟨_, row.sourceRef, hd⟩⟩)

end

section

variable {scanner : Scanner} {artifact : Artifact} {tables after : UsageTables}

def threadRows (db : Ledger) (threadId : String) : List Contribution :=
  (db.messages.map Prod.snd).filter fun row => row.sourceRef = threadId && row.sourceSeq.isSome

def baselineCursor (path : List String) (db : Ledger) (threadId : String) : Option CodexCursor :=
  ((threadRows db threadId).filterMap Contribution.sourceSeq).max?.map fun lastSeq =>
    ⟨path, lastSeq, baselineTotals (threadRows db threadId)⟩

theorem baseline_eq (path : List String) (tables : UsageTables) (threadId : String) :
    ensureCodexCursorBaseline path tables threadId = { tables with
        codexCursors := Function.update tables.codexCursors threadId
          ((tables.codexCursors threadId).or (baselineCursor path tables.ledger threadId)) } := by
  unfold ensureCodexCursorBaseline
  cases cursor : tables.codexCursors threadId with
  | some =>
    rw [some_or, ← cursor, update_eq_self, cursor]
  | none =>
    rw [none_or, baselineCursor, threadRows]
    dsimp only
    split
    · rename_i empty
      rw [empty, map_none, ← cursor, update_eq_self]
    · rename_i newest
      rw [newest]
      rfl

theorem baselines_eq (path : List String) (threadIds : List String) (tables : UsageTables) :
    threadIds.foldl (ensureCodexCursorBaseline path) tables = { tables with
        codexCursors := fun threadId => (tables.codexCursors threadId).or
          (if threadId ∈ threadIds then baselineCursor path tables.ledger threadId else none) } := by
  induction threadIds generalizing tables with
  | nil => simp
  | cons first _ ih =>
    rw [foldl_cons, baseline_eq, ih]
    congr
    funext threadId
    by_cases hs : threadId = first
    · subst hs
      dsimp only
      rw [update_self, Option.or_assoc]
      split <;> simp
    · simp [hs]

/-- Every row that was counted from cumulative totals has the cursor of its thread. -/
def Cursored (tables : UsageTables) : Prop :=
  ∀ row ∈ tables.ledger.messages, row.2.sourceSeq ≠ none →
    (tables.codexCursors row.2.sourceRef).isSome

theorem cursored_fresh (burnSamples : List BurnSample) :
    Cursored (UsageStore.fresh burnSamples).tables := by
  intro _ hm
  simp [UsageStore.fresh, Ledger.empty] at hm

theorem Cursored.threadRows_eq_nil (held : Cursored tables) {threadId : String}
    (lost : tables.codexCursors threadId = none) : threadRows tables.ledger threadId = [] := by
  rw [threadRows, filter_eq_nil_iff]
  intro _ hm counted
  obtain ⟨hst, hk, rfl⟩ := mem_map.mp hm
  simp only [Bool.and_eq_true, decide_eq_true_eq] at counted
  have present := held hst hk (isSome_iff_ne_none.mp counted.2)
  rw [counted.1, lost] at present
  cases present

theorem Cursored.baselines (held : Cursored tables) (artifact : Artifact) :
    ensureCodexCursorBaselines artifact tables = tables := by
  unfold ensureCodexCursorBaselines
  split
  · rw [baselines_eq]
    congr
    funext threadId
    cases cursor : tables.codexCursors threadId with
    | some => rfl
    | none => simp [baselineCursor, held.threadRows_eq_nil cursor]
  · rfl

variable {outcome : Option IngestOutcome}

theorem Cursored.resolve (held : Cursored tables)
    (hd : resolveClaudeContribution scanner tables parsed = .ok (after, outcome)) :
    Cursored after := by
  rcases resolveClaudeContribution_cases hd with rfl | ⟨_, unnumbered, ingest⟩
  · exact held
  · obtain ⟨cursors, rows⟩ := ingestInto_ledger ingest
    intro row hm numbered
    rw [cursors]
    rcases rows row hm with hk | new
    · exact held row hk numbered
    · rw [new, unnumbered] at numbered
      exact absurd rfl numbered

theorem Cursored.process (held : Cursored tables)
    (hd : processCodexEvent scanner tables artifact projectKey event = .ok (after, outcome)) :
    Cursored after := by
  rcases processCodexEvent_cases hd with rfl | ⟨_, rfl⟩ |
    ⟨threadId, sourceSeq, totals, ingested, rfl, source⟩
  · exact held
  · exact held
  · intro row hm numbered
    by_cases here : row.2.sourceRef = threadId
    · simp [saveCodexCursor, here]
    · have other : (saveCodexCursor ingested threadId artifact.path sourceSeq totals).codexCursors
          row.2.sourceRef = ingested.codexCursors row.2.sourceRef :=
        update_of_ne here _ _
      rw [other]
      rcases source with rfl | ⟨_, thread, ingest⟩
      · exact held row hm numbered
      · obtain ⟨cursors, rows⟩ := ingestInto_ledger ingest
        rw [cursors]
        rcases rows row hm with hk | new
        · exact held row hk numbered
        · rw [new] at here
          exact absurd thread here

theorem Cursored.line {line : List UInt8} (held : Cursored tables)
    (hd : processLine scanner artifact projectKey position line tables = .ok (after, outcome)) :
    Cursored after := by
  unfold processLine at hd
  split at hd
  · split at hd
    · cases hd
    · cases hd
      exact held
    · exact held.resolve hd
  · split at hd
    · split at hd
      · cases hd
      · cases hd
        exact held
      · exact held.process hd
    · cases hd
      exact held

end

section

variable (scanner : Scanner) (artifact : Artifact)

/-- The thread of a token event has a seat with known metadata. -/
def Seated : CodexEvent → Prop
  | .settings _ _ _ _ => True
  | .cumulative threadId _ _ _ _ =>
    (scanner.seatMeta (codexSeatId scanner artifact threadId)).isSome

/-- What was there when a scan ran names the same project as the full content, or no token event in
it needed a project from the artifact. -/
def ProjectSettled (content bytes : List UInt8) : Prop :=
  artifactProjectKey scanner artifact bytes = artifactProjectKey scanner artifact content ∨
    ∀ line ∈ LineLog.lines newline bytes, ∀ position event,
      parseCodexLine scanner.host line (lineSeq position) artifact.providerSessionIds.head? =
        .ok (some event) → Seated scanner artifact event

variable {scanner artifact}

theorem processCodexEvent_of_seated (seated : Seated scanner artifact event)
    (tables : UsageTables) (first second : Option String) :
    processCodexEvent scanner tables artifact first event =
      processCodexEvent scanner tables artifact second event := by
  cases event with
  | settings => rfl
  | cumulative threadId =>
    obtain ⟨_, hf⟩ := isSome_iff_exists.mp seated
    have hs : codexProjectKey scanner artifact first threadId =
        codexProjectKey scanner artifact second threadId := by
      simp [codexProjectKey, hf]
    simp only [processCodexEvent, hs]

theorem ProjectSettled.processLine_eq {content bytes : List UInt8}
    (hse : ProjectSettled scanner artifact content bytes) {line : List UInt8}
    (hm : line ∈ LineLog.lines newline bytes) (position : Nat) (tables : UsageTables) :
    processLine scanner artifact (artifactProjectKey scanner artifact bytes) position line tables =
      processLine scanner artifact (artifactProjectKey scanner artifact content) position line
        tables := by
  rcases hse with hs | seated
  · rw [hs]
  · unfold processLine
    split
    · rfl
    split
    · split
      · rfl
      · rfl
      · rename_i _ parsed
        exact processCodexEvent_of_seated (seated _ hm _ _ parsed) _ _ _
    · rfl

end

section

variable {scanner : Scanner} {artifact : Artifact} {openFrom : Int}

theorem earliest_append (first second : List (List UInt8)) (position : Nat)
    (earliest : Option Int) :
    earliestMessageAtOrAfter scanner artifact openFrom (first ++ second) position earliest =
      match earliestMessageAtOrAfter scanner artifact openFrom first position earliest with
      | .error reason => .error reason
      | .ok next => earliestMessageAtOrAfter scanner artifact openFrom second
          (position + first.flatten.length) next := by
  induction first generalizing position earliest with
  | nil => simp [earliestMessageAtOrAfter]
  | cons line _ ih =>
    rw [cons_append, earliestMessageAtOrAfter, earliestMessageAtOrAfter]
    cases lineTimestamp scanner artifact position line with
    | error => rfl
    | ok => simp [ih, Nat.add_assoc]

theorem earliest_ok {read : List (List UInt8)} {earliest found : Option Int}
    (hd : earliestMessageAtOrAfter scanner artifact openFrom read position earliest = .ok found)
    (other : Option Int) :
    ∃ found, earliestMessageAtOrAfter scanner artifact openFrom read position other =
      .ok found := by
  induction read generalizing position earliest other with
  | nil => exact ⟨_, rfl⟩
  | cons line _ ih =>
    rw [earliestMessageAtOrAfter] at hd ⊢
    cases stamped : lineTimestamp scanner artifact position line with
    | error => simp [stamped] at hd
    | ok =>
      rw [stamped] at hd
      exact ih hd _

theorem readLines_resume (bytes : List UInt8) (count : Nat) :
    readLines bytes = (LineLog.lines newline bytes).take count ++
      readLines (bytes.drop ((LineLog.lines newline bytes).take count).flatten.length) := by
  have joined := take_append_drop count (LineLog.lines newline bytes)
  have tail : (bytes.drop ((LineLog.lines newline bytes).take count).flatten.length).drop
        ((LineLog.lines newline bytes).drop count).flatten.length =
      bytes.drop (LineLog.lines newline bytes).flatten.length := by
    rw [drop_drop, ← length_append, ← flatten_append, joined]
  unfold readLines
  rw [lines_drop]
  simp only [tail]
  split
  · exact joined.symm
  · rw [← append_assoc, joined]

theorem ensureBootstrap_resume {bytes : List UInt8} (count : Nat)
    (hd : ensureBootstrapForArtifact scanner artifact bytes 0 = .ok ()) :
    ensureBootstrapForArtifact scanner artifact bytes
      ((LineLog.lines newline bytes).take count).flatten.length = .ok () := by
  unfold ensureBootstrapForArtifact at hd ⊢
  rw [drop_zero, readLines_resume _ count, earliest_append] at hd
  cases before : earliestMessageAtOrAfter scanner artifact scanner.openFrom
      ((LineLog.lines newline bytes).take count) 0 none with
  | error => simp [before, Except.map] at hd
  | ok next =>
    simp only [before, Nat.zero_add] at hd
    cases rest : earliestMessageAtOrAfter scanner artifact scanner.openFrom
        (readLines (bytes.drop ((LineLog.lines newline bytes).take count).flatten.length))
        ((LineLog.lines newline bytes).take count).flatten.length next with
    | error =>
      rw [rest] at hd
      cases hd
    | ok =>
      obtain ⟨_, ok⟩ := earliest_ok rest none
      rw [ok]
      rfl

end

section

variable (scanner : Scanner) (artifact : Artifact)

/-- The stores that scans of ever longer prefixes of the content can leave behind. A scan leaves the
store as it was or as one of its commits made it: it was cut short there, or ended there. -/
inductive Scanned (content : List UInt8) (allowed : List UInt8 → Prop) (fresh : UsageStore) :
    List UInt8 → UsageStore → Prop
  | fresh : Scanned content allowed fresh [] fresh
  | scan {seen : List UInt8} {store after : UsageStore} (file : TranscriptFile) :
      Scanned content allowed fresh seen store → seen <+: file.bytes → file.bytes <+: content →
      allowed file.bytes →
      after ∈ store :: (scanArtifact scanner artifact (some file) store).commits →
      Scanned content allowed fresh file.bytes after

/-- How one scan of the full content takes a line. -/
abbrev takeLine (content : List UInt8) :=
  processLine scanner artifact (artifactProjectKey scanner artifact content)

/-- The store has taken whole lines of what it has seen and saved the offset, if it has committed
at all. -/
structure Resumable (content : List UInt8) (fresh : UsageStore) (seen : List UInt8)
    (store : UsageStore) (position : Nat) : Prop where
  saved : LineLog.Saved newline (takeLine scanner artifact content) fresh.tables seen
    (position, store.tables)
  offsets : store.scanOffsets = fresh.scanOffsets ∧ position = 0 ∨ ∃ mtimeNs,
    store.scanOffsets = Function.update fresh.scanOffsets artifact.path (some ⟨position, mtimeNs⟩)

variable {scanner artifact} {content seen : List UInt8} {burnSamples : List BurnSample}
  {store : UsageStore} {position : Nat}

theorem takeLine_keeps (content : List UInt8) : ∀ position line tables after outcome,
    Cursored tables → takeLine scanner artifact content position line tables = .ok (after, outcome) →
      Cursored after :=
  fun _ _ _ _ _ held hd => held.line hd

variable {file : TranscriptFile} {after : UsageStore}

section

variable (here : Resumable scanner artifact content (.fresh burnSamples) seen store position)
include here

theorem Resumable.savedPosition_eq (grows : seen <+: file.bytes) :
    savedPosition artifact store file = position := by
  have bound : position ≤ file.bytes.length := here.saved.position_le.trans grows.length_le
  unfold savedPosition
  rcases here.offsets with ⟨none, rfl⟩ | ⟨_, some⟩
  · simp [none, UsageStore.fresh]
  · simp [some, Option.filter, bound]

theorem Resumable.cursored : Cursored store.tables :=
  here.saved.inv_state (takeLine_keeps _) (cursored_fresh _)

theorem Resumable.scanPass_eq (file : TranscriptFile)
    (hse : ProjectSettled scanner artifact content file.bytes) (grows : seen <+: file.bytes) :
    scanPass scanner artifact file position store.tables =
      LineLog.pass (ensureCodexCursorBaselines artifact) (takeLine scanner artifact content)
        ledgerWriteBatchSize (LineLog.lines newline (file.bytes.drop position)) 0 position
        store.tables := by
  unfold scanPass
  rw [here.cursored.baselines]
  apply pass_congr
  intro _ hm offset _
  obtain ⟨_, -, place, -⟩ := here.saved.grow grows
  dsimp only at place
  rw [place, lines_drop] at hm
  exact hse.processLine_eq (mem_of_mem_drop hm) offset _

end

theorem scanArtifact_commits
    (hm : after ∈ (scanArtifact scanner artifact (some file) store).commits) :
    ∃ saved ∈ (scanPass scanner artifact file (savedPosition artifact store file)
        store.tables).commits,
      after = saveScanOffset artifact store file.mtimeNs saved := by
  unfold scanArtifact at hm
  dsimp only at hm
  split at hm
  · cases hm
  · split at hm
    · cases hm
    · obtain ⟨saved, committed, rfl⟩ := mem_map.mp hm
      exact ⟨_, committed, rfl⟩

theorem Resumable.commit
    (here : Resumable scanner artifact content (.fresh burnSamples) seen store position)
    (grows : seen <+: file.bytes)
    (hse : ProjectSettled scanner artifact content file.bytes)
    (hm : after ∈ (scanArtifact scanner artifact (some file) store).commits) :
    ∃ position, Resumable scanner artifact content (.fresh burnSamples) file.bytes after
      position := by
  obtain ⟨saved, committed, rfl⟩ := scanArtifact_commits hm
  rw [here.savedPosition_eq grows, here.scanPass_eq _ hse grows] at committed
  refine ⟨saved.1, ?_, .inr ⟨file.mtimeNs, ?_⟩⟩
  · exact (here.saved.grow grows).pass (takeLine_keeps _)
      (fun _ held => held.baselines _) (cursored_fresh _) _ committed
  · rcases here.offsets with ⟨none, -⟩ | ⟨_, some⟩
    · rw [saveScanOffset, none]
    · rw [saveScanOffset, some, update_idem]

theorem Scanned.resumable
    (run : Scanned scanner artifact content (ProjectSettled scanner artifact content)
      (.fresh burnSamples) seen store) :
    ∃ position, Resumable scanner artifact content (.fresh burnSamples) seen store position := by
  induction run with
  | fresh => exact ⟨0, .start _ _ _ _, .inl ⟨rfl, rfl⟩⟩
  | scan _ _ grows _ hse hm ih =>
    obtain ⟨position, here⟩ := ih
    rcases mem_cons.mp hm with rfl | committed
    · exact ⟨_, here.saved.grow grows, here.offsets⟩
    · exact here.commit grows hse committed

theorem Scanned.seen_of_content {first : UsageStore}
    (run : Scanned scanner artifact content allowed first seen store) : seen <+: content := by
  cases run with
  | fresh => exact nil_prefix
  | scan _ _ _ hwi => exact hwi

theorem resumable_fresh (content : List UInt8) (burnSamples : List BurnSample) :
    Resumable scanner artifact content (.fresh burnSamples) [] (.fresh burnSamples) 0 :=
  ⟨.start _ _ _ _, .inl ⟨rfl, rfl⟩⟩

/-- A scan of the full content ends in the same store, whatever it resumes from. -/
theorem Resumable.scan_content
    (here : Resumable scanner artifact content (.fresh burnSamples) seen store position)
    (hwi : seen <+: content) {final : UsageTables} (mtimeNs : Int)
    (bootstrap : ensureBootstrapForArtifact scanner artifact content 0 = .ok ())
    (hd : LineLog.consume (takeLine scanner artifact content) (LineLog.lines newline content) 0
      (UsageStore.fresh burnSamples).tables = .ok final) :
    (∃ summary, (scanArtifact scanner artifact (some ⟨content, mtimeNs⟩) store).result =
        .ok summary) ∧
      (scanArtifact scanner artifact (some ⟨content, mtimeNs⟩) store).final store =
        saveScanOffset artifact (.fresh burnSamples) mtimeNs
          ((LineLog.lines newline content).flatten.length, final) := by
  have grown := here.saved.grow hwi
  have start : savedPosition artifact store ⟨content, mtimeNs⟩ = position :=
    here.savedPosition_eq hwi
  have hs := here.scanPass_eq ⟨_, mtimeNs⟩ (.inl rfl) hwi
  obtain ⟨⟨_, hen⟩, last⟩ := grown.complete (takeLine_keeps _)
    (fun _ held => held.baselines artifact) (cursored_fresh _)
    ledgerWriteBatchSize hd
  unfold scanArtifact Scan.final
  simp only [start]
  split
  · -- Nothing new since the last commit: the offset is at the end of the content.
    rename_i hun
    obtain ⟨atEnd, stamped⟩ := hun
    refine ⟨⟨_, rfl⟩, ?_⟩
    rw [atEnd] at last
    have hr : (content.length, store.tables) =
        ((LineLog.lines newline content).flatten.length, final) := by
      simpa [LineLog.lines, LineLog.pass] using last
    rw [← hr]
    rcases here.offsets with ⟨none, -⟩ | ⟨saved, some⟩
    · simp [none, UsageStore.fresh] at stamped
    · have stamp : saved = mtimeNs := by simpa [some] using stamped
      cases store
      simp only [getLast?_nil, getD_none, saveScanOffset, UsageStore.mk.injEq, true_and]
      rw [← stamp, ← atEnd]
      exact some
  · obtain ⟨count, -, place, -⟩ := grown
    have hrd := ensureBootstrap_resume count bootstrap
    rw [← place] at hrd
    simp only [hrd, hs]
    refine ⟨⟨_, by rw [hen]; rfl⟩, ?_⟩
    rw [getLast?_map, last]
    rcases here.offsets with ⟨none, -⟩ | ⟨saved, some⟩
    · simp [saveScanOffset, none]
    · simp [saveScanOffset, some]

theorem consume_of_scan {mtimeNs : Int} {summary : ScanSummary}
    (readable : (scanArtifact scanner artifact (some ⟨content, mtimeNs⟩)
      (.fresh burnSamples)).result = .ok summary) :
    ensureBootstrapForArtifact scanner artifact content 0 = .ok () ∧
      ∃ final, LineLog.consume (takeLine scanner artifact content) (LineLog.lines newline content) 0
        (UsageStore.fresh burnSamples).tables = .ok final := by
  have hfr : Resumable scanner artifact content (.fresh burnSamples) [] (.fresh burnSamples) 0 :=
    resumable_fresh _ _
  have start : savedPosition artifact (.fresh burnSamples) ⟨content, mtimeNs⟩ = 0 :=
    hfr.savedPosition_eq nil_prefix
  have hs := hfr.scanPass_eq ⟨_, mtimeNs⟩ (.inl rfl) nil_prefix
  unfold scanArtifact at readable
  simp only [start] at readable
  rw [drop_zero] at hs
  split at readable
  · rename_i hun
    simp [UsageStore.fresh] at hun
  cases bootstrap : ensureBootstrapForArtifact scanner artifact content 0 with
  | error => simp [bootstrap] at readable
  | ok =>
    refine ⟨rfl, ?_⟩
    simp only [bootstrap, hs] at readable
    cases hen : (LineLog.pass (ensureCodexCursorBaselines artifact)
        (takeLine scanner artifact content) ledgerWriteBatchSize
        (LineLog.lines newline content) 0 0
        (UsageStore.fresh burnSamples).tables).result with
    | error =>
      rw [hen] at readable
      cases readable
    | ok =>
      exact consume_of_pass _ (fun _ held => held.baselines _)
        (takeLine_keeps _) (cursored_fresh _) hen

/-- If one scan of the full content on a fresh store succeeds, then after any run of scans of
growing prefixes, cut short anywhere, in each of which the artifact's project was settled, a scan of
the full content succeeds and leaves the same store. -/
theorem incremental_scan_eq_one_shot {mtimeNs : Int} {summary : ScanSummary}
    (run : Scanned scanner artifact content (ProjectSettled scanner artifact content)
      (.fresh burnSamples) seen store)
    (readable : (scanArtifact scanner artifact (some ⟨content, mtimeNs⟩)
      (.fresh burnSamples)).result = .ok summary) :
    (∃ summary, (scanArtifact scanner artifact (some ⟨content, mtimeNs⟩) store).result =
        .ok summary) ∧
      (scanArtifact scanner artifact (some ⟨content, mtimeNs⟩) store).final store =
        (scanArtifact scanner artifact (some ⟨content, mtimeNs⟩) (.fresh burnSamples)).final
          (.fresh burnSamples) := by
  obtain ⟨position, here⟩ := run.resumable
  obtain ⟨bootstrap, final, done⟩ := consume_of_scan readable
  have once := (resumable_fresh content burnSamples).scan_content nil_prefix mtimeNs bootstrap done
  have resumed := here.scan_content run.seen_of_content mtimeNs bootstrap done
  exact ⟨resumed.1, resumed.2.trans once.2.symm⟩

end

section

def tokenLine : List UInt8 :=
  ("\x7b\"type\":\"tokenUsage/updated\",\"ts\":\"2026-01-02T00:00:00Z\"," ++
    "\"tokenUsage\":\x7b\"total\":\x7b\"inputTokens\":7,\"totalTokens\":7\x7d\x7d\x7d\n").toList.map
      Char.toUInt8

def cwdLine : List UInt8 := "\x7b\"cwd\":\"/repo\"\x7d\n".toList.map Char.toUInt8

/-- A host that reads two lines: a token event and a line that names the working directory. -/
def sampleHost : Host :=
  { januaryHost with
    fromSlice line :=
      if stripTerminator line = stripTerminator tokenLine then
        some (.obj [("type", .str "tokenUsage/updated"), ("ts", .str "2026-01-02T00:00:00Z"),
          ("tokenUsage", .obj [("total", .obj [("inputTokens", .int 7), ("totalTokens", .int 7)])])])
      else if stripTerminator line = stripTerminator cwdLine then some (.obj [("cwd", .str "/repo")])
      else none }

def sampleScanner : Scanner where
  host := sampleHost
  defaults := ⟨none, none, none⟩
  seatBySource _ _ := none
  seatMeta _ := none
  accountTimeline := [⟨"codex", "codex:a", januaryHost.formatTimestamp (january 1), none⟩]
  openFrom := january 1
  creditMetered _ _ _ := .ok false

def sampleArtifact : Artifact := ⟨"codex", ["rollout.jsonl"], ["thread"]⟩

def scannedPart (part : List UInt8) : UsageStore :=
  (scanArtifact sampleScanner sampleArtifact (some ⟨part, 0⟩) (.fresh [])).final (.fresh [])

def storedProjects (store : UsageStore) : List String :=
  store.tables.ledger.messages.map fun row => row.2.projectKey

theorem Scan.final_mem (scan : Scan) (store : UsageStore) :
    scan.final store ∈ store :: scan.commits := by
  unfold Scan.final
  cases last : scan.commits.getLast? with
  | none => exact mem_cons_self
  | some => exact mem_cons_of_mem _ (mem_of_getLast? last)

theorem scanned_part (part rest : List UInt8) (fine : allowed part) :
    Scanned sampleScanner sampleArtifact (part ++ rest) allowed (.fresh []) part
      (scannedPart part) :=
  .scan ⟨part, 0⟩ .fresh nil_prefix (prefix_append _ _) fine (Scan.final_mem _ _)

theorem cwd_first_scan_eq_one_shot :
    (scanArtifact sampleScanner sampleArtifact (some ⟨cwdLine ++ tokenLine, 1⟩)
        (scannedPart cwdLine)).final (scannedPart cwdLine) =
      (scanArtifact sampleScanner sampleArtifact (some ⟨cwdLine ++ tokenLine, 1⟩)
        (.fresh [])).final (.fresh []) := by
  have settled : ProjectSettled sampleScanner sampleArtifact (cwdLine ++ tokenLine) cwdLine :=
    .inl (by decide +kernel)
  have readable : (scanArtifact sampleScanner sampleArtifact (some ⟨cwdLine ++ tokenLine, 1⟩)
      (.fresh [])).result = .ok ⟨1, 1, 0, 0⟩ := by decide +kernel
  exact (incremental_scan_eq_one_shot (scanned_part cwdLine tokenLine settled) readable).2

/-- A token event that is scanned before the line with the working directory is there keeps the
project `unassigned`; one scan of both lines gives it the project of the directory. -/
theorem project_key_depends_on_scan_times :
    Scanned sampleScanner sampleArtifact (tokenLine ++ cwdLine) (fun _ => True) (.fresh [])
        tokenLine (scannedPart tokenLine) ∧
      (scanArtifact sampleScanner sampleArtifact (some ⟨tokenLine ++ cwdLine, 1⟩)
          (scannedPart tokenLine)).final (scannedPart tokenLine) ≠
        (scanArtifact sampleScanner sampleArtifact (some ⟨tokenLine ++ cwdLine, 1⟩)
          (.fresh [])).final (.fresh []) := by
  refine ⟨scanned_part tokenLine cwdLine trivial, ?_⟩
  intro same
  have projects := congrArg storedProjects same
  have early : storedProjects ((scanArtifact sampleScanner sampleArtifact
      (some ⟨tokenLine ++ cwdLine, 1⟩) (scannedPart tokenLine)).final (scannedPart tokenLine)) =
      ["unassigned"] := by decide +kernel
  have once : storedProjects ((scanArtifact sampleScanner sampleArtifact
      (some ⟨tokenLine ++ cwdLine, 1⟩) (.fresh [])).final (.fresh [])) = ["/repo"] := by
    decide +kernel
  rw [early, once] at projects
  exact absurd projects (by decide)

end

end SessionManager.Usage
