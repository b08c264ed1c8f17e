import SessionManager.Foundation.LineLog
import SessionManager.Usage.Transcript

/-! The incremental scan of one transcript. The file grows between scans; a scan starts at the saved
byte offset, takes the terminated lines in batches of one transaction each and saves the offset with
every commit. The account timeline, the burn windows and the verdicts on credit metering stay fixed
while a transcript is scanned, so recording rate limits and bootstrapping the timeline are left out,
apart from the reading of the remaining lines that the bootstrap begins with. -/
namespace SessionManager.Usage
open Foundation

structure TimelineRow where
  provider : String
  accountKey : String
  fromTs : String
  toTs : Option String

structure Artifact where
  provider : String
  path : List String
  providerSessionIds : List String

def isCodex (provider : String) : Bool := provider = "codex" || provider = "codex-fork"

/-- What a scan reads and does not change. -/
structure Scanner where
  host : Host
  defaults : ModelDefaults
  seatBySource : (provider source : String) → Option String
  seatMeta : String → Option UsageSeatMetadata
  accountTimeline : List TimelineRow
  openFrom : Int
  creditMetered : (accountKey model : String) → (timestamp : Int) → Except String Bool

structure ThreadSettings where
  threadId : String
  sourceSeq : Int
  model : String
  effort : Option String
  deriving DecidableEq, Repr

structure UsageTables where
  ledger : Ledger
  codexCursors : String → Option CodexCursor
  threadSettings : List ThreadSettings

section

variable (scanner : Scanner)

def accountAt (provider : String) (timestamp : Int) : Option String :=
  let text := scanner.host.formatTimestamp timestamp
  let covering := scanner.accountTimeline.filter fun row =>
    row.provider = provider && row.fromTs ≤ text && row.toTs.all fun toTs => text < toTs
  ((covering.insertionSort fun first second => second.fromTs ≤ first.fromTs).head?).map
    TimelineRow.accountKey

def predatesFirstAccountInterval (provider : String) (timestamp : Int) : Except String Bool :=
  let starts := (scanner.accountTimeline.filter fun row => row.provider = provider).map
    TimelineRow.fromTs
  match (starts.insertionSort (· ≤ ·)).head? with
  | none => .ok false
  | some first =>
    match scanner.host.parseRfc3339 first with
    | none => .error s!"invalid usage ledger timestamp {first}"
    | some firstFrom => .ok (timestamp < firstFrom)

def minuteTimestamp (timestamp : Int) : String :=
  scanner.host.formatTimestamp (timestamp - timestamp % 60000000000)

variable (tables : UsageTables)

def ingestInto (contribution : Contribution) : Except String (UsageTables × Option IngestOutcome) :=
  match ingestContribution tables.ledger contribution with
  | none => .error "Query returned no rows"
  | some (ledger, outcome) => .ok ({ tables with ledger := ledger }, some outcome)

def resolveClaudeContribution (parsed : ParsedMessage) :
    Except String (UsageTables × Option IngestOutcome) :=
  match accountAt scanner "claude" parsed.timestamp with
  | none => do
    if ← predatesFirstAccountInterval scanner "claude" parsed.timestamp then pure (tables, none)
    else
      let messageId := parsed.messageId
      .error s!"Claude message {messageId} has no account timeline attribution"
  | some accountKey => do
    let seatId := (scanner.seatBySource "claude" parsed.sourceRef).getD "unassigned"
    let projectKey := ((scanner.seatMeta seatId).map UsageSeatMetadata.projectKey).getD
      (scanner.host.resolveProjectKey parsed.cwd)
    let creditMetered ← scanner.creditMetered accountKey parsed.model parsed.timestamp
    ingestInto tables
      { messageId := parsed.messageId
        requestId := parsed.requestId
        isSidechain := parsed.isSidechain
        hasSpeed := parsed.hasSpeed
        totalTokens := parsed.tokens.totalWrapping
        seatId, accountKey, projectKey
        sourceRef := parsed.sourceRef
        sourceSeq := none
        bucketTs := minuteTimestamp scanner parsed.timestamp
        recordedAt := scanner.host.formatTimestamp parsed.timestamp
        model := parsed.model
        effort := none
        tokens := parsed.tokens
        creditMetered }

def saveThreadSettings (settings : ThreadSettings) : UsageTables :=
  { tables with threadSettings := settings :: tables.threadSettings.filter fun row =>
      !(row.threadId = settings.threadId && row.sourceSeq = settings.sourceSeq) }

def saveCodexCursor (threadId : String) (path : List String) (sourceSeq : Int)
    (totals : CodexTotals) : UsageTables :=
  { tables with
    codexCursors := Function.update tables.codexCursors threadId (some ⟨path, sourceSeq, totals⟩) }

/-- The settings of a thread that are in force at a sequence number. -/
def codexSettingsAt (threadId : String) (sourceSeq : Int) : Option ThreadSettings :=
  let earlier := tables.threadSettings.filter fun row =>
    row.threadId = threadId && row.sourceSeq ≤ sourceSeq
  (earlier.insertionSort fun first second => second.sourceSeq ≤ first.sourceSeq).head?

variable (artifact : Artifact)

def codexSeatId (threadId : String) : String :=
  ((scanner.seatBySource artifact.provider threadId).or
    (artifact.providerSessionIds.findSome? (scanner.seatBySource artifact.provider))).getD
      "unassigned"

def codexModel (threadId : String) (sourceSeq : Int) : String :=
  let seat := scanner.seatMeta (codexSeatId scanner artifact threadId)
  (((codexSettingsAt tables threadId sourceSeq).map ThreadSettings.model).or
    ((seat.bind fun seat => normalizedModel seat.model).or
      (scanner.defaults.defaultModel artifact.provider))).getD "unknown"

def codexEffort (threadId : String) (sourceSeq : Int) : Option String :=
  ((codexSettingsAt tables threadId sourceSeq).bind ThreadSettings.effort).or
    ((scanner.seatMeta (codexSeatId scanner artifact threadId)).bind UsageSeatMetadata.effort)

def codexProjectKey (artifactProjectKey : Option String) (threadId : String) : String :=
  (((scanner.seatMeta (codexSeatId scanner artifact threadId)).map
    UsageSeatMetadata.projectKey).or artifactProjectKey).getD "unassigned"

def processCodexEvent (artifactProjectKey : Option String) :
    CodexEvent → Except String (UsageTables × Option IngestOutcome)
  | .settings threadId sourceSeq model effort =>
    .ok (saveThreadSettings tables ⟨threadId, sourceSeq, model, effort⟩, none)
  | .cumulative threadId turnId sourceSeq timestamp totals =>
    let previous := tables.codexCursors threadId
    if previous.any fun cursor => sourceSeq ≤ cursor.lastSeq then .ok (tables, some .ignored)
    else do
      let tokens ← totals.deltaWrapping previous
      match accountAt scanner "codex" timestamp with
      | none =>
        if ← predatesFirstAccountInterval scanner "codex" timestamp then
          pure (saveCodexCursor tables threadId artifact.path sourceSeq totals, some .ignored)
        else
          .error s!"Codex token event {threadId}:{sourceSeq} has no account timeline attribution"
      | some accountKey =>
        let model := codexModel scanner tables artifact threadId sourceSeq
        let creditMetered ← scanner.creditMetered accountKey model timestamp
        let contribution : Contribution :=
          { messageId := s!"codex:{threadId}:{sourceSeq}"
            requestId := turnId
            isSidechain := false
            hasSpeed := false
            totalTokens := tokens.totalWrapping
            seatId := codexSeatId scanner artifact threadId
            accountKey
            projectKey := codexProjectKey scanner artifact artifactProjectKey threadId
            sourceRef := threadId
            sourceSeq := some sourceSeq
            bucketTs := minuteTimestamp scanner timestamp
            recordedAt := scanner.host.formatTimestamp timestamp
            model
            effort := codexEffort scanner tables artifact threadId sourceSeq
            tokens
            creditMetered }
        let (ingested, outcome) ←
          if contribution.totalTokens = 0 then pure (tables, some .ignored)
          else ingestInto tables contribution
        pure (saveCodexCursor ingested threadId artifact.path sourceSeq totals, outcome)

end

section

/-- The cumulative totals that the rows of a thread add up to; the sums are taken to fit. -/
def baselineTotals (rows : List Contribution) : CodexTotals :=
  let sum (column : Contribution → Int) := (rows.map column).sum
  { input := sum fun row => row.tokens.input + row.tokens.cacheRead + row.tokens.cacheWrite5m +
      row.tokens.cacheWrite1h
    cachedInput := sum fun row => row.tokens.cacheRead
    cacheWrite := sum fun row => row.tokens.cacheWrite5m + row.tokens.cacheWrite1h
    output := sum fun row => row.tokens.output
    reasoning := sum fun row => row.tokens.reasoning
    total := sum fun row => row.totalTokens }

def ensureCodexCursorBaseline (path : List String) (tables : UsageTables) (threadId : String) :
    UsageTables :=
  match tables.codexCursors threadId with
  | some _ => tables
  | none =>
    let rows := (tables.ledger.messages.map Prod.snd).filter fun row =>
      row.sourceRef = threadId && row.sourceSeq.isSome
    match (rows.filterMap Contribution.sourceSeq).max? with
    | none => tables
    | some lastSeq => saveCodexCursor tables threadId path lastSeq (baselineTotals rows)

def ensureCodexCursorBaselines (artifact : Artifact) (tables : UsageTables) : UsageTables :=
  if isCodex artifact.provider then
    artifact.providerSessionIds.foldl (ensureCodexCursorBaseline artifact.path) tables
  else tables

end

section

def newline : UInt8 := 10

def ledgerWriteBatchSize : Nat := 16

def lineSeq (position : Nat) : Int := if position < 2 ^ 63 then position else 2 ^ 63 - 1

/-- All lines from the start, the unterminated one at the end included. -/
def readLines (bytes : List UInt8) : List (List UInt8) :=
  let whole := LineLog.lines newline bytes
  let tail := bytes.drop whole.flatten.length
  if tail = [] then whole else whole ++ [tail]

def stripTerminator (line : List UInt8) : List UInt8 :=
  let text := if line.getLast? = some newline then line.dropLast else line
  if text.getLast? = some 13 then text.dropLast else text

variable (scanner : Scanner) (artifact : Artifact)

/-- The project of the first working directory named in the first hundred lines. -/
def codexArtifactProjectKey (bytes : List UInt8) : Option String :=
  (((readLines bytes).take 100).findSome? fun line =>
    (scanner.host.fromSlice (stripTerminator line)).bind codexCwd).map
      scanner.host.resolveProjectKey

def artifactProjectKey (bytes : List UInt8) : Option String :=
  if isCodex artifact.provider then codexArtifactProjectKey scanner bytes else none

def processLine (projectKey : Option String) (position : Nat) (line : List UInt8)
    (tables : UsageTables) : Except String (UsageTables × Option IngestOutcome) :=
  if artifact.provider = "claude" then
    match parseClaudeLine scanner.host line artifact.path with
    | .error reason => .error reason
    | .ok none => .ok (tables, none)
    | .ok (some parsed) => resolveClaudeContribution scanner tables parsed
  else if isCodex artifact.provider then
    match parseCodexLine scanner.host line (lineSeq position) artifact.providerSessionIds.head? with
    | .error reason => .error reason
    | .ok none => .ok (tables, none)
    | .ok (some event) => processCodexEvent scanner tables artifact projectKey event
  else .ok (tables, none)

def lineTimestamp (position : Nat) (line : List UInt8) : Except String (Option Int) :=
  if artifact.provider = "claude" then
    (parseClaudeLine scanner.host line artifact.path).map fun parsed =>
      parsed.map ParsedMessage.timestamp
  else if isCodex artifact.provider then
    (parseCodexLine scanner.host line (lineSeq position)
      artifact.providerSessionIds.head?).map fun event =>
        match event with
        | some (.cumulative _ _ _ timestamp _) => some timestamp
        | _ => none
  else .ok none

def earliestMessageAtOrAfter (openFrom : Int) :
    List (List UInt8) → (position : Nat) → Option Int → Except String (Option Int)
  | [], _, earliest => .ok earliest
  | line :: rest, position, earliest =>
    match lineTimestamp scanner artifact position line with
    | .error reason => .error reason
    | .ok timestamp =>
      let next :=
        match timestamp.filter fun timestamp => openFrom ≤ timestamp with
        | none => earliest
        | some timestamp => some (earliest.elim timestamp fun previous => min previous timestamp)
      earliestMessageAtOrAfter openFrom rest (position + line.length) next

/-- The interval that this makes sure of is part of the fixed timeline. -/
def ensureBootstrapForArtifact (bytes : List UInt8) (position : Nat) : Except String Unit :=
  (earliestMessageAtOrAfter scanner artifact scanner.openFrom (readLines (bytes.drop position))
    position none).map fun _ => ()

structure ScanOffset where
  byteOffset : Nat
  mtimeNs : Int
  deriving DecidableEq, Repr

structure UsageStore where
  tables : UsageTables
  scanOffsets : List String → Option ScanOffset

def UsageStore.fresh (burnSamples : List BurnSample) : UsageStore :=
  ⟨⟨{ Ledger.empty with burnSamples := burnSamples }, fun _ => none, []⟩, fun _ => none⟩

structure TranscriptFile where
  bytes : List UInt8
  mtimeNs : Int

structure ScanSummary where
  artifactsScanned : Nat
  messagesInserted : Nat
  messagesReplaced : Nat
  messagesIgnored : Nat
  deriving DecidableEq, Repr

def scanSummary (outcomes : List (Option IngestOutcome)) : ScanSummary :=
  ⟨1, outcomes.count (some .inserted), outcomes.count (some .replaced),
    outcomes.count (some .ignored)⟩

/-- A commit of the transaction together with the offset saved in it. -/
def saveScanOffset (store : UsageStore) (mtimeNs : Int) (saved : Nat × UsageTables) : UsageStore :=
  ⟨saved.2, Function.update store.scanOffsets artifact.path (some ⟨saved.1, mtimeNs⟩)⟩

/-- The stores that a scan commits, in order, and what it returns. -/
structure Scan where
  commits : List UsageStore
  result : Except String ScanSummary

def Scan.final (scan : Scan) (store : UsageStore) : UsageStore := scan.commits.getLast?.getD store

def savedPosition (store : UsageStore) (file : TranscriptFile) : Nat :=
  (((store.scanOffsets artifact.path).map ScanOffset.byteOffset).filter
    (· ≤ file.bytes.length)).getD 0

def scanPass (file : TranscriptFile) (position : Nat) (tables : UsageTables) :
    LineLog.Pass UsageTables String (Option IngestOutcome) :=
  LineLog.pass (ensureCodexCursorBaselines artifact)
    (processLine scanner artifact (artifactProjectKey scanner artifact file.bytes))
    ledgerWriteBatchSize (LineLog.lines newline (file.bytes.drop position)) 0 position
    (ensureCodexCursorBaselines artifact tables)

def scanArtifact (file : Option TranscriptFile) (store : UsageStore) : Scan :=
  match file with
  | none => ⟨[], .ok ⟨0, 0, 0, 0⟩⟩
  | some file =>
    let position := savedPosition artifact store file
    if position = file.bytes.length ∧ (store.scanOffsets artifact.path).any
        (fun saved => saved.mtimeNs = file.mtimeNs) then ⟨[], .ok ⟨0, 0, 0, 0⟩⟩
    else
      match ensureBootstrapForArtifact scanner artifact file.bytes position with
      | .error reason => ⟨[], .error reason⟩
      | .ok _ =>
        let pass := scanPass scanner artifact file position store.tables
        ⟨pass.commits.map (saveScanOffset artifact store file.mtimeNs), pass.result.map scanSummary⟩

end

end SessionManager.Usage
