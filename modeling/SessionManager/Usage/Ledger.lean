import Mathlib.Algebra.Group.Pi.Basic
import Mathlib.Data.List.Sort
import SessionManager.Foundation.GroupSum
import SessionManager.Foundation.SqlNumber
import SessionManager.Foundation.Text

/-! The usage database: the message ledger, its mapping to burn windows, the alias table that
recognises copies of a message, and the rolled-up seat totals. Each table is a list of its rows or
a function of its primary key. The columns `effort` and `updated_at` of the totals, and the
percentages of burn samples, are left out. Instants are the fixed-width texts the database stores.
Ids of messages and requests contain no NUL, and the digests of distinct alias contents are
distinct. -/
namespace SessionManager.Usage
open Foundation List

structure TokenBuckets where
  input : Int
  output : Int
  reasoning : Int
  cacheWrite5m : Int
  cacheWrite1h : Int
  cacheRead : Int
  deriving DecidableEq, Repr

namespace TokenBuckets

variable (buckets : TokenBuckets)

def validate : Except String Unit :=
  if [buckets.input, buckets.output, buckets.reasoning, buckets.cacheWrite5m,
      buckets.cacheWrite1h, buckets.cacheRead].any (· < 0) then
    .error "token buckets must not be negative"
  else if buckets.output < buckets.reasoning then
    .error "reasoning tokens must be a subset of output tokens"
  else .ok ()

end TokenBuckets

structure Contribution where
  messageId : String
  requestId : Option String
  isSidechain : Bool
  hasSpeed : Bool
  totalTokens : Int
  seatId : String
  accountKey : String
  projectKey : String
  sourceRef : String
  sourceSeq : Option Int
  bucketTs : String
  recordedAt : String
  model : String
  effort : Option String
  tokens : TokenBuckets
  creditMetered : Bool
  deriving DecidableEq, Repr

structure BurnSample where
  accountKey : String
  windowKind : String
  windowScope : Option String
  windowStart : String
  resetsAt : String
  deriving DecidableEq, Repr

structure BurnWindow where
  accountKey : String
  kind : String
  scope : String
  start : String
  resetsAt : String
  deriving DecidableEq, Repr

structure MessageWindow where
  kind : String
  start : String
  deriving DecidableEq, Repr

structure WindowRow where
  msgId : Nat
  window : MessageWindow
  deriving DecidableEq, Repr

/-- An absent request id and an empty one have the same digest. -/
inductive AliasKey
  | exact (messageId requestId : String)
  | loose (messageId : String)
  deriving DecidableEq, Repr

structure RollupKey where
  seatId : String
  accountKey : String
  projectKey : String
  windowKind : String
  bucketTs : String
  model : String
  creditMetered : Bool
  deriving DecidableEq, Repr

/-- The columns of the totals. -/
inductive TotalColumn
  | inputTokens
  | outputTokens
  | reasoningTokens
  | cacheWrite5m
  | cacheWrite1h
  | cacheReadTokens
  | messageCount
  deriving DecidableEq, Repr

def TotalColumn.all : List TotalColumn :=
  [.inputTokens, .outputTokens, .reasoningTokens, .cacheWrite5m, .cacheWrite1h, .cacheReadTokens,
    .messageCount]

@[simp] theorem TotalColumn.mem_all (column : TotalColumn) : column ∈ all := by
  cases column <;> decide

def Contribution.amount (value : Contribution) : TotalColumn → Int
  | .inputTokens => value.tokens.input
  | .outputTokens => value.tokens.output
  | .reasoningTokens => value.tokens.reasoning
  | .cacheWrite5m => value.tokens.cacheWrite5m
  | .cacheWrite1h => value.tokens.cacheWrite1h
  | .cacheReadTokens => value.tokens.cacheRead
  | .messageCount => 1

abbrev RollupRow := TotalColumn → SqlNumber

/-- The upsert adds column by column, and a row whose columns are all zero is deleted. -/
def rollupStorage : GroupSum.Storage (TotalColumn → Int) RollupRow where
  store total column := .integer (total column)
  plus row amount column := (row column).plus (amount column)
  isZero row := TotalColumn.all.all fun column => row column = .integer 0
  Fits total := ∀ column, SqlNumber.FitsInteger (total column)
  plus_store fits := funext fun column => SqlNumber.plus_of_fits (fits column)
  isZero_store total := by simp [funext_iff]

structure Ledger where
  messages : List (Nat × Contribution)
  nextId : Nat
  windows : List WindowRow
  aliases : AliasKey → Option Nat
  seatTokens : GroupSum.Table RollupKey RollupRow
  burnSamples : List BurnSample
  materialized : List BurnWindow

def Ledger.empty : Ledger := ⟨[], 1, [], fun _ => none, fun _ => none, [], []⟩

def synthetic : String := "<synthetic>"

section

variable (db : Ledger)

def loadContribution (msgId : Nat) : Option Contribution := db.messages.lookup msgId

def insertContribution (value : Contribution) : Ledger × Nat :=
  ({ db with messages := db.messages ++ [(db.nextId, value)], nextId := db.nextId + 1 }, db.nextId)

def overwriteContribution (msgId : Nat) (value : Contribution) : Ledger :=
  { db with messages := db.messages.map fun row => if row.1 = msgId then (msgId, value) else row }

def rollupKey (value : Contribution) (window : MessageWindow) : RollupKey :=
  ⟨value.seatId, value.accountKey, value.projectKey, window.kind, value.bucketTs, value.model,
    value.creditMetered⟩

def rollupAmount (value : Contribution) (direction : Int) : TotalColumn → Int :=
  fun column => value.amount column * direction

/-- The upsert of a total followed by the deletion of a row whose columns are all zero. -/
def applyRollup (value : Contribution) (window : MessageWindow) (direction : Int) : Ledger :=
  { db with
    seatTokens := GroupSum.add rollupStorage db.seatTokens (rollupKey value window)
      (rollupAmount value direction) }

/-- A message is mapped to at most one window of a kind: a second one is ignored. -/
def materializeContributionForWindow (msgId : Nat) (value : Contribution)
    (window : MessageWindow) : Ledger :=
  if db.windows.any fun row => row.msgId = msgId && row.window.kind = window.kind then db
  else
    let mapped := { db with windows := db.windows ++ [⟨msgId, window⟩] }
    if value.model ≠ synthetic then applyRollup mapped value window 1 else mapped

def containsText (text part : String) : Bool :=
  text.toList.tails.any fun rest => part.toList.isPrefixOf rest

def modelMatchesScope (model scope : String) : Bool :=
  let model := model.toLower
  let scope := scope.toLower
  model = scope || containsText model scope || containsText scope model

def windowBefore (first second : MessageWindow) : Bool :=
  first.kind < second.kind || first.kind = second.kind && first.start ≤ second.start

/-- The windows whose half-open interval holds the message, in the order in which they are
mapped. -/
def windowsFor (value : Contribution) : List MessageWindow :=
  let covering := db.burnSamples.filter fun sample =>
    sample.accountKey = value.accountKey && sample.windowStart ≤ value.recordedAt &&
      value.recordedAt < sample.resetsAt
  let distinct := (covering.map fun sample =>
    ((⟨sample.windowKind, sample.windowStart⟩ : MessageWindow), sample.windowScope)).dedup
  let applying := distinct.filter fun (window, scope) => window.kind ≠ "weekly_scoped" ||
    scope.any (modelMatchesScope value.model)
  (applying.map Prod.fst).insertionSort fun first second => windowBefore first second = true

def materializeContribution (msgId : Nat) (value : Contribution) : Ledger :=
  (windowsFor db value).foldl (fun db window =>
    materializeContributionForWindow db msgId value window) db

def reverseContribution (msgId : Nat) (value : Contribution) : Ledger :=
  let mapped := db.windows.filter fun row => row.msgId = msgId
  let reversed :=
    if value.model ≠ synthetic then
      mapped.foldl (fun db row => applyRollup db value row.window (-1)) db
    else db
  { reversed with windows := db.windows.filter fun row => row.msgId ≠ msgId }

/-- Takes a message out of the totals, rewrites its row and maps it again. -/
def rewriteContribution (msgId : Nat) (incumbent value : Contribution) : Ledger :=
  let reversed := reverseContribution db msgId incumbent
  let overwritten := overwriteContribution reversed msgId value
  materializeContribution overwritten msgId value

def aliasTarget (key : AliasKey) : Option Nat := db.aliases key

def upsertAlias (key : AliasKey) (msgId : Nat) : Ledger :=
  { db with aliases := Function.update db.aliases key (some msgId) }

end

structure SameMessages (db after : Ledger) : Prop where
  messages : after.messages = db.messages
  nextId : after.nextId = db.nextId
  aliases : after.aliases = db.aliases

section

variable (db : Ledger)

theorem SameMessages.refl : SameMessages db db := ⟨rfl, rfl, rfl⟩

theorem SameMessages.trans {db middle after : Ledger} (first : SameMessages db middle)
    (second : SameMessages middle after) : SameMessages db after :=
  ⟨second.messages.trans first.messages, second.nextId.trans first.nextId,
    second.aliases.trans first.aliases⟩

theorem SameMessages.load {db after : Ledger} (hs : SameMessages db after) (msgId : Nat) :
    loadContribution after msgId = loadContribution db msgId := by
  rw [loadContribution, hs.messages, loadContribution]

variable (msgId : Nat) (value : Contribution)

theorem materializeContributionForWindow_frame (window : MessageWindow) :
    SameMessages db (materializeContributionForWindow db msgId value window) := by
  unfold materializeContributionForWindow
  split
  · exact .refl db
  · split <;> exact ⟨rfl, rfl, rfl⟩

theorem materializeContribution_frame :
    SameMessages db (materializeContribution db msgId value) := by
  unfold materializeContribution
  generalize windowsFor db value = windows
  induction windows generalizing db with
  | nil => exact .refl db
  | cons _ _ ih =>
    exact (materializeContributionForWindow_frame db _ _ _).trans (ih _)

theorem foldl_applyRollup (direction : Int) (rows : List WindowRow) :
    rows.foldl (fun db row => applyRollup db value row.window direction) db = { db with
        seatTokens := (rows.map fun row =>
          (rollupKey value row.window, rollupAmount value direction)).foldl
            (fun table entry => GroupSum.add rollupStorage table entry.1 entry.2)
              db.seatTokens } := by
  induction rows generalizing db with
  | nil => rfl
  | cons _ _ ih => rw [foldl_cons, ih, map_cons, foldl_cons]; rfl

theorem reverseContribution_frame : SameMessages db (reverseContribution db msgId value) := by
  unfold reverseContribution
  simp only [foldl_applyRollup]
  split <;> exact ⟨rfl, rfl, rfl⟩

theorem loadContribution_overwrite (msgId other : Nat) (value : Contribution) :
    loadContribution (overwriteContribution db msgId value) other =
      if other = msgId then (loadContribution db other).map fun _ => value
      else loadContribution db other := by
  unfold loadContribution overwriteContribution
  induction db.messages with
  | nil => simp
  | cons row rest ih =>
    obtain ⟨id, hst⟩ := row
    by_cases asked : other = id
    · subst asked
      by_cases hh : other = msgId <;> simp [hh]
    · have skip : (other == id) = false := beq_false_of_ne asked
      have skipped : ((if id = msgId then (msgId, value) else (id, hst)) :: rest.map fun row =>
          if row.1 = msgId then (msgId, value) else row).lookup other =
          (rest.map fun row => if row.1 = msgId then (msgId, value) else row).lookup other := by
        by_cases hh : id = msgId
        · subst hh
          simp [lookup_cons, skip]
        · simp [hh, lookup_cons, skip]
      rw [map_cons, skipped, ih, lookup_cons, skip]

theorem loadContribution_insert (hfr : ∀ row ∈ db.messages, row.1 < db.nextId) (msgId : Nat) :
    loadContribution (insertContribution db value).1 msgId =
      if msgId = db.nextId then some value else loadContribution db msgId := by
  have hab : db.messages.lookup db.nextId = none := by
    rw [lookup_eq_none_iff]
    intro row hm
    simpa using (hfr row hm).ne'
  by_cases hh : msgId = db.nextId
  · subst hh
    simp [loadContribution, insertContribution, lookup_append, hab]
  · have skip : (msgId == db.nextId) = false := beq_false_of_ne hh
    simp [loadContribution, insertContribution, lookup_append, hh, lookup_cons, skip]

theorem rewriteContribution_load (msgId other : Nat) (incumbent value : Contribution) :
    loadContribution (rewriteContribution db msgId incumbent value) other =
      if other = msgId then (loadContribution db other).map fun _ => value
      else loadContribution db other := by
  unfold rewriteContribution
  rw [(materializeContribution_frame _ _ _).load, loadContribution_overwrite,
    (reverseContribution_frame _ _ _).load]

theorem rewriteContribution_frame (incumbent value : Contribution) :
    (rewriteContribution db msgId incumbent value).nextId = db.nextId ∧
      (rewriteContribution db msgId incumbent value).aliases = db.aliases := by
  have reversed := reverseContribution_frame db msgId incumbent
  have mapped := materializeContribution_frame
    (overwriteContribution (reverseContribution db msgId incumbent) msgId value) msgId value
  exact ⟨mapped.nextId.trans reversed.nextId, mapped.aliases.trans reversed.aliases⟩

end

section

inductive IngestOutcome
  | inserted
  | replaced
  | ignored
  deriving DecidableEq, Repr

def shouldReplace (candidate incumbent : Contribution) : Bool :=
  if candidate.isSidechain ≠ incumbent.isSidechain then incumbent.isSidechain
  else if candidate.totalTokens ≠ incumbent.totalTokens then
    incumbent.totalTokens < candidate.totalTokens
  else candidate.hasSpeed && !incumbent.hasSpeed

def exactKey (candidate : Contribution) : AliasKey :=
  .exact candidate.messageId (candidate.requestId.getD "")

def looseKey (candidate : Contribution) : AliasKey := .loose candidate.messageId

/-- The row a copy belongs to: the one with its exact key, else the last row of its message when
that row is of the other kind. `none` is a failed query. -/
def matchedId (db : Ledger) (candidate : Contribution) : Option (Option Nat) :=
  match aliasTarget db (exactKey candidate) with
  | some msgId => some (some msgId)
  | none =>
    match aliasTarget db (looseKey candidate) with
    | none => some none
    | some looseId => (loadContribution db looseId).map fun incumbent =>
      if incumbent.isSidechain ≠ candidate.isSidechain then some looseId else none

def upsertAliases (db : Ledger) (candidate : Contribution) (msgId : Nat) : Ledger :=
  upsertAlias (upsertAlias db (exactKey candidate) msgId) (looseKey candidate) msgId

def ingestContribution (db : Ledger) (candidate : Contribution) : Option (Ledger × IngestOutcome) :=
  match matchedId db candidate with
  | none => none
  | some (some msgId) =>
    match loadContribution db msgId with
    | none => none
    | some incumbent =>
      if shouldReplace candidate incumbent then
        some (upsertAliases (rewriteContribution db msgId incumbent candidate) candidate msgId, .replaced)
      else some (upsertAliases db candidate msgId, .ignored)
  | some none =>
    let (inserted, msgId) := insertContribution db candidate
    some (upsertAliases (materializeContribution inserted msgId candidate) candidate msgId, .inserted)

theorem ingestContribution_cases {db after : Ledger} {candidate : Contribution}
    {outcome : IngestOutcome} (hd : ingestContribution db candidate = some (after, outcome)) :
    (∃ msgId incumbent, matchedId db candidate = some (some msgId) ∧
      loadContribution db msgId = some incumbent ∧
      (shouldReplace candidate incumbent ∧ outcome = .replaced ∧
          after = upsertAliases (rewriteContribution db msgId incumbent candidate) candidate msgId ∨
        shouldReplace candidate incumbent = false ∧ outcome = .ignored ∧
          after = upsertAliases db candidate msgId)) ∨
    (matchedId db candidate = some none ∧ outcome = .inserted ∧
      after = upsertAliases (materializeContribution (insertContribution db candidate).1 db.nextId
        candidate) candidate db.nextId) := by
  unfold ingestContribution at hd
  split at hd
  · cases hd
  · rename_i msgId matched
    split at hd
    · cases hd
    rename_i incumbent hlo
    refine .inl ⟨_, _, matched, hlo, ?_⟩
    split at hd
    · rename_i better
      cases hd
      exact .inl ⟨better, rfl, rfl⟩
    · rename_i better
      cases hd
      exact .inr ⟨by simpa using better, rfl, rfl⟩
  · rename_i matched
    cases hd
    exact .inr ⟨matched, rfl, rfl⟩

theorem upsertAliases_messages (db : Ledger) (candidate : Contribution) (msgId : Nat) :
    (upsertAliases db candidate msgId).messages = db.messages := rfl

theorem rewriteContribution_messages (db : Ledger) (msgId : Nat) (incumbent value : Contribution) :
    (rewriteContribution db msgId incumbent value).messages =
      db.messages.map fun row => if row.1 = msgId then (msgId, value) else row := by
  unfold rewriteContribution
  rw [(materializeContribution_frame _ _ _).messages, overwriteContribution,
    (reverseContribution_frame db _ _).messages]

/-- Ingestion adds no row but that of the candidate. -/
theorem ingestContribution_messages {db after : Ledger} {candidate : Contribution}
    {outcome : IngestOutcome} (hd : ingestContribution db candidate = some (after, outcome))
    {row : Nat × Contribution} (hm : row ∈ after.messages) :
    row ∈ db.messages ∨ row.2 = candidate := by
  rcases ingestContribution_cases hd with
    ⟨_, _, -, -, ⟨-, -, rfl⟩ | ⟨-, -, rfl⟩⟩ | ⟨-, -, rfl⟩
  · rw [upsertAliases_messages, rewriteContribution_messages] at hm
    obtain ⟨_, hk, rfl⟩ := mem_map.mp hm
    split
    · exact .inr rfl
    · exact .inl hk
  · exact .inl hm
  · rw [upsertAliases_messages, (materializeContribution_frame _ db.nextId _).messages]
      at hm
    rcases mem_append.mp hm with hk | new
    · exact .inl hk
    · exact .inr (by rw [mem_singleton.mp new])

end

section

structure UsageSeatMetadata where
  provider : String
  model : Option String
  effort : Option String
  projectKey : String
  deriving DecidableEq, Repr

structure ArtifactBinding where
  seatId : String
  provider : String
  providerSessionId : String
  deriving DecidableEq, Repr

structure ModelDefaults where
  claude : Option String
  codex : Option String
  codexFork : Option String

def normalizedModel (value : Option String) : Option String :=
  (value.map trim).filter fun text => text ≠ "" && text.toLower ≠ "unset"

def ModelDefaults.defaultModel (defaults : ModelDefaults) (provider : String) : Option String :=
  normalizedModel (match provider with
    | "claude" => defaults.claude
    | "codex" => defaults.codex
    | "codex-fork" => defaults.codexFork
    | _ => none)

def accountMatches (provider accountKey : String) : Bool :=
  match provider with
  | "claude" => "claude:".toList.isPrefixOf accountKey.toLower.toList
  | "codex" | "codex-fork" => "codex:".toList.isPrefixOf accountKey.toLower.toList
  | _ => false

/-- A transaction: `none` is an error, after which nothing of it is kept. -/
abbrev Transaction := Ledger → Option Ledger

def commit (tx : Transaction) (db : Ledger) : Ledger := (tx db).getD db

variable (defaults : ModelDefaults) (seatMeta : String → Option UsageSeatMetadata)

def rebindMessage (binding : ArtifactBinding) (metadata : UsageSeatMetadata) (db : Ledger)
    (msgId : Nat) : Option Ledger := do
  let incumbent ← loadContribution db msgId
  let model :=
    if incumbent.model = "unknown" then
      ((normalizedModel metadata.model).or (defaults.defaultModel binding.provider)).getD
        incumbent.model
    else incumbent.model
  let rebound := { incumbent with
    seatId := binding.seatId, projectKey := metadata.projectKey, model := model }
  pure (rewriteContribution db msgId incumbent rebound)

def provisionalIds (db : Ledger) (binding : ArtifactBinding) : List Nat :=
  (db.messages.filter fun row => row.2.seatId = "unassigned" &&
    row.2.sourceRef = binding.providerSessionId &&
    accountMatches binding.provider row.2.accountKey).map Prod.fst

def rebindBinding (db : Ledger) (binding : ArtifactBinding) : Option Ledger :=
  if binding.seatId = "unassigned" then some db
  else
    match seatMeta binding.seatId with
    | none => some db
    | some metadata =>
      (provisionalIds db binding).foldlM (rebindMessage defaults binding metadata) db

def rebindProvisionalMessages (bindings : List ArtifactBinding) : Transaction :=
  fun db => bindings.foldlM (rebindBinding defaults seatMeta) db

def reconcileMessage (db : Ledger) (msgId : Nat) : Option Ledger := do
  let incumbent ← loadContribution db msgId
  match seatMeta incumbent.seatId with
  | none => pure db
  | some metadata =>
    match (normalizedModel metadata.model).or (defaults.defaultModel metadata.provider) with
    | none => pure db
    | some model => pure (rewriteContribution db msgId incumbent { incumbent with model := model })

/-- One batch of `reconcile_unknown_models`; the ids were selected before the transaction. -/
def reconcileUnknownModelsBatch (ids : List Nat) : Transaction :=
  fun db => ids.foldlM (reconcileMessage defaults seatMeta) db

def materializeMessage (window : BurnWindow) (db : Ledger) (msgId : Nat) : Option Ledger := do
  let contribution ← loadContribution db msgId
  pure (materializeContributionForWindow db msgId contribution ⟨window.kind, window.start⟩)

/-- One batch of `materialize_window_messages`; the ids were selected before the transaction. -/
def materializeWindowMessagesBatch (window : BurnWindow) (ids : List Nat) : Transaction :=
  fun db => ids.foldlM (materializeMessage window) db

def pendingBurnWindows (db : Ledger) : List BurnWindow :=
  ((db.burnSamples.map fun sample => (⟨sample.accountKey, sample.windowKind,
    sample.windowScope.getD "", sample.windowStart, sample.resetsAt⟩ : BurnWindow)).filter
      fun window => window ∉ db.materialized).dedup

def pendingMessageIdsForWindow (db : Ledger) (window : BurnWindow) : List Nat :=
  let pending := db.messages.filter fun row => row.2.accountKey = window.accountKey &&
    window.start ≤ row.2.recordedAt && row.2.recordedAt < window.resetsAt &&
    (window.kind ≠ "weekly_scoped" ||
      window.scope ≠ "" && modelMatchesScope row.2.model window.scope) &&
    !db.windows.any fun mapped => mapped.msgId = row.1 && mapped.window.kind = window.kind
  (pending.insertionSort fun first second => first.2.recordedAt ≤ second.2.recordedAt).map Prod.fst

def markBurnWindowMaterialized (window : BurnWindow) : Transaction := fun db =>
  some (if window ∈ db.materialized then db
    else { db with materialized := db.materialized ++ [window] })

def rebuildMessage (db : Ledger) (msgId : Nat) : Option Ledger := do
  let contribution ← loadContribution db msgId
  pure (materializeContribution db msgId contribution)

def rebuildRollups : Transaction := fun db =>
  let cleared := { db with seatTokens := fun _ => none, windows := [], materialized := [] }
  (db.messages.map Prod.fst).foldlM rebuildMessage cleared

end

end SessionManager.Usage
