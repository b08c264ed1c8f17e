import Mathlib.Data.List.SplitBy
import SessionManager.Usage.Ledger

/-! The lines of provider transcripts: which of them are usage records and what a record says. The
JSON reader, the timestamp reader and writer and the lookup of a repository's git directory belong
to other programs and are parameters. Numbers that are not integers are all alike here. -/
namespace SessionManager.Usage
open Foundation

inductive Json
  | null
  | bool (value : Bool)
  | int (value : Int)
  | float
  | str (text : String)
  | arr (values : List Json)
  | obj (fields : List (String × Json))

namespace Json

def asStr : Json → Option String
  | .str text => some text
  | _ => none

def asBool : Json → Option Bool
  | .bool value => some value
  | _ => none

def asObject : Json → Option (List (String × Json))
  | .obj fields => some fields
  | _ => none

def isNull : Json → Bool
  | .null => true
  | _ => false

end Json

abbrev JsonObject := List (String × Json)

/-- Instants are nanoseconds since the epoch. -/
structure Host where
  fromSlice : List UInt8 → Option Json
  parseRfc3339 : String → Option Int
  formatTimestamp : Int → String
  resolveProjectKey : String → String

section

def jsonText (object : JsonObject) (key : String) : Option String :=
  (((object.lookup key).bind Json.asStr).map trim).filter (· ≠ "")

def jsonI64 : Option Json → Option Int
  | some (.int value) => if -2 ^ 63 ≤ value ∧ value < 2 ^ 63 then some value else none
  | _ => none

def jsonI64Any (object : JsonObject) (keys : List String) : Option Int :=
  keys.findSome? fun key => jsonI64 (object.lookup key)

def nullRejectFields : List String :=
  ["id", "cwd", "model", "speed", "costUSD", "version", "sessionId", "requestId",
    "isApiErrorMessage", "cache_read_input_tokens", "cache_creation_input_tokens", "usage"]

mutual

def hasExplicitNull : Json → Bool
  | .obj fields => fieldsHaveNull fields
  | .arr values => valuesHaveNull values
  | _ => false

def fieldsHaveNull : List (String × Json) → Bool
  | [] => false
  | (key, value) :: rest =>
    nullRejectFields.contains key && value.isNull || hasExplicitNull value || fieldsHaveNull rest

def valuesHaveNull : List Json → Bool
  | [] => false
  | value :: rest => hasExplicitNull value || valuesHaveNull rest

end

def validSemverPrefix (value : String) : Bool :=
  let leading := value.toList.takeWhile fun character => character.isDigit || character = '.'
  match leading.splitOn '.' with
  | major :: minor :: patch :: _ => major ≠ [] && minor ≠ [] && patch ≠ []
  | _ => false

end

section

structure ParsedMessage where
  messageId : String
  requestId : Option String
  isSidechain : Bool
  hasSpeed : Bool
  timestamp : Int
  sourceRef : String
  cwd : String
  model : String
  tokens : TokenBuckets
  deriving DecidableEq, Repr

def usageMarker : List UInt8 := "\"usage\":\x7b".toList.map Char.toUInt8

/-- A field that may be missing but not empty, of another type or blank. -/
def optionalText (root : JsonObject) (key : String) : Option (Option String) :=
  match root.lookup key with
  | none => some none
  | some _ => (jsonText root key).map some

def claudeTokens (usage : JsonObject) : TokenBuckets :=
  let count (object : JsonObject) (key : String) := (jsonI64 (object.lookup key)).getD 0
  let cacheWrites :=
    match (usage.lookup "cache_creation").bind Json.asObject with
    | some creation =>
      (count creation "ephemeral_5m_input_tokens", count creation "ephemeral_1h_input_tokens")
    | none => (count usage "cache_creation_input_tokens", 0)
  { input := count usage "input_tokens"
    output := count usage "output_tokens"
    reasoning := 0
    cacheWrite5m := cacheWrites.1
    cacheWrite1h := cacheWrites.2
    cacheRead := count usage "cache_read_input_tokens" }

variable (host : Host)

/-- The usage record of a line, before its token counts are validated. -/
def claudeRecord (line : List UInt8) (path : List String) : Option ParsedMessage := do
  guard (line.tails.any fun rest => usageMarker.isPrefixOf rest)
  let value ← host.fromSlice line
  guard (!hasExplicitNull value)
  let root ← value.asObject
  guard (((root.lookup "version").bind Json.asStr).all validSemverPrefix)
  let message ← (root.lookup "message").bind Json.asObject
  let usage ← (message.lookup "usage").bind Json.asObject
  let timestamp ← (jsonText root "timestamp").bind host.parseRfc3339
  let messageId ← jsonText message "id"
  let sourceRef ← jsonText root "sessionId"
  let model ← jsonText message "model"
  let requestId ← optionalText root "requestId"
  let cwd ← optionalText root "cwd"
  let speedIn (object : JsonObject) := (object.lookup "speed").any fun value => !value.isNull
  return {
    messageId, requestId, timestamp, sourceRef, model
    cwd := cwd.getD ""
    tokens := claudeTokens usage
    isSidechain := ((root.lookup "isSidechain").bind Json.asBool).getD (path.contains "subagents")
    hasSpeed := speedIn usage || speedIn root }

def parseClaudeLine (line : List UInt8) (path : List String) :
    Except String (Option ParsedMessage) :=
  match claudeRecord host line path with
  | none => .ok none
  | some parsed => parsed.tokens.validate.map fun _ => some parsed

end

section

/-- A release build does not check its sums: one that does not fit into 64 bits wraps. -/
def wrap (value : Int) : Int := (value + 2 ^ 63) % 2 ^ 64 - 2 ^ 63

def TokenBuckets.totalWrapping (buckets : TokenBuckets) : Int :=
  wrap (wrap (wrap (wrap (buckets.input + buckets.output) + buckets.cacheWrite5m) +
    buckets.cacheWrite1h) + buckets.cacheRead)

structure CodexTotals where
  input : Int
  cachedInput : Int
  cacheWrite : Int
  output : Int
  reasoning : Int
  total : Int
  deriving DecidableEq, Repr

inductive CodexEvent
  | settings (threadId : String) (sourceSeq : Int) (model : String) (effort : Option String)
  | cumulative (threadId : String) (turnId : Option String) (sourceSeq timestamp : Int)
      (totals : CodexTotals)
  deriving DecidableEq, Repr

structure CodexCursor where
  artifactPath : List String
  lastSeq : Int
  last : CodexTotals
  deriving DecidableEq, Repr

namespace CodexTotals

variable (totals : CodexTotals)

def zero : CodexTotals := ⟨0, 0, 0, 0, 0, 0⟩

def since (previous : CodexTotals) : CodexTotals :=
  { input := totals.input - previous.input
    cachedInput := totals.cachedInput - previous.cachedInput
    cacheWrite := totals.cacheWrite - previous.cacheWrite
    output := totals.output - previous.output
    reasoning := totals.reasoning - previous.reasoning
    total := totals.total - previous.total }

def buckets : TokenBuckets :=
  { input := totals.input - totals.cachedInput - totals.cacheWrite
    output := totals.output
    reasoning := totals.reasoning
    cacheWrite5m := totals.cacheWrite
    cacheWrite1h := 0
    cacheRead := totals.cachedInput }

def validateWrapping : Except String Unit :=
  if [totals.input, totals.cachedInput, totals.cacheWrite, totals.output, totals.reasoning,
      totals.total].any (· < 0) then
    .error "Codex cumulative totals must not be negative"
  else if wrap (totals.input + totals.output) ≠ totals.total then
    .error "Codex input + output must equal total"
  else if totals.input < wrap (totals.cachedInput + totals.cacheWrite) then
    .error "Codex cached and cache-write tokens must be nested in input"
  else if totals.output < totals.reasoning then
    .error "Codex reasoning tokens must be nested in output"
  else .ok ()

def wrapped : CodexTotals :=
  ⟨wrap totals.input, wrap totals.cachedInput, wrap totals.cacheWrite, wrap totals.output,
    wrap totals.reasoning, wrap totals.total⟩

def bucketsWrapping : TokenBuckets :=
  { totals.buckets with
    input := wrap (wrap (totals.input - totals.cachedInput) - totals.cacheWrite) }

def deltaWrapping (previous : Option CodexCursor) : Except String TokenBuckets := do
  totals.validateWrapping
  let delta := (totals.since ((previous.map CodexCursor.last).getD zero)).wrapped
  delta.validateWrapping
  let tokens := delta.bucketsWrapping
  tokens.validate
  if tokens.totalWrapping ≠ delta.total then
    .error "normalized Codex buckets do not equal cumulative total delta"
  else pure tokens

end CodexTotals

def codexTotals (usage : JsonObject) : CodexTotals :=
  let count (keys : List String) := (jsonI64Any usage keys).getD 0
  { input := count ["inputTokens", "input_tokens"]
    cachedInput := count ["cachedInputTokens", "cached_input_tokens"]
    cacheWrite := count ["cacheWriteInputTokens", "cache_write_input_tokens"]
    output := count ["outputTokens", "output_tokens"]
    reasoning := count ["reasoningOutputTokens", "reasoning_output_tokens"]
    total := count ["totalTokens", "total_tokens"] }

variable (host : Host)

def codexUsage (root payload : JsonObject) (eventType : String) (fallbackThreadId : Option String) :
    Option (JsonObject × Option String × Option String) :=
  if eventType = "thread/tokenUsage/updated" ∨ eventType = "tokenUsage/updated" then do
    let usage ← (payload.lookup "tokenUsage").bind Json.asObject
    let total ← (usage.lookup "total").bind Json.asObject
    return (total,
      ((jsonText payload "threadId").or (jsonText root "threadId")).or fallbackThreadId,
      (jsonText payload "turnId").or (jsonText root "turnId"))
  else if eventType = "event_msg" ∧ jsonText payload "type" = some "token_count" then do
    let info ← (payload.lookup "info").bind Json.asObject
    let total ← (info.lookup "total_token_usage").bind Json.asObject
    return (total, fallbackThreadId, jsonText payload "turn_id")
  else none

/-- The event of a line, before its totals are validated. -/
def codexRecord (line : List UInt8) (fallbackSeq : Int) (fallbackThreadId : Option String) :
    Option CodexEvent := do
  let value ← host.fromSlice line
  let root ← value.asObject
  let sourceSeq := (jsonI64 (root.lookup "seq")).getD fallbackSeq
  let eventType := ((jsonText root "event_type").or (jsonText root "type")).getD ""
  let payload := ((root.lookup "payload").bind Json.asObject).getD root
  if eventType = "thread/settings/updated" then
    let settings := ((payload.lookup "threadSettings").bind Json.asObject).getD payload
    let threadId ← (jsonText payload "threadId").or fallbackThreadId
    let model ← jsonText settings "model"
    return .settings threadId sourceSeq model (jsonText settings "effort")
  else if eventType = "turn_context" then
    let threadId ← fallbackThreadId
    let model ← jsonText payload "model"
    return .settings threadId sourceSeq model (jsonText payload "effort")
  else
    let (usage, threadId, turnId) ← codexUsage root payload eventType fallbackThreadId
    let threadId ← threadId
    let timestamp ← ((jsonText root "ts").or (jsonText root "timestamp")).bind host.parseRfc3339
    return .cumulative threadId turnId sourceSeq timestamp (codexTotals usage)

def parseCodexLine (line : List UInt8) (fallbackSeq : Int) (fallbackThreadId : Option String) :
    Except String (Option CodexEvent) :=
  match codexRecord host line fallbackSeq fallbackThreadId with
  | none => .ok none
  | some (.settings threadId sourceSeq model effort) =>
    .ok (some (.settings threadId sourceSeq model effort))
  | some (.cumulative threadId turnId sourceSeq timestamp totals) =>
    totals.validateWrapping.map fun _ => some (.cumulative threadId turnId sourceSeq timestamp totals)

def codexCwd (value : Json) : Option String :=
  let root := value.asObject.getD []
  let payload := ((root.lookup "payload").bind Json.asObject).getD []
  let settings := ((payload.lookup "threadSettings").bind Json.asObject).getD []
  let text (object : JsonObject) (key : String) := (object.lookup key).bind Json.asStr
  let cwd := (text root "cwd").or <| (text payload "cwd").or <|
    (text payload "workingDirectory").or <| (text payload "working_dir").or <|
      (text settings "cwd").or (text settings "workingDirectory")
  (cwd.map trim).filter (· ≠ "")

end

end SessionManager.Usage
