import SessionManager.Usage.Identity

/-! Rate-limit samples of Codex events. An event names up to two windows of a limit; a window whose
values differ from the latest sample up to the event's instant becomes a new sample. An event is
given by what is found under the names of its JSON fields, in either spelling. The check before the
write transaction is left out: it reads the same rows and only saves the lock. -/
namespace SessionManager.Usage
open Foundation

/-- One window of a rate-limit report. The reset comes as seconds since the epoch or as seconds from
the event on. -/
structure RateWindow where
  windowDurationMins : Option Int
  usedPercent : Option Rat
  resetsAt : Option Int
  resetsInSeconds : Option Int
  deriving DecidableEq, Repr

structure RateLimits where
  limitId : Option String
  rateLimitReachedType : Option String
  primary : Option RateWindow
  secondary : Option RateWindow
  deriving DecidableEq, Repr

structure RateEvent where
  eventType : Option String
  payloadType : Option String
  timestamp : Option String
  rateLimits : Option RateLimits
  deriving DecidableEq, Repr

structure BurnWindowSample where
  windowKind : String
  windowScope : Option String
  durationMinutes : Int
  percent : Rat
  resetsAt : Int
  severity : Option String
  isActive : Option Bool
  deriving DecidableEq, Repr

structure BurnRow extends BurnSample where
  id : Nat
  percent : Rat
  severity : Option String
  isActive : Option Bool
  source : String
  observedAt : String

structure BurnStore where
  identity : IdentityStore
  rows : List BurnRow
  nextId : Nat

section

def isCodexRateLimitEvent (event : RateEvent) : Bool :=
  event.rateLimits.isSome &&
    let eventType := event.eventType.getD ""
    eventType = "account/rateLimits/updated" || eventType = "account_rate_limits_updated" ||
      eventType = "event_msg" && event.payloadType = some "token_count"

/-- The seconds that a calendar date of the years -9999 to 9999 can have. -/
def fromUnixTimestamp (seconds : Int) : Option Int :=
  if -377705116800 ≤ seconds ∧ seconds ≤ 253402300799 then some (seconds * 1000000000) else none

def codexResetAt (update : RateWindow) (observedAt : Int) : Option Int :=
  match update.resetsAt with
  | some timestamp => fromUnixTimestamp timestamp
  | none => update.resetsInSeconds.map fun seconds =>
    observedAt - observedAt % 1000000000 + seconds * 1000000000

def validateWindow (window : BurnWindowSample) : Except String Unit :=
  if trim window.windowKind = "" ∨ window.durationMinutes ≤ 0 then
    .error "burn sample window kind and duration must be valid"
  else if ¬(0 ≤ window.percent ∧ window.percent ≤ 100) then
    .error "burn sample percent must be finite and between 0 and 100"
  else .ok ()

def RateLimits.scope (limits : RateLimits) : Option String :=
  let limitId := limits.limitId.getD "codex"
  if limitId ≠ "codex" then some limitId else none

def RateLimits.severity (limits : RateLimits) : Option String :=
  limits.rateLimitReachedType.map fun _ => "critical"

def RateLimits.slots (limits : RateLimits) : List RateWindow :=
  limits.primary.toList ++ limits.secondary.toList

def codexKind (durationMinutes : Int) : String := s!"codex_{durationMinutes}"

end

section

variable (host : Host)

def BurnRow.inWindow (accountKey windowKind : String) (windowScope : Option String)
    (row : BurnRow) : Bool :=
  row.accountKey = accountKey && row.windowKind = windowKind && row.windowScope = windowScope

def BurnRow.notBefore (first second : BurnRow) : Prop :=
  second.observedAt < first.observedAt ∨ second.observedAt = first.observedAt ∧ second.id ≤ first.id

instance : DecidableRel BurnRow.notBefore := fun first second =>
  inferInstanceAs (Decidable (second.observedAt < first.observedAt ∨
    second.observedAt = first.observedAt ∧ second.id ≤ first.id))

def latestWindow (rows : List BurnRow) (accountKey windowKind : String)
    (windowScope : Option String) (observedAt : String) :
    Except String (Option (Rat × Int × Option String)) :=
  let found := rows.filter fun row =>
    row.inWindow accountKey windowKind windowScope && row.observedAt ≤ observedAt
  match (found.insertionSort BurnRow.notBefore).head? with
  | none => .ok none
  | some row =>
    match host.parseRfc3339 row.resetsAt with
    | none => .error ("invalid timestamp " ++ row.resetsAt)
    | some resetsAt => .ok (some (row.percent, resetsAt, row.severity))

def burnRow (accountKey source observedAt : String) (id : Nat) (window : BurnWindowSample) :
    BurnRow :=
  { accountKey
    windowKind := window.windowKind
    windowScope := window.windowScope
    windowStart := host.formatTimestamp (window.resetsAt - window.durationMinutes * 60000000000)
    resetsAt := host.formatTimestamp window.resetsAt
    id
    percent := window.percent
    severity := window.severity
    isActive := window.isActive
    source
    observedAt }

def insertWindow (accountKey source observedAt : String) (store : BurnStore)
    (window : BurnWindowSample) : BurnStore :=
  if store.rows.any fun row =>
      row.inWindow accountKey window.windowKind window.windowScope && row.source = source &&
        row.observedAt = observedAt
  then store
  else
    { store with
      rows := store.rows ++ [burnRow host accountKey source observedAt store.nextId window]
      nextId := store.nextId + 1 }

def insertWindows (store : BurnStore) (accountKey : String) (windows : List BurnWindowSample)
    (source observedAt : String) : BurnStore :=
  windows.foldl (insertWindow host accountKey source observedAt) store

/-- A window of the report that differs from the latest sample. Values the report leaves out are
taken from that sample. -/
def changedWindow (rows : List BurnRow) (accountKey : String) (limits : RateLimits)
    (observedAt : Int) (update : RateWindow) : Except String (Option BurnWindowSample) :=
  match update.windowDurationMins with
  | none => .ok none
  | some durationMinutes =>
    let resetUpdate := codexResetAt update observedAt
    if update.usedPercent.isNone && resetUpdate.isNone then .ok none
    else do
      let windowKind := codexKind durationMinutes
      let previous ← latestWindow host rows accountKey windowKind limits.scope
        (host.formatTimestamp observedAt)
      match update.usedPercent.or (previous.map Prod.fst),
          resetUpdate.or (previous.map fun window => window.2.1) with
      | some percent, some resetsAt =>
        if previous = some (percent, resetsAt, limits.severity) then .ok none
        else do
          let window : BurnWindowSample :=
            { windowKind
              windowScope := limits.scope
              durationMinutes
              percent
              resetsAt
              severity := limits.severity
              isActive := none }
          validateWindow window
          pure (some window)
      | _, _ => .ok none

def changedWindows (rows : List BurnRow) (accountKey : String) (limits : RateLimits)
    (observedAt : Int) : Except String (List BurnWindowSample) := do
  let windows ← limits.slots.mapM (changedWindow host rows accountKey limits observedAt)
  pure windows.reduceOption

end

section

variable (host : Host)

/-- The account of an instant; before the timeline starts it is bootstrapped first. -/
def attributeCodex (identity : IdentityStore) (observedAt : Int) :
    IdentityStore × Except String (Option TimelineAttribution) :=
  match identity.accountAt host .codex observedAt with
  | .error reason => (identity, .error reason)
  | .ok (some attribution) => (identity, .ok (some attribution))
  | .ok none =>
    match identity.ensureBootstrapInterval host .codex observedAt with
    | .error reason => (identity, .error reason)
    | .ok (bootstrapped, _) => (bootstrapped, bootstrapped.accountAt host .codex observedAt)

def RateEvent.observedAt (event : RateEvent) (receivedAt : Int) : Int :=
  (event.timestamp.bind host.parseRfc3339).getD receivedAt

def recordCodexEvent (store : BurnStore) (event : RateEvent) (receivedAt : Int) :
    BurnStore × Except String Nat :=
  if isCodexRateLimitEvent event then
    let observedAt := event.observedAt host receivedAt
    let (identity, attribution) := attributeCodex host store.identity observedAt
    let store := { store with identity }
    match attribution, event.rateLimits with
    | .error reason, _ => (store, .error reason)
    | .ok none, _ => (store, .ok 0)
    | .ok (some _), none => (store, .ok 0)
    | .ok (some attribution), some limits =>
      match changedWindows host store.rows attribution.accountKey limits observedAt with
      | .error reason => (store, .error reason)
      | .ok windows =>
        let after := insertWindows host store attribution.accountKey windows "codex_event"
          (host.formatTimestamp observedAt)
        (after, .ok (after.rows.length - store.rows.length))
  else (store, .ok 0)

end

end SessionManager.Usage
