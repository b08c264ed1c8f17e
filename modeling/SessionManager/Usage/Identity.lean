import SessionManager.Usage.Scan

/-! The identity store: which account of a provider was in use when. Successful reads of the
provider's identity are recorded as observations; a read that differs from the current account ends
the open interval and opens the next one. Timestamps are texts of one format, written and read by
the host. Every call is one transaction, so a call that fails leaves the store as it was. The history
of account metadata is left out, since none of these functions reads it. -/
namespace SessionManager.Usage
open Foundation

inductive Provider
  | claude
  | codex
  deriving DecidableEq, Repr

def Provider.asStr : Provider → String
  | claude => "claude"
  | codex => "codex"

structure AccountIdentity where
  provider : Provider
  externalId : String
  label : Option String
  planTier : Option String
  extraUsageEnabled : Option Bool
  deriving DecidableEq, Repr

namespace AccountIdentity

def accountKey (identity : AccountIdentity) : String :=
  identity.provider.asStr ++ ":" ++ identity.externalId

def validate (identity : AccountIdentity) : Except String Unit :=
  if trim identity.externalId = "" then
    .error (identity.provider.asStr ++ " account identity is empty")
  else .ok ()

end AccountIdentity

structure AccountRow where
  provider : Provider
  externalId : String
  label : Option String
  planTier : Option String
  extraUsageEnabled : Option Bool
  firstSeen : String
  lastSeen : String
  deriving DecidableEq, Repr

structure IdentityRow extends TimelineRow where
  fromUncertainMs : Int
  isAssumed : Bool

structure TimelineAttribution where
  accountKey : String
  isAssumed : Bool
  isUncertain : Bool
  deriving DecidableEq, Repr

inductive ObservationOutcome
  | opened (accountKey : String)
  | unchanged (accountKey : String)
  | switched (previousAccountKey accountKey : String) (uncertaintyMs : Int)
  | loggedOut (previousAccountKey : String)
  | remainedLoggedOut
  deriving DecidableEq, Repr

structure IdentityStore where
  accounts : String → Option AccountRow
  timeline : List IdentityRow

namespace IdentityStore

def empty : IdentityStore := ⟨fun _ => none, []⟩

section

variable (store : IdentityStore) (provider : Provider)

def rows : List IdentityRow := store.timeline.filter fun row => row.provider = provider.asStr

/-- The account of the open interval and when the account was last seen. -/
def currentAccount : Option (String × String) :=
  let joined := (store.rows provider).filterMap fun row =>
    if row.toTs.isNone then
      (store.accounts row.accountKey).map fun account =>
        (row.fromTs, row.accountKey, account.lastSeen)
    else none
  ((joined.insertionSort fun first second => second.1 ≤ first.1).head?).map Prod.snd

def closeCurrent (toTs : String) : IdentityStore :=
  { store with timeline := store.timeline.map fun row =>
      if row.provider = provider.asStr && row.toTs.isNone then { row with toTs := some toTs }
      else row }

def upsertAccount (identity : AccountIdentity) (observedTs : String) : IdentityStore :=
  let account : AccountRow :=
    match store.accounts identity.accountKey with
    | none =>
      { provider := identity.provider
        externalId := identity.externalId
        label := identity.label
        planTier := identity.planTier
        extraUsageEnabled := identity.extraUsageEnabled
        firstSeen := observedTs
        lastSeen := observedTs }
    | some held =>
      { held with
        label := identity.label.or held.label
        planTier := identity.planTier.or held.planTier
        extraUsageEnabled := identity.extraUsageEnabled.or held.extraUsageEnabled
        lastSeen := observedTs }
  { store with accounts := Function.update store.accounts identity.accountKey (some account) }

/-- How uncertain the start of the row is that begins where this one ends. -/
def boundaryUncertainty (row : IdentityRow) : Int :=
  match row.toTs with
  | none => 0
  | some boundary =>
    (((store.rows provider).find? fun next => next.fromTs = boundary).map
      IdentityRow.fromUncertainMs).getD 0

/-- The constraints of the table: the provider and the start identify a row, a provider has one open
interval, and the account exists. -/
def insertTimelineRow (row : IdentityRow) : Except String IdentityStore :=
  if store.timeline.any fun held => held.provider = row.provider && held.fromTs = row.fromTs then
    .error "UNIQUE constraint failed: account_timeline.provider, account_timeline.from_ts"
  else if row.toTs.isNone &&
      store.timeline.any fun held => held.provider = row.provider && held.toTs.isNone then
    .error "UNIQUE constraint failed: account_timeline.provider"
  else if (store.accounts row.accountKey).isNone then .error "FOREIGN KEY constraint failed"
  else .ok { store with timeline := store.timeline ++ [row] }

/-- The start of a row moves, unless another row of the provider starts there. -/
def moveStart (former start : String) : Except String IdentityStore :=
  if store.timeline.any fun held => held.provider = provider.asStr && held.fromTs = start then
    .error "UNIQUE constraint failed: account_timeline.provider, account_timeline.from_ts"
  else
    .ok { store with timeline := store.timeline.map fun row =>
      if row.provider = provider.asStr && row.fromTs = former then
        { row with fromTs := start }
      else row }

end

section

variable (host : Host) (store : IdentityStore) (provider : Provider)

def parseTimestamp (text : String) : Except String Int :=
  match host.parseRfc3339 text with
  | some instant => .ok instant
  | none => .error ("invalid usage timestamp \"" ++ text ++ "\"")

def ensureBootstrapIntervalTx (earliestOpenMessageAt : Int) : Except String (IdentityStore × Bool) :=
  let observed := (store.rows provider).filter fun row => !row.isAssumed
  match (observed.insertionSort fun first second => first.fromTs ≤ second.fromTs).head? with
  | none => .ok (store, false)
  | some first => do
    let firstObservedAt ← parseTimestamp host first.fromTs
    if firstObservedAt ≤ earliestOpenMessageAt then pure (store, false)
    else
      let bootstrapTs := host.formatTimestamp earliestOpenMessageAt
      let existing := (store.rows provider).filter fun row =>
        row.isAssumed && row.toTs = some first.fromTs
      match (existing.insertionSort fun first second => first.fromTs ≤ second.fromTs).head? with
      | some held =>
        if bootstrapTs < held.fromTs then do
          let moved ← store.moveStart provider held.fromTs bootstrapTs
          pure (moved, true)
        else pure (store, false)
      | none => do
        let inserted ← store.insertTimelineRow
          { provider := provider.asStr
            accountKey := first.accountKey
            fromTs := bootstrapTs
            toTs := some first.fromTs
            fromUncertainMs := 0
            isAssumed := true }
        pure (inserted, true)

def uncertaintyWidth (previousPollAt : Option Int) (observedAt : Int) : Int :=
  let milliseconds := (previousPollAt.filter (· ≤ observedAt)).map fun previous =>
    (observedAt - previous) / 1000000
  (milliseconds.filter (· < 2 ^ 63)).getD 0

/-- Without a preceding read, the account's last sighting bounds the switch. -/
def persistedPoll (previousPollAt : Option Int) (previousLastSeen : String) :
    Except String (Option Int) :=
  match previousPollAt with
  | none => (parseTimestamp host previousLastSeen).map some
  | some _ => .ok none

def observedRow (identity : AccountIdentity) (observedTs : String) (uncertaintyMs : Int) :
    IdentityRow :=
  { provider := provider.asStr
    accountKey := identity.accountKey
    fromTs := observedTs
    toTs := none
    fromUncertainMs := uncertaintyMs
    isAssumed := false }

def observe (identity : Option AccountIdentity) (observedAt : Int) (previousPollAt : Option Int) :
    Except String (IdentityStore × ObservationOutcome) :=
  let observedTs := host.formatTimestamp observedAt
  match store.currentAccount provider, identity with
  | some (currentKey, _), none =>
    .ok (store.closeCurrent provider observedTs, .loggedOut currentKey)
  | none, none => .ok (store, .remainedLoggedOut)
  | some (currentKey, previousLastSeen), some identity =>
    if currentKey = identity.accountKey then
      .ok (store.upsertAccount identity observedTs, .unchanged currentKey)
    else do
      let closed := (store.upsertAccount identity observedTs).closeCurrent provider observedTs
      let persistedPrevious ← persistedPoll host previousPollAt previousLastSeen
      let uncertaintyMs := uncertaintyWidth (previousPollAt.or persistedPrevious) observedAt
      let opened ← closed.insertTimelineRow (observedRow provider identity observedTs uncertaintyMs)
      pure (opened, .switched currentKey identity.accountKey uncertaintyMs)
  | none, some identity => do
    let uncertaintyMs := uncertaintyWidth previousPollAt observedAt
    let opened ← (store.upsertAccount identity observedTs).insertTimelineRow
      (observedRow provider identity observedTs uncertaintyMs)
    pure (opened, .opened identity.accountKey)

def checkIdentity : Option AccountIdentity → Except String Unit
  | none => .ok ()
  | some identity =>
    if identity.provider ≠ provider then
      .error ("identity provider " ++ identity.provider.asStr ++
        " does not match observation provider " ++ provider.asStr)
    else identity.validate

def recordObservation (identity : Option AccountIdentity) (observedAt : Int)
    (previousPollAt bootstrapFrom : Option Int) :
    Except String (IdentityStore × ObservationOutcome) := do
  checkIdentity provider identity
  let (observed, outcome) ← store.observe host provider identity observedAt previousPollAt
  match bootstrapFrom with
  | none => pure (observed, outcome)
  | some earliest => do
    let (bootstrapped, _) ← observed.ensureBootstrapIntervalTx host provider earliest
    pure (bootstrapped, outcome)

def ensureBootstrapInterval (earliestMessageAt : Int) : Except String (IdentityStore × Bool) :=
  store.ensureBootstrapIntervalTx host provider earliestMessageAt

/-- Whether an instant lies in the time before the end of a row in which the switch may have been. -/
def uncertainAt (row : IdentityRow) (uncertainty start messageAt : Int) : Except String Bool :=
  if 0 < uncertainty ∧ start ≤ messageAt then
    match row.toTs with
    | none => .ok false
    | some text => do
      let boundary ← parseTimestamp host text
      pure (decide (boundary - uncertainty * 1000000 ≤ messageAt ∧ messageAt < boundary))
  else .ok false

def accountAt (messageAt : Int) : Except String (Option TimelineAttribution) :=
  let messageTs := host.formatTimestamp messageAt
  let covering := (store.rows provider).filter fun row =>
    row.fromTs ≤ messageTs && row.toTs.all fun toTs => messageTs < toTs
  match (covering.insertionSort fun first second => second.fromTs ≤ first.fromTs).head? with
  | none => .ok none
  | some row => do
    let uncertainty := store.boundaryUncertainty provider row
    let start ← parseTimestamp host row.fromTs
    let isUncertain ← uncertainAt host row uncertainty start messageAt
    pure (some ⟨row.accountKey, row.isAssumed, isUncertain⟩)

end

end IdentityStore

end SessionManager.Usage
