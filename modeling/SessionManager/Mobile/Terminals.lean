import SessionManager.Foundation.KeyedTable
import SessionManager.Foundation.Text

/-! Terminals of mobile devices. A ticket is issued to a device and is exchanged for an attach; a device
may be revoked, and terminals may be disabled altogether. Every critical section of a request is one
step, and any number of requests are on their way between their steps. What requests see outside of the
stores (configured users, registered keys, signatures, sessions) is given with the step that looks.
Random tokens never repeat: a token that was drawn before is not drawn. Nothing enables terminals again
but a restart, which empties the stores. -/
namespace SessionManager.Mobile
open Foundation

structure ApiError where
  status : Nat
  detail : String
  deriving DecidableEq, Repr

structure Ticket where
  ticketId : String
  secretHash : String
  userId : String
  actorEmail : String
  sessionId : String
  provider : String
  node : String
  tmuxSession : String
  tmuxSocketName : Option String
  deviceKeyId : String
  createdAtUnix : Int
  expiresAtUnix : Int
  deriving DecidableEq, Repr

/-- An attach with its stop flag. It is listed while it stands in the map of active attaches; one that
was taken out of the map runs on until it sees its stop flag. -/
structure Attach where
  attachId : String
  userId : String
  sessionId : String
  provider : String
  deviceKeyId : String
  startedAtUnix : Int
  stop : Bool
  listed : Bool
  deriving DecidableEq, Repr

structure TerminalConfig where
  enabled : Bool
  ticketTtlSeconds : Nat
  maxConcurrentAttachesGlobal : Nat
  maxConcurrentAttachesPerUser : Nat
  maxConcurrentAttachesPerSession : Nat
  deriving DecidableEq, Repr

section

def clamp (value minimum maximum fallback : Nat) : Nat :=
  if value = 0 then max minimum (min fallback maximum) else max minimum (min value maximum)

variable (config : TerminalConfig)

def maxGlobal : Nat := clamp config.maxConcurrentAttachesGlobal 1 64 4

def maxUser : Nat := clamp config.maxConcurrentAttachesPerUser 1 16 1

def maxSession : Nat := clamp config.maxConcurrentAttachesPerSession 1 16 1

def ttlSeconds : Nat := clamp config.ticketTtlSeconds 5 300 30

end

structure Draft where
  userId : String
  deviceKeyId : String
  actorEmail : String
  sessionId : String
  provider : String
  node : String
  tmuxSession : String
  tmuxSocketName : Option String
  deriving DecidableEq, Repr

structure AuthFrame where
  ticketId : Option String
  ticketSecret : Option String
  deviceKeyId : Option String
  nonce : Option String
  signature : Option String
  deriving DecidableEq, Repr

/-- A frame with all its fields, and the time that the request has read. -/
structure Presented where
  ticketId : String
  ticketSecret : String
  deviceKeyId : String
  nonce : String
  signature : String
  now : Int
  deriving DecidableEq, Repr

/-- A revocation sweeps what belongs to a device of a user, a disabling sweeps everything. -/
inductive Scope
  | device (userId deviceKeyId : String)
  | everything
  deriving DecidableEq, Repr

def Scope.covers (scope : Scope) (ownerId ownerKeyId : String) : Bool :=
  match scope with
  | .device userId deviceKeyId => decide (ownerId = userId) && decide (ownerKeyId = deviceKeyId)
  | .everything => true

/-- How far a revocation or a disabling has come: nothing is written yet; further requests are barred;
the tickets are gone; the attaches are taken out of the map, with their stop flags in hand. -/
inductive Sweep
  | begun
  | barred
  | purged
  | swept (attachIds : List String)
  deriving DecidableEq, Repr

inductive Call
  | asking (draft : Draft)
  | authorized (draft : Draft) (now : Int)
  | presented (frame : Presented)
  | looked (frame : Presented) (ticket : Ticket)
  | admitted (frame : Presented) (ticket : Ticket)
  | cleared (frame : Presented) (ticket : Ticket)
  | sweeping (scope : Scope) (sweep : Sweep)
  deriving DecidableEq, Repr

inductive Answer
  | rejected (error : ApiError)
  | issued (ticket : Ticket) (ticketSecret : String)
  | attached (frame : Presented) (attach : Attach) (clock : Int)
  | returned (scope : Scope)
  deriving DecidableEq, Repr

structure MobileSystem where
  clock : Int
  runtimeDisabled : Bool
  revokedKeys : List (String × String)
  tickets : KeyedTable Ticket.ticketId
  attaches : KeyedTable Attach.attachId
  calls : List Call
  drawn : List String
  log : List Answer

namespace MobileSystem

def active (system : MobileSystem) : List Attach := system.attaches.rows.filter (·.listed)

def proceed (system : MobileSystem) (index : Nat) (next : Option Call) : MobileSystem :=
  { system with calls := system.calls.eraseIdx index ++ next.toList }

def start (system : MobileSystem) (call : Call) : MobileSystem :=
  { system with calls := system.calls ++ [call] }

def answer (system : MobileSystem) (answer : Answer) : MobileSystem :=
  { system with log := system.log ++ [answer] }

def reject (system : MobileSystem) (index : Nat) (error : ApiError) : MobileSystem :=
  (system.proceed index none).answer (.rejected error)

def enabled (config : TerminalConfig) (system : MobileSystem) : Bool :=
  config.enabled && !system.runtimeDisabled

end MobileSystem

section

def Scope.coversTicket (scope : Scope) (ticket : Ticket) : Bool :=
  scope.covers ticket.userId ticket.deviceKeyId

def Scope.coversAttach (scope : Scope) (attach : Attach) : Bool :=
  scope.covers attach.userId attach.deviceKeyId

def nonemptyFrameField (value : Option String) : Option String :=
  (value.map trim).filter fun text => decide (text ≠ "")

def presentedFrame (frame : AuthFrame) (now : Int) : Except ApiError Presented :=
  match nonemptyFrameField frame.ticketId, nonemptyFrameField frame.ticketSecret,
      nonemptyFrameField frame.deviceKeyId, nonemptyFrameField frame.nonce,
      nonemptyFrameField frame.signature with
  | some ticketId, some ticketSecret, some deviceKeyId, some nonce, some signature =>
    .ok { ticketId, ticketSecret, deviceKeyId, nonce, signature, now }
  | _, _, _, _, _ => .error ⟨401, "Invalid terminal auth frame"⟩

def validateMobileTerminalTicketSecret (secretHash : String → String) (ticket : Ticket)
    (frame : Presented) : Except ApiError Unit :=
  if ticket.ticketId ≠ frame.ticketId then .error ⟨401, "Attach ticket is invalid or expired"⟩
  else if ticket.deviceKeyId ≠ frame.deviceKeyId then
    .error ⟨401, "Attach ticket device mismatch"⟩
  else if ticket.secretHash ≠ secretHash frame.ticketSecret then
    .error ⟨401, "Attach ticket secret mismatch"⟩
  else .ok ()

/-- The checks under the ticket lock that both sections of a consumption make. The tickets come back
without one that has expired. -/
def ticketForConsume (secretHash : String → String) (tickets : KeyedTable Ticket.ticketId)
    (frame : Presented) : KeyedTable Ticket.ticketId × Except ApiError Ticket :=
  match tickets.find frame.ticketId with
  | none => (tickets, .error ⟨401, "Attach ticket is invalid or expired"⟩)
  | some ticket =>
    match validateMobileTerminalTicketSecret secretHash ticket frame with
    | .error error => (tickets, .error error)
    | .ok () =>
      if ticket.expiresAtUnix ≤ frame.now then
        (tickets.retain fun other => decide (other.ticketId ≠ frame.ticketId),
          .error ⟨401, "Attach ticket is expired or consumed"⟩)
      else (tickets, .ok ticket)

/-- The limits on attaches: those of a consumption count active attaches only, those of a creation
count tickets too. -/
def enforceLimits (config : TerminalConfig) (total ofUser ofSession : Nat) : Except ApiError Unit :=
  if maxGlobal config ≤ total then .error ⟨429, "Too many active mobile attaches"⟩
  else if maxUser config ≤ ofUser then .error ⟨429, "Too many active mobile attaches for user"⟩
  else if maxSession config ≤ ofSession then
    .error ⟨429, "Session already has an active mobile attach"⟩
  else .ok ()

end

def Draft.ticket (draft : Draft) (config : TerminalConfig) (now : Int)
    (ticketId secretHash : String) : Ticket where
  ticketId := ticketId
  secretHash := secretHash
  userId := draft.userId
  actorEmail := draft.actorEmail
  sessionId := draft.sessionId
  provider := draft.provider
  node := draft.node
  tmuxSession := draft.tmuxSession
  tmuxSocketName := draft.tmuxSocketName
  deviceKeyId := draft.deviceKeyId
  createdAtUnix := now
  expiresAtUnix := now + ttlSeconds config

def Ticket.attach (ticket : Ticket) (attachId : String) (now : Int) : Attach where
  attachId := attachId
  userId := ticket.userId
  sessionId := ticket.sessionId
  provider := ticket.provider
  deviceKeyId := ticket.deviceKeyId
  startedAtUnix := now
  stop := false
  listed := true

section

variable (config : TerminalConfig) (secretHash : String → String) (system : MobileSystem)

/-- The section of `create_mobile_attach_ticket` under the ticket lock. -/
def issueSection (index : Nat) (draft : Draft) (now : Int) (ticketId ticketSecret : String) :
    MobileSystem :=
  let kept := system.tickets.retain fun ticket =>
    decide (now < ticket.expiresAtUnix) &&
      !(Scope.device draft.userId draft.deviceKeyId).coversTicket ticket
  let ticket := draft.ticket config now ticketId (secretHash ticketSecret)
  match enforceLimits config (kept.rows.length + system.active.length)
      (kept.count (fun other => other.userId = draft.userId) +
        system.active.countP fun attach => attach.userId = draft.userId)
      (kept.count (fun other => other.sessionId = draft.sessionId) +
        system.active.countP fun attach => attach.sessionId = draft.sessionId) with
  | .error error => { system with tickets := kept }.reject index error
  | .ok () =>
    if system.runtimeDisabled then
      { system with tickets := kept }.reject index ⟨403, "Mobile terminal attach is disabled"⟩
    else if fresh : kept.find ticket.ticketId = none then
      { system.proceed index none with
        tickets := kept.insert ticket fresh
        drawn := system.drawn ++ [ticketId] }.answer (.issued ticket ticketSecret)
    else system

/-- The last section of `consume_mobile_terminal_ticket`, under the locks of tickets and attaches. -/
def takeSection (index : Nat) (frame : Presented) (attachId : String) : MobileSystem :=
  match ticketForConsume secretHash system.tickets frame with
  | (tickets, .error error) => { system with tickets }.reject index error
  | (_, .ok ticket) =>
    match enforceLimits config system.active.length
        (system.active.countP fun attach => attach.userId = ticket.userId)
        (system.active.countP fun attach => attach.sessionId = ticket.sessionId) with
    | .error error => system.reject index error
    | .ok () =>
      let attach := ticket.attach attachId frame.now
      if fresh : system.attaches.find attach.attachId = none then
        { system.proceed index none with
          tickets := system.tickets.retain fun other => decide (other.ticketId ≠ frame.ticketId)
          attaches := system.attaches.insert attach fresh
          drawn := system.drawn ++ [attachId] }.answer (.attached frame attach system.clock)
      else system

def unlist (attaches : KeyedTable Attach.attachId) (chosen : Attach → Bool) :
    KeyedTable Attach.attachId :=
  attaches.update (fun attach => if chosen attach then { attach with listed := false } else attach)
    fun attach => by split <;> rfl

def listedIds (attaches : KeyedTable Attach.attachId) (chosen : Attach → Bool) : List String :=
  (attaches.rows.filter fun attach => attach.listed && chosen attach).map Attach.attachId

def setStops (attaches : KeyedTable Attach.attachId) (attachIds : List String) :
    KeyedTable Attach.attachId :=
  attaches.update (fun attach =>
      if attachIds.contains attach.attachId then { attach with stop := true } else attach)
    fun attach => by split <;> rfl

/-- What keeps further requests away: the key in the set of revoked ones, or the flag. -/
def bar : Scope → MobileSystem
  | .device userId deviceKeyId =>
    { system with revokedKeys := (userId, deviceKeyId) :: system.revokedKeys }
  | .everything => { system with runtimeDisabled := true }

/-- The sections of `revoke_mobile_terminal_device_in_state` and those of `disable_mobile_terminal`,
with the stores to the stop flags that follow them. -/
def sweepSection (index : Nat) (scope : Scope) : Sweep → MobileSystem
  | .begun => (bar system scope).proceed index (some (.sweeping scope .barred))
  | .barred =>
    { system.proceed index (some (.sweeping scope .purged)) with
      tickets := system.tickets.retain fun ticket => !scope.coversTicket ticket }
  | .purged =>
    { system.proceed index (some (.sweeping scope
        (.swept (listedIds system.attaches scope.coversAttach)))) with
      attaches := unlist system.attaches scope.coversAttach }
  | .swept attachIds =>
    { system.proceed index none with
      attaches := setStops system.attaches attachIds }.answer (.returned scope)

end

inductive MobileEvent
  | tick (seconds : Nat)
  | ask (draft : Draft)
  | authorize (index : Nat) (keyRegistered : Bool)
  | issue (index : Nat) (ticketId ticketSecret : String)
  | present (frame : AuthFrame)
  | look (index : Nat)
  | vet (index : Nat) (visibleUser : Option String) (keyRegistered : Bool)
  | clear (index : Nat) (checks : Except ApiError Unit)
  | take (index : Nat) (attachId : String)
  | detach (attachId : String)
  | revoke (userId deviceKeyId : String)
  | disable
  | advance (index : Nat)

def stepMobile (config : TerminalConfig) (secretHash : String → String) (system : MobileSystem) :
    MobileEvent → MobileSystem
  | .tick seconds => { system with clock := system.clock + seconds }
  | .ask draft =>
    if system.runtimeDisabled then
      system.answer (.rejected ⟨403, "Mobile terminal attach is disabled"⟩)
    else system.start (.asking draft)
  | .authorize index keyRegistered =>
    match system.calls[index]? with
    | some (.asking draft) =>
      if !config.enabled then system.reject index ⟨403, "Mobile terminal attach is disabled"⟩
      else if system.revokedKeys.contains (draft.userId, draft.deviceKeyId) ||
          !keyRegistered then
        system.reject index ⟨401, "Device key is not registered"⟩
      else system.proceed index (some (.authorized draft system.clock))
    | _ => system
  | .issue index ticketId ticketSecret =>
    match system.calls[index]? with
    | some (.authorized draft now) =>
      if system.drawn.contains ticketId then system
      else issueSection config secretHash system index draft now ticketId ticketSecret
    | _ => system
  | .present frame =>
    if !system.enabled config then
      system.answer (.rejected ⟨403, "mobile terminal attach is disabled"⟩)
    else
      match presentedFrame frame system.clock with
      | .error error => system.answer (.rejected error)
      | .ok presented => system.start (.presented presented)
  | .look index =>
    match system.calls[index]? with
    | some (.presented frame) =>
      match ticketForConsume secretHash system.tickets frame with
      | (tickets, .error error) => { system with tickets }.reject index error
      | (_, .ok ticket) => system.proceed index (some (.looked frame ticket))
    | _ => system
  | .vet index visibleUser keyRegistered =>
    match system.calls[index]? with
    | some (.looked frame ticket) =>
      if visibleUser ≠ some ticket.userId then
        system.reject index ⟨403, "User is no longer allowed to attach"⟩
      else if system.revokedKeys.contains (ticket.userId, frame.deviceKeyId) ||
          !keyRegistered then
        system.reject index ⟨401, "Device key is no longer registered"⟩
      else system.proceed index (some (.admitted frame ticket))
    | _ => system
  | .clear index checks =>
    match system.calls[index]? with
    | some (.admitted frame ticket) =>
      match checks with
      | .error error => system.reject index error
      | .ok () =>
        if !system.enabled config then
          system.reject index ⟨403, "mobile terminal attach is disabled"⟩
        else system.proceed index (some (.cleared frame ticket))
    | _ => system
  | .take index attachId =>
    match system.calls[index]? with
    | some (.cleared frame _) =>
      if system.drawn.contains attachId then system
      else takeSection config secretHash system index frame attachId
    | _ => system
  | .detach attachId =>
    { system with attaches := system.attaches.retain fun attach => attach.attachId ≠ attachId }
  | .revoke userId deviceKeyId => system.start (.sweeping (.device userId deviceKeyId) .begun)
  | .disable => system.start (.sweeping .everything .begun)
  | .advance index =>
    match system.calls[index]? with
    | some (.sweeping scope sweep) => sweepSection system index scope sweep
    | _ => system

def vacant : MobileSystem where
  clock := 0
  runtimeDisabled := false
  revokedKeys := []
  tickets := ⟨[], List.nodup_nil⟩
  attaches := ⟨[], List.nodup_nil⟩
  calls := []
  drawn := []
  log := []

def runMobile (config : TerminalConfig) (secretHash : String → String) (system : MobileSystem)
    (events : List MobileEvent) : MobileSystem :=
  events.foldl (stepMobile config secretHash) system

end SessionManager.Mobile
