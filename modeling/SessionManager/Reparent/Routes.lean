import SessionManager.Reparent.Decisions

/-! What a plan does to the two stores. The routes of the registry are validated and fenced, given to
the new parent together with the edges, or restored; the queue rows of a plan are collected into a
snapshot, or into one snapshot for each parent that receives them. A plan that does not fit the store
stops with the text of the error. -/
namespace SessionManager.Reparent
open Foundation Queue

section

/-- The record a route stands for: whom it targets and whether it is active. -/
def validateJsonParentRoute (change : RoutingChange) (target : Option String) (active : Bool)
    (source : Option String) (allowPreState : Bool) : Except String Unit :=
  let id := change.recordId
  if !(target = change.expectedTargetSessionId &&
      (!active || allowPreState && change.priorActive = some active)) then
    .error s!"JSON route {id} changed after planning"
  else if change.recordKind = .contextMonitor ∧ source ≠ some "parent_derived" then
    .error s!"context monitor {id} lost parent provenance"
  else .ok ()

variable (registry : Registry)

def findRetainedWake (id : String) : Option RetainedWake :=
  registry.retainedParentWakes.find? fun entry => entry.id = id

def updateRetainedWake (id : String) (change : RetainedWake → RetainedWake) : Registry :=
  { registry with
    retainedParentWakes := modifyFirst (fun entry => entry.id = id) change
      registry.retainedParentWakes }

def updateSession (id : String) (change : SessionRecord → SessionRecord) : Registry :=
  { registry with
    sessions := modifyFirst (fun session => session.id = id) change registry.sessions }

/-- The three passes over the routes of a plan differ in the check and in what they write. -/
def overJsonRoute (checkWake : RoutingChange → RetainedWake → Except String Unit)
    (checkMonitor : RoutingChange → SessionRecord → Except String Unit)
    (setWake : RoutingChange → RetainedWake → RetainedWake)
    (setMonitor : RoutingChange → SessionRecord → SessionRecord)
    (registry : Registry) (change : RoutingChange) : Except String Registry :=
  match change.recordKind with
  | .parentWake =>
    match findRetainedWake registry change.recordId with
    | none => let id := change.recordId; .error s!"parent wake {id} disappeared"
    | some entry => do
      checkWake change entry
      .ok (updateRetainedWake registry change.recordId (setWake change))
  | .contextMonitor =>
    match findSession registry change.childSessionId with
    | none => let id := change.childSessionId; .error s!"session {id} disappeared"
    | some session => do
      checkMonitor change session
      .ok (updateSession registry change.childSessionId (setMonitor change))
  | .message => .error "unsupported JSON routing record kind message"

def checkWake (allowPreState : Bool) (change : RoutingChange) (entry : RetainedWake) :
    Except String Unit :=
  validateJsonParentRoute change entry.parentSessionId entry.isActive none allowPreState

def checkMonitor (allowPreState : Bool) (change : RoutingChange) (session : SessionRecord) :
    Except String Unit :=
  validateJsonParentRoute change session.contextMonitorNotify session.contextMonitorEnabled
    session.contextMonitorNotifySource allowPreState

def quiesceJsonRoute : Registry → RoutingChange → Except String Registry :=
  overJsonRoute (checkWake true) (checkMonitor true)
    (fun _ entry => { entry with isActive := false })
    (fun _ session => { session with contextMonitorEnabled := false })

def quiesceJsonReparentRoutes (plan : ApplyPlan) : Except String Registry :=
  plan.jsonRoutingChanges.foldlM quiesceJsonRoute registry

def retargetedActive (change : RoutingChange) : Bool :=
  change.newTargetSessionId.isSome && change.priorActive.getD false

def commitJsonRoute : Registry → RoutingChange → Except String Registry :=
  overJsonRoute (checkWake false) (checkMonitor false) (fun change entry =>
      { entry with
        parentSessionId := change.newTargetSessionId.or entry.parentSessionId
        isActive := retargetedActive change })
    (fun change session =>
      { session with
        contextMonitorNotify := change.newTargetSessionId
        contextMonitorEnabled := retargetedActive change })

def commitEdge (registry : Registry) (change : EdgeChange) : Except String Registry :=
  let id := change.sessionId
  match findSession registry change.sessionId with
  | none => .error s!"session {id} disappeared"
  | some session =>
    if session.parentSessionId ≠ change.expectedParentSessionId then
      .error s!"session {id} parent changed after planning"
    else .ok (updateSession registry change.sessionId fun session =>
      { session with parentSessionId := change.newParentSessionId })

def commitJsonReparentPlan (plan : ApplyPlan) : Except String Registry := do
  let moved ← plan.edgeChanges.foldlM commitEdge registry
  plan.jsonRoutingChanges.foldlM commitJsonRoute moved

def restoreJsonRoute (registry : Registry) (change : RoutingChange) : Except String Registry :=
  match change.expectedTargetSessionId with
  | none => let id := change.recordId; .error s!"routing change {id} has no old parent"
  | some oldParent =>
    let active := change.priorActive.getD false
    overJsonRoute (fun change entry =>
        if entry.parentSessionId = some oldParent ∧ entry.isActive = active then .ok ()
        else checkWake false change entry)
      (fun change session =>
        if session.contextMonitorNotify = some oldParent ∧
            session.contextMonitorEnabled = active then .ok ()
        else checkMonitor false change session)
      (fun _ entry => { entry with parentSessionId := some oldParent, isActive := active })
      (fun _ session =>
        { session with contextMonitorNotify := some oldParent, contextMonitorEnabled := active })
      registry change

def restoreJsonReparentRoutes (plan : ApplyPlan) : Except String Registry :=
  plan.jsonRoutingChanges.foldlM restoreJsonRoute registry

def verifyOldReparentEdge (change : EdgeChange) : Except String Unit :=
  let id := change.sessionId
  match findSession registry change.sessionId with
  | none => .error s!"session {id} disappeared"
  | some session =>
    if session.parentSessionId ≠ change.expectedParentSessionId then
      .error s!"session {id} authority changed before rollback"
    else .ok ()

def verifyOldReparentEdges (plan : ApplyPlan) : Except String Unit :=
  plan.edgeChanges.forM (verifyOldReparentEdge registry)

end

section

def addQueueRoute (snapshot : ParentRoutingSnapshot) (change : RoutingChange) :
    Except String ParentRoutingSnapshot :=
  let id := change.recordId
  match change.expectedTargetSessionId with
  | none => .error s!"routing change {id} has no old parent"
  | some oldParent =>
    match change.recordKind with
    | .parentWake =>
      match change.periodSeconds, change.priorActive with
      | none, _ => .error s!"parent wake {id} has no period"
      | some _, none => .error s!"parent wake {id} has no active state"
      | some period, some active =>
        .ok { snapshot with
          wakeRows := snapshot.wakeRows ++ [⟨id, change.childSessionId, oldParent, period, active⟩] }
    | .message =>
      .ok { snapshot with
        messageRows := snapshot.messageRows ++
          [⟨id, change.childSessionId, oldParent, change.createsParentWake⟩] }
    | .contextMonitor => .error "unsupported queue routing record kind context_monitor"

def queueRoute (snapshot : ParentRoutingSnapshot) (change : RoutingChange) :
    Except String ParentRoutingSnapshot :=
  match change.store with
  | .json => .error "queue routing plan contains store json"
  | .queue => addQueueRoute snapshot change

def queueSnapshotFromPlan (plan : ApplyPlan) : Except String ParentRoutingSnapshot :=
  plan.queueRoutingChanges.foldlM queueRoute ⟨[], []⟩

def routeTarget (restoreOldTargets : Bool) (change : RoutingChange) : Option String :=
  if restoreOldTargets then change.expectedTargetSessionId else change.newTargetSessionId

/-- The order of the groups: no parent first, then by the text of the parent. -/
def targetBefore : Option String → Option String → Bool
  | none, _ => true
  | some _, none => false
  | some first, some second => first ≤ second

def routeTargets (restoreOldTargets : Bool) (plan : ApplyPlan) : List (Option String) :=
  ((plan.queueRoutingChanges.map (routeTarget restoreOldTargets)).dedup).insertionSort
    fun first second => targetBefore first second

def routeGroup (restoreOldTargets : Bool) (plan : ApplyPlan) (target : Option String) :
    Except String (ParentRoutingSnapshot × Option String) := do
  let snapshot ← (plan.queueRoutingChanges.filter fun change =>
    routeTarget restoreOldTargets change = target).foldlM queueRoute ⟨[], []⟩
  .ok (snapshot, target)

/-- The first pass finds the row that does not fit, whichever group it belongs to. -/
def queueRouteGroupsFromPlan (plan : ApplyPlan) (restoreOldTargets : Bool) :
    Except String (List (ParentRoutingSnapshot × Option String)) := do
  let _ ← queueSnapshotFromPlan plan
  (routeTargets restoreOldTargets plan).mapM (routeGroup restoreOldTargets plan)

end

section

variable (registry : Registry)

def retainedWakeId (childSessionId : String) : String := s!"rust-wake-{childSessionId}"

/-- Replaces the first registration of the child, or appends one. -/
def upsertParentWakeRaw (childSessionId parentSessionId : String) (periodSeconds : Int) : Registry :=
  let entry : RetainedWake :=
    ⟨retainedWakeId childSessionId, childSessionId, some parentSessionId, periodSeconds, true⟩
  { registry with
    retainedParentWakes :=
      if registry.retainedParentWakes.any fun entry => entry.childSessionId = childSessionId then
        modifyFirst (fun entry => entry.childSessionId = childSessionId) (fun _ => entry)
          registry.retainedParentWakes
      else registry.retainedParentWakes ++ [entry] }

def deactivateParentWakeRaw (childSessionId : String) : Registry :=
  { registry with
    retainedParentWakes := registry.retainedParentWakes.map fun entry =>
      if entry.childSessionId = childSessionId then { entry with isActive := false } else entry }

def pushRetainedMessageOnceRaw (message : RetainedMessage) : Except String Registry :=
  match registry.retainedPendingMessages.find? fun existing => existing.id = message.id with
  | some existing =>
    if existing = message then .ok registry
    else
      let id := message.id
      .error s!"retained message id {id} already exists with different content"
  | none => .ok { registry with
      retainedPendingMessages := registry.retainedPendingMessages ++ [message] }

end

end SessionManager.Reparent
