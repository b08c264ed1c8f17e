import SessionManager.Reparent.Topology

/-! The notifications that every write of the requests projects, the refresh that retires requests,
the plan of a request, and the creation of single and tree requests. Every operation takes the
registry under the write lock and leaves the registry that it persists; the generated request
identifier is an argument. Notification texts are left out. -/
namespace SessionManager.Reparent
open Foundation Sessions Queue

section

def sortedDistinct (values : List String) : List String := values.dedup.insertionSort (· ≤ ·)

def reparentNotification (record : RequestRecord) (event recipient : String) : NotificationIntent :=
  let id := record.id
  ⟨s!"reparent:{id}:{event}:{recipient}", event, recipient, none⟩

def reparentParties (record : RequestRecord) : List String :=
  record.requiredAgentApprovals ++ [record.initiatorSessionId]

def missingApprovals (record : RequestRecord) : List String :=
  record.requiredAgentApprovals.filter fun actor => !record.approvals.any fun approval =>
    approval.actorKind = .agent && approval.decision = .approved && approval.actorId = actor

def desiredReparentNotifications (record : RequestRecord) : List NotificationIntent :=
  match record.status with
  | .pending =>
    let missing := missingApprovals record
    let event := "approval:" ++ ",".intercalate missing
    missing.map (reparentNotification record event) ++
      if 1 < record.approvals.length then
        (sortedDistinct ((reparentParties record).filter fun recipient =>
          !missing.contains recipient)).map (reparentNotification record event)
      else []
  | .applying => []
  | .failed =>
    let event := "quarantined:" ++ (record.applyStage.getD .applying).text
    (sortedDistinct (reparentParties record)).map (reparentNotification record event)
  | status =>
    let event := "terminal:" ++ status.text
    (sortedDistinct (reparentParties record)).map (reparentNotification record event)

def isTerminalEvent (event : String) : Bool := "terminal:".toList.isPrefixOf event.toList

def reconcileReparentNotificationIntents (record : RequestRecord) : RequestRecord :=
  let desired := desiredReparentNotifications record
  let kept := record.notificationIntents.filter fun intent => intent.enqueuedAt.isSome ||
    !isTerminalEvent intent.event || desired.any fun wanted => wanted.key = intent.key
  let push (intents : List NotificationIntent) (wanted : NotificationIntent) :=
    if intents.all fun intent => intent.key ≠ wanted.key then intents ++ [wanted] else intents
  { record with notificationIntents := desired.foldl push kept }

def storeReparentRequestRecords (registry : Registry) (records : List RequestRecord) : Registry :=
  { registry with reparentRequests := records.map reconcileReparentNotificationIntents }

end

section

variable (env : Env) (registry : Registry)

def reparentRequestSupersedes (applied pending : RequestRecord) : Bool :=
  applied.id ≠ pending.id && applied.status = .applied &&
    applied.topologyFingerprint = pending.topologyFingerprint &&
    match applied.appliedAt.bind env.parseTime, env.parseTime pending.createdAt with
    | some appliedAt, some createdAt => createdAt < appliedAt
    | _, _ => false

def minBy {α : Type} (before : α → α → Bool) (values : List α) : Option α :=
  values.foldl (fun best value =>
    match best with
    | none => some value
    | some best => if before value best then some value else some best) none

def appliedBefore (first second : RequestRecord) : Bool :=
  match first.appliedAt, second.appliedAt with
  | none, some _ => true
  | some _, none => false
  | none, none => first.id < second.id
  | some a, some b => a < b || a = b && first.id < second.id

def supersedingRequest (records : List RequestRecord) (record : RequestRecord) :
    Option RequestRecord :=
  minBy appliedBefore (records.filter fun other => reparentRequestSupersedes env other record)

def retired (record : RequestRecord) (status : RequestStatus) (reason : String) : RequestRecord :=
  { record with
    status, decidedAt := some env.nowText, failureReason := some reason, readyToApply := false }

/-- Only an applied request supersedes another and a refresh makes none, so the order in which the
requests are refreshed does not matter. -/
def refreshReparentRequest (records : List RequestRecord) (record : RequestRecord) :
    RequestRecord :=
  if record.status ≠ .pending then record
  else
    match env.parseTime record.expiresAt with
    | none => retired env record .stale "request expiry timestamp is invalid"
    | some expiresAt =>
      if expiresAt ≤ env.now then
        retired env record .expired "request expired before all approvals"
      else
        match reparentStaleReason registry record with
        | none => record
        | some reason =>
          match supersedingRequest env records record with
          | none => retired env record .stale reason
          | some winner =>
            let id := winner.id
            { retired env record .superseded s!"request superseded by {id}" with
              supersededByRequestId := some winner.id }

def refreshReparentRequests (records : List RequestRecord) : List RequestRecord :=
  records.map (refreshReparentRequest env registry records)

theorem refreshReparentRequest_cases (records : List RequestRecord) (record : RequestRecord) :
    refreshReparentRequest env registry records record = record ∨
      record.status = .pending ∧ ∃ status winner reason,
        (status = .expired ∨ status = .stale ∨ status = .superseded) ∧
          refreshReparentRequest env registry records record =
            { retired env record status reason with supersededByRequestId := winner } := by
  unfold refreshReparentRequest
  split
  · exact .inl rfl
  rename_i hpe
  have hpe : record.status = .pending := by simpa using hpe
  split
  · exact .inr ⟨hpe, .stale, record.supersededByRequestId, _, by simp, rfl⟩
  split
  · exact .inr ⟨hpe, .expired, record.supersededByRequestId, _, by simp, rfl⟩
  split
  · exact .inl rfl
  · split
    · exact .inr ⟨hpe, .stale, record.supersededByRequestId, _, by simp, rfl⟩
    · exact .inr ⟨hpe, .superseded, _, _, by simp, rfl⟩

end

section

structure TreePreview where
  sourceSessionId : String
  targetSessionId : String
  peerRootSuccession : Bool
  stoppedRootRecovery : Bool
  frozenLiveChildIds : List String
  edgeChanges : List EdgeChange
  jsonRoutingChanges : List RoutingChange
  queueRoutingChanges : List RoutingChange
  requiredAgentApprovals : List String
  requiredHumanApproval : Bool
  blockers : List String
  deriving DecidableEq, Repr

inductive MutationOutcome
  | created (record : RequestRecord)
  | updated (record : RequestRecord)
  | preview (preview : TreePreview)
  | sessionNotFound (id : String)
  | requestNotFound
  | badRequest (reason : String)
  | forbidden (reason : String)
  | conflict (reason : String)
  | expired
  deriving DecidableEq, Repr

def sessionCredentialMatches (env : Env) (registry : Registry) (sessionId credential : String) :
    Bool :=
  trim sessionId ≠ "" && trim credential ≠ "" &&
    ((((findSession registry (trim sessionId)).bind SessionRecord.sessionCredentialSha256).map
      trim).any fun expected => expected ≠ "" && expected = env.sha256Text (trim credential))

def credentialRefusal : String :=
  "session credential is missing, stale, or does not match the claimed actor"

def overlaps (first second : List String) : Bool := first.any second.contains

def requestTtl : Int := 24 * 3600 * 1000000000

end

section

variable (env : Env) (registry : Registry)

def newSingleRequest (id subject target requester : String) (expectedParent : Option String)
    (expectedParentIsLive : Bool) : RequestRecord :=
  let requiredAgentApprovals := sortedDistinct
    (target :: if expectedParentIsLive then expectedParent.toList else [])
  let requiredHumanApproval := !expectedParentIsLive
  let approvals := [⟨.agent, requester, .approved, env.nowText⟩]
  { id
    kind := .single
    subjectSessionId := subject
    targetParentSessionId := target
    expectedParentSessionId := expectedParent
    expectedParentIsLive
    expectedTargetParentSessionId := none
    expectedTargetParentIsLive := false
    stoppedRootAuthorizedMaintainerSessionId := none
    detachNonLiveParent := false
    peerRootSuccession := false
    stoppedRootRecovery := false
    frozenLiveChildIds := []
    initiatorSessionId := requester
    requiredAgentApprovals
    requiredHumanApproval
    approvals
    status := .pending
    readyToApply := approvalsSatisfied requiredAgentApprovals requiredHumanApproval approvals
    createdAt := env.nowText
    expiresAt := env.formatTime (env.now + requestTtl)
    decidedAt := none
    appliedAt := none
    failureReason := none
    supersededByRequestId := none
    topologyFingerprint := reparentTopologyFingerprint .single subject target expectedParent none []
      false false
    applyStage := none
    applyPlan := none
    notificationIntents := []
    deferredRoutingIntents := []
    repairHistory := [] }

def singleRequestRefusal (subject target requester credential : String) : Option MutationOutcome :=
  if subject = "" ∨ target = "" ∨ requester = "" then
    some (.badRequest "subject, target parent, and requester session IDs are required")
  else if subject = target then some (.badRequest "a session cannot be its own parent")
  else if !sessionCredentialMatches env registry requester credential then
    some (.forbidden credentialRefusal)
  else
    match findSession registry subject with
    | none => some (.sessionNotFound subject)
    | some subjectSession =>
      if !subjectSession.isLiveForRegistry then
        some (.badRequest s!"subject session {subject} is stopped")
      else
        match findSession registry target with
        | none => some (.sessionNotFound target)
        | some targetParent =>
          if !targetParent.isLiveForRegistry then
            some (.badRequest s!"target parent session {target} is stopped")
          else if !sessionSupportsReparentConsent targetParent then
            some (.badRequest
              s!"target parent session {target} cannot participate in credential-bound consent")
          else if subjectSession.parentSessionId = some target then
            some (.badRequest s!"session {subject} is already a child of {target}")
          else
            let expectedParent := subjectSession.parentSessionId
            let expectedParentIsLive := expectedParent.any (isLive registry)
            if !(expectedParentIsLive && expectedParent = some requester) && requester ≠ target then
              some (.forbidden
                "only the live current parent or proposed new parent may request reparenting")
            else
              match (expectedParent.bind (findSession registry)).filter fun parent =>
                  parent.isLiveForRegistry && !sessionSupportsReparentConsent parent with
              | some parent =>
                let id := parent.id
                some (.badRequest
                  s!"current parent session {id} cannot participate in credential-bound consent")
              | none =>
                if reparentWouldCreateCycle registry subject target then
                  some (.conflict "reparenting would create a session hierarchy cycle")
                else none

def createReparentRequest (freshId subjectSessionId targetParentSessionId requesterSessionId
    credential : String) : Registry × MutationOutcome :=
  let subject := trim subjectSessionId
  let target := trim targetParentSessionId
  let requester := trim requesterSessionId
  match singleRequestRefusal env registry subject target requester credential with
  | some outcome => (registry, outcome)
  | none =>
    let records := refreshReparentRequests env registry registry.reparentRequests
    match records.find? fun record =>
        record.isActive && overlaps record.affectedSessionIds [subject] with
    | some conflict =>
      let id := conflict.id
      (storeReparentRequestRecords registry records,
        .conflict s!"request {id} already controls session {subject}")
    | none =>
      let expectedParent := parentOf registry subject
      let record := newSingleRequest env freshId subject target requester expectedParent
        (expectedParent.any (isLive registry))
      (storeReparentRequestRecords registry (records ++ [record]), .created record)

end

section

variable (registry : Registry) (queue : QueueDb)

def jsonRoutingChanges (edge : EdgeChange) : List RoutingChange :=
  match edge.expectedParentSessionId with
  | none => []
  | some oldParent =>
    let wakes := registry.retainedParentWakes.filter fun entry =>
      entry.childSessionId = edge.sessionId && entry.parentSessionId = some oldParent &&
        entry.isActive
    let monitored := (findSession registry edge.sessionId).filter fun session =>
      session.contextMonitorNotify = some oldParent &&
        session.contextMonitorNotifySource = some "parent_derived"
    (wakes.map fun entry =>
      { store := .json, recordKind := .parentWake, recordId := entry.id
        childSessionId := edge.sessionId
        expectedTargetSessionId := some oldParent
        newTargetSessionId := edge.newParentSessionId
        priorActive := some true
        periodSeconds := some entry.periodSeconds
        createsParentWake := false }) ++
    monitored.toList.map fun session =>
      { store := .json, recordKind := .contextMonitor, recordId := edge.sessionId
        childSessionId := edge.sessionId
        expectedTargetSessionId := some oldParent
        newTargetSessionId := edge.newParentSessionId
        priorActive := some session.contextMonitorEnabled
        periodSeconds := none
        createsParentWake := false }

def queueRoutingChanges (edge : EdgeChange) : List RoutingChange :=
  match edge.expectedParentSessionId with
  | none => []
  | some oldParent =>
    let snapshot := snapshotParentRouting queue edge.sessionId oldParent
    (snapshot.wakeRows.map fun row =>
      { store := .queue, recordKind := .parentWake, recordId := row.id
        childSessionId := row.childSessionId
        expectedTargetSessionId := some row.parentSessionId
        newTargetSessionId := edge.newParentSessionId
        priorActive := some row.isActive
        periodSeconds := some row.periodSeconds
        createsParentWake := false }) ++
    snapshot.messageRows.map fun row =>
      { store := .queue, recordKind := .message, recordId := row.id
        childSessionId := row.childSessionId
        expectedTargetSessionId := some row.parentSessionId
        newTargetSessionId := edge.newParentSessionId
        priorActive := none
        periodSeconds := none
        createsParentWake := row.createsParentWake }

def buildReparentRoutingChanges (edges : List EdgeChange) :
    List RoutingChange × List RoutingChange :=
  (edges.flatMap (jsonRoutingChanges registry), edges.flatMap (queueRoutingChanges queue))

def buildReparentApplyPlan (record : RequestRecord) : ApplyPlan :=
  let edges := requestEdgeChanges record
  let changes := buildReparentRoutingChanges registry queue edges
  ⟨1, edges, changes.1, changes.2⟩

end

section

variable (env : Env) (registry : Registry) (queue : QueueDb)

def isStoppedRootRecovery (source : SessionRecord) : Bool := stoppedRootRecoverySourceEligible source

def isPeerRootSuccession (source target : SessionRecord) : Bool :=
  !isStoppedRootRecovery source && source.parentSessionId.isNone && target.parentSessionId.isNone

/-- The maintainer that authorizes the recovery of a stopped root, or what is missing. -/
def stoppedRootAuthorization (target : SessionRecord) : Option String × List String :=
  match target.parentSessionId.bind (findSession registry) with
  | none => (none, ["stopped-root recovery requires a live current target parent"])
  | some parent =>
    let id := parent.id
    let consent :=
      if !parent.isLiveForRegistry || !sessionSupportsReparentConsent parent then
        [s!"current target parent session {id} cannot participate in credential-bound consent"]
      else []
    match registry.maintainerSessionId with
    | none =>
      (none, consent ++ ["stopped-root recovery requires a durable maintainer registration"])
    | some maintainer =>
      if maintainer = parent.id then (some maintainer, consent)
      else (none, consent ++ ["current target parent is not the durable maintainer"])

def treeEdgeChanges (source target : SessionRecord) : List EdgeChange :=
  treeReparentEdgeChanges source.id target.id source.parentSessionId
    (source.parentSessionId.filter (isLive registry)) target.parentSessionId
    (liveChildren registry source.id) (isPeerRootSuccession source target)
    (isStoppedRootRecovery source)

def treeBlockers (source target : SessionRecord) : List String :=
  let sourceId := source.id
  let targetId := target.id
  let recovery := isStoppedRootRecovery source
  let block (condition : Bool) (reason : String) := if condition then [reason] else []
  block (!source.isLiveForRegistry && !recovery) s!"source session {sourceId} is stopped" ++
  block (!target.isLiveForRegistry) s!"target session {targetId} is stopped" ++
  block (!recovery && !sessionSupportsReparentConsent source)
    s!"source session {sourceId} cannot participate in credential-bound consent" ++
  block (!sessionSupportsReparentConsent target)
    s!"target session {targetId} cannot participate in credential-bound consent" ++
  block (!recovery && target.parentSessionId ≠ some source.id &&
      !isPeerRootSuccession source target)
    s!"target session {targetId} must be a live direct child of {sourceId}, or both source and target must be roots for peer-root succession" ++
  (((source.parentSessionId.bind (findSession registry)).filter fun parent =>
    parent.isLiveForRegistry && !sessionSupportsReparentConsent parent).toList.map fun parent =>
      let id := parent.id
      s!"current parent session {id} cannot participate in credential-bound consent") ++
  (if recovery then (stoppedRootAuthorization registry target).2 else []) ++
  block (recovery && registry.sessions.any fun session =>
      session.parentSessionId = some target.id)
    s!"stopped-root recovery requires target session {targetId} to have no existing children" ++
  block (reparentPlanWouldCreateCycle registry (treeEdgeChanges registry source target))
    "tree promotion would create a session hierarchy cycle"

def treeInitiatorAllowed (source target : SessionRecord) (requester : String) : Bool :=
  if isStoppedRootRecovery source then requester = target.id
  else requester = source.id || requester = target.id ||
    (source.parentSessionId.any (isLive registry) && source.parentSessionId = some requester)

def treeRequiredAgentApprovals (source target : SessionRecord) : List String :=
  let recovery := isStoppedRootRecovery source
  sortedDistinct (target.id :: (if recovery then [] else [source.id]) ++
    (source.parentSessionId.filter (isLive registry)).toList ++
      if recovery then target.parentSessionId.toList else [])

def newTreeRequest (id requester : String) (source target : SessionRecord) : RequestRecord :=
  let requiredAgentApprovals := treeRequiredAgentApprovals registry source target
  let approvals := [⟨.agent, requester, .approved, env.nowText⟩]
  let recovery := isStoppedRootRecovery source
  let peer := isPeerRootSuccession source target
  { id
    kind := .tree
    subjectSessionId := source.id
    targetParentSessionId := target.id
    expectedParentSessionId := source.parentSessionId
    expectedParentIsLive := source.parentSessionId.any (isLive registry)
    expectedTargetParentSessionId := target.parentSessionId
    expectedTargetParentIsLive := target.parentSessionId.any (isLive registry)
    stoppedRootAuthorizedMaintainerSessionId :=
      if recovery then (stoppedRootAuthorization registry target).1 else none
    detachNonLiveParent := true
    peerRootSuccession := peer
    stoppedRootRecovery := recovery
    frozenLiveChildIds := liveChildren registry source.id
    initiatorSessionId := requester
    requiredAgentApprovals
    requiredHumanApproval := false
    approvals
    status := .pending
    readyToApply := approvalsSatisfied requiredAgentApprovals false approvals
    createdAt := env.nowText
    expiresAt := env.formatTime (env.now + requestTtl)
    decidedAt := none
    appliedAt := none
    failureReason := none
    supersededByRequestId := none
    topologyFingerprint := reparentTopologyFingerprint .tree source.id target.id
      source.parentSessionId target.parentSessionId (liveChildren registry source.id) peer recovery
    applyStage := none
    applyPlan := none
    notificationIntents := []
    deferredRoutingIntents := []
    repairHistory := [] }

def treePreview (source target : SessionRecord) : TreePreview :=
  let edges := treeEdgeChanges registry source target
  let changes := buildReparentRoutingChanges registry queue edges
  { sourceSessionId := source.id
    targetSessionId := target.id
    peerRootSuccession := isPeerRootSuccession source target
    stoppedRootRecovery := isStoppedRootRecovery source
    frozenLiveChildIds := liveChildren registry source.id
    edgeChanges := edges
    jsonRoutingChanges := changes.1
    queueRoutingChanges := changes.2
    requiredAgentApprovals := treeRequiredAgentApprovals registry source target
    requiredHumanApproval := false
    blockers := treeBlockers registry source target }

/-- The registry that an operation persists when nothing but a refresh came of it. -/
def persistRefreshed : Registry :=
  let records := refreshReparentRequests env registry registry.reparentRequests
  if records ≠ registry.reparentRequests then storeReparentRequestRecords registry records
  else registry

def createReparentTreeRequest (freshId sourceSessionId targetSessionId requesterSessionId
    credential : String) (dryRun : Bool) : Registry × MutationOutcome :=
  let sourceId := trim sourceSessionId
  let targetId := trim targetSessionId
  let requester := trim requesterSessionId
  if sourceId = "" ∨ targetId = "" ∨ requester = "" then
    (registry, .badRequest "source, target, and requester session IDs are required")
  else if !sessionCredentialMatches env registry requester credential then
    (registry, .forbidden credentialRefusal)
  else
    match findSession registry sourceId with
    | none => (registry, .sessionNotFound sourceId)
    | some source =>
      match findSession registry targetId with
      | none => (registry, .sessionNotFound targetId)
      | some target =>
        if !treeInitiatorAllowed registry source target requester then
          (registry, .forbidden
            "only the source, target, or live source parent may request tree promotion")
        else
          let records := refreshReparentRequests env registry registry.reparentRequests
          let affected := (treeEdgeChanges registry source target).map EdgeChange.sessionId ++
            source.parentSessionId.toList ++ target.parentSessionId.toList
          match treeBlockers registry source target with
          | blocker :: _ => (persistRefreshed env registry, .badRequest blocker)
          | [] =>
            match records.find? fun record =>
                record.isActive && overlaps record.affectedSessionIds affected with
            | some conflict =>
              let id := conflict.id
              let controlled :=
                if affected.contains conflict.subjectSessionId then conflict.subjectSessionId
                else ((sortedDistinct conflict.affectedSessionIds).find?
                  affected.contains).getD "unknown"
              (storeReparentRequestRecords registry records,
                .conflict s!"request {id} already controls session {controlled} in the tree promotion")
            | none =>
              if dryRun then
                (persistRefreshed env registry, .preview (treePreview registry queue source target))
              else
                let record := newTreeRequest env registry freshId requester source target
                (storeReparentRequestRecords registry (records ++ [record]), .created record)

end

end SessionManager.Reparent
