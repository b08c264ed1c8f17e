import SessionManager.Reparent.Requests

/-! Decisions on a reparent request by agents and by a human, and the acquisition of the apply lease,
which fixes the plan of the oldest request that everybody has approved. An approval that completes a
request also starts the apply driver; that start is a step of its own. -/
namespace SessionManager.Reparent
open Foundation Sessions Queue

section

variable (env : Env) (registry : Registry)

def withDecision (kind : ActorKind) (actor : String) (decision : ReparentDecision)
    (record : RequestRecord) : RequestRecord :=
  let approvals := record.approvals ++ [⟨kind, actor, decision, env.nowText⟩]
  match decision with
  | .rejected =>
    { record with
      approvals, status := .rejected, decidedAt := some env.nowText, readyToApply := false }
  | .approved =>
    { record with
      approvals
      readyToApply := approvalsSatisfied record.requiredAgentApprovals record.requiredHumanApproval
        approvals }

/-- The decision on the first request with the identifier, among the refreshed ones. -/
def storeDecision (kind : ActorKind) (actor requestId : String) (decision : ReparentDecision) :
    Registry :=
  storeReparentRequestRecords registry
    (modifyFirst (fun record => record.id = requestId) (withDecision env kind actor decision)
      (refreshReparentRequests env registry registry.reparentRequests))

def storeRefreshed : Registry :=
  storeReparentRequestRecords registry
    (refreshReparentRequests env registry registry.reparentRequests)

def decideReparentRequest (requestIdText requesterSessionId credential : String)
    (decision : ReparentDecision) : Registry × MutationOutcome :=
  let requestId := trim requestIdText
  let requester := trim requesterSessionId
  if requestId = "" ∨ requester = "" then
    (registry, .badRequest "request ID and requester session ID are required")
  else if !sessionCredentialMatches env registry requester credential then
    (registry, .forbidden credentialRefusal)
  else
    let records := refreshReparentRequests env registry registry.reparentRequests
    match records.find? fun record => record.id = requestId with
    | none => (persistRefreshed env registry, .requestNotFound)
    | some record =>
      if !record.requiredAgentApprovals.contains requester then
        (registry, .forbidden
          s!"session {requester} is not a required approver for request {requestId}")
      else
        match record.approvals.find? fun approval =>
            approval.actorKind = .agent && approval.actorId = requester with
        | some existing =>
          if existing.decision = decision then (persistRefreshed env registry, .updated record)
          else
            let earlier := existing.decision.text
            (registry, .conflict s!"session {requester} already {earlier} request {requestId}")
        | none =>
          if record.status = .expired then (storeRefreshed env registry, .expired)
          else if record.status ≠ .pending then
            let id := record.id
            let status := record.status.text
            let detail := (record.failureReason.map fun reason => s!": {reason}").getD ""
            (storeRefreshed env registry, .conflict s!"request {id} is already {status}{detail}")
          else
            (storeDecision env registry .agent requester requestId decision,
              .updated (withDecision env .agent requester decision record))

/-- Unlike an agent's decision, one on a request that is no longer pending persists nothing, and any
earlier decision of a human stands in the way of another human's. -/
def decideReparentRequestAsHuman (requestIdText actorText : String) (decision : ReparentDecision) :
    Registry × MutationOutcome :=
  let requestId := trim requestIdText
  let actor := trim actorText
  if requestId = "" ∨ actor = "" then
    (registry, .badRequest "request ID and authenticated human actor are required")
  else
    let records := refreshReparentRequests env registry registry.reparentRequests
    match records.find? fun record => record.id = requestId with
    | none => (persistRefreshed env registry, .requestNotFound)
    | some record =>
      if !record.requiredHumanApproval then
        (registry, .forbidden s!"request {requestId} does not require human approval")
      else
        match record.approvals.find? fun approval => approval.actorKind = .human with
        | some existing =>
          if existing.actorId = actor && existing.decision = decision then
            (persistRefreshed env registry, .updated record)
          else
            let other := existing.actorId
            let earlier := existing.decision.text
            (registry, .conflict s!"human actor {other} already {earlier} request {requestId}")
        | none =>
          if record.status = .expired then (storeRefreshed env registry, .expired)
          else if record.status ≠ .pending then
            let id := record.id
            let status := record.status.text
            (registry, .conflict s!"request {id} is already {status}")
          else
            (storeDecision env registry .human actor requestId decision,
              .updated (withDecision env .human actor decision record))

end

section

variable (env : Env) (registry : Registry) (queue : QueueDb)

def createdBefore (first second : RequestRecord) : Bool :=
  first.createdAt < second.createdAt ||
    first.createdAt = second.createdAt && first.id < second.id

def readyRequest (records : List RequestRecord) : Option RequestRecord :=
  minBy createdBefore (records.filter fun record =>
    record.status = .pending && record.readyToApply)

def leasedWithPlan (plan : ApplyPlan) (record : RequestRecord) : RequestRecord :=
  { record with
    status := .applying, applyStage := some .applying, applyPlan := some plan
    failureReason := none }

/-- The registry afterwards and the request that holds the lease. -/
def acquireReparentApplyLease : Registry × Option String :=
  match registry.reparentApplyLease with
  | some lease => (registry, some lease.requestId)
  | none =>
    let records := refreshReparentRequests env registry registry.reparentRequests
    match readyRequest records with
    | none => (persistRefreshed env registry, none)
    | some record =>
      match reparentStaleReason registry record with
      | some reason =>
        (storeReparentRequestRecords registry (modifyFirst (fun other => other = record)
          (fun record => retired env record .stale reason) records), none)
      | none =>
        let plan := buildReparentApplyPlan registry queue record
        let leased := storeReparentRequestRecords registry
          (modifyFirst (fun other => other = record) (leasedWithPlan plan) records)
        ({ leased with reparentApplyLease := some ⟨record.id, env.nowText⟩ }, some record.id)

end

end SessionManager.Reparent
