import SessionManager.Queue.ParentRouting
import SessionManager.Sessions.Status

/-! The session registry as reparenting sees it: the fields of a session that it reads or writes, the
reparent requests with their plans, approvals and deferred intents, and the lease of the request that
is being applied. Registry and queue database are two stores; each is replaced atomically. -/
namespace SessionManager.Reparent
open Sessions Queue List

structure SessionRecord where
  id : String
  parentSessionId : Option String
  status : SessionStatus
  completionStatus : Option CompletionStatus
  node : String
  provider : String
  sessionCredentialSha256 : Option String
  providerResumeId : Option String
  contextMonitorEnabled : Bool
  contextMonitorNotify : Option String
  contextMonitorNotifySource : Option String
  deriving DecidableEq, Repr

def SessionRecord.isLiveForRegistry (session : SessionRecord) : Bool :=
  !isStopped session.status session.completionStatus

inductive RequestKind
  | single
  | tree
  deriving DecidableEq, Repr

inductive RequestStatus
  | pending
  | applying
  | failed
  | applied
  | rejected
  | expired
  | stale
  | superseded
  | repaired
  deriving DecidableEq, Repr

inductive ApplyStage
  | applying
  | prequiesceAborting
  | jsonRoutingQuiesced
  | routingQuiesced
  | authorityCommitted
  | applied
  | prequiesceAborted
  | repairRolledBack
  deriving DecidableEq, Repr

def RequestKind.text : RequestKind → String
  | .single => "single"
  | .tree => "tree"

def RequestStatus.text : RequestStatus → String
  | .pending => "pending"
  | .applying => "applying"
  | .failed => "failed"
  | .applied => "applied"
  | .rejected => "rejected"
  | .expired => "expired"
  | .stale => "stale"
  | .superseded => "superseded"
  | .repaired => "repaired"

def ApplyStage.text : ApplyStage → String
  | .applying => "applying"
  | .prequiesceAborting => "prequiesce_aborting"
  | .jsonRoutingQuiesced => "json_routing_quiesced"
  | .routingQuiesced => "routing_quiesced"
  | .authorityCommitted => "authority_committed"
  | .applied => "applied"
  | .prequiesceAborted => "prequiesce_aborted"
  | .repairRolledBack => "repair_rolled_back"

inductive ReparentDecision
  | approved
  | rejected
  deriving DecidableEq, Repr

def ReparentDecision.text : ReparentDecision → String
  | .approved => "approved"
  | .rejected => "rejected"

inductive ActorKind
  | agent
  | human
  deriving DecidableEq, Repr

structure ApprovalRecord where
  actorKind : ActorKind
  actorId : String
  decision : ReparentDecision
  decidedAt : String
  deriving DecidableEq, Repr

structure EdgeChange where
  sessionId : String
  expectedParentSessionId : Option String
  newParentSessionId : Option String
  deriving DecidableEq, Repr

inductive RouteStore
  | json
  | queue
  deriving DecidableEq, Repr

inductive RouteKind
  | parentWake
  | contextMonitor
  | message
  deriving DecidableEq, Repr

structure RoutingChange where
  store : RouteStore
  recordKind : RouteKind
  recordId : String
  childSessionId : String
  expectedTargetSessionId : Option String
  newTargetSessionId : Option String
  priorActive : Option Bool
  periodSeconds : Option Int
  createsParentWake : Bool
  deriving DecidableEq, Repr

structure ApplyPlan where
  version : Nat
  edgeChanges : List EdgeChange
  jsonRoutingChanges : List RoutingChange
  queueRoutingChanges : List RoutingChange
  deriving DecidableEq, Repr

inductive DeferredOperation
  | parentWake (periodSeconds : Int)
  | taskComplete (text : String)
  | parentMessage (text deliveryMode messageCategory : String)
  | parentInput (text deliveryMode : String) (metadata : QueueMessageMetadata)
  deriving DecidableEq, Repr

structure DeferredRoutingIntent where
  key : String
  operation : DeferredOperation
  childSessionId : String
  createdAt : String
  replayedAt : Option String
  resolvedParentSessionId : Option String
  deriving DecidableEq, Repr

structure NotificationIntent where
  key : String
  event : String
  recipientSessionId : String
  enqueuedAt : Option String
  deriving DecidableEq, Repr

inductive RepairAction
  | resume
  | rollbackPrecommit
  deriving DecidableEq, Repr

def RepairAction.text : RepairAction → String
  | .resume => "resume"
  | .rollbackPrecommit => "rollback_precommit"

structure RepairRecord where
  actorId : String
  action : RepairAction
  priorFailure : Option String
  attemptedAt : String
  verified : Bool
  deriving DecidableEq, Repr

inductive TreeMode
  | peerRootSuccession
  | stoppedRootRecovery (expectedTargetParentSessionId : String)
  deriving DecidableEq, Repr

/-- What the fingerprint of a request is a digest of; digests of distinct contents are distinct. -/
structure TopologyFingerprint where
  kind : RequestKind
  subjectSessionId : String
  targetParentSessionId : String
  expectedParentSessionId : Option String
  frozenLiveChildIds : List String
  treeMode : Option TreeMode
  deriving DecidableEq, Repr

structure RequestRecord where
  id : String
  kind : RequestKind
  subjectSessionId : String
  targetParentSessionId : String
  expectedParentSessionId : Option String
  expectedParentIsLive : Bool
  expectedTargetParentSessionId : Option String
  expectedTargetParentIsLive : Bool
  stoppedRootAuthorizedMaintainerSessionId : Option String
  detachNonLiveParent : Bool
  peerRootSuccession : Bool
  stoppedRootRecovery : Bool
  frozenLiveChildIds : List String
  initiatorSessionId : String
  requiredAgentApprovals : List String
  requiredHumanApproval : Bool
  approvals : List ApprovalRecord
  status : RequestStatus
  readyToApply : Bool
  createdAt : String
  expiresAt : String
  decidedAt : Option String
  appliedAt : Option String
  failureReason : Option String
  supersededByRequestId : Option String
  topologyFingerprint : TopologyFingerprint
  applyStage : Option ApplyStage
  applyPlan : Option ApplyPlan
  notificationIntents : List NotificationIntent
  deferredRoutingIntents : List DeferredRoutingIntent
  repairHistory : List RepairRecord
  deriving DecidableEq, Repr

structure RetainedWake where
  id : String
  childSessionId : String
  parentSessionId : Option String
  periodSeconds : Int
  isActive : Bool
  deriving DecidableEq, Repr

structure RetainedMessage where
  id : String
  targetSessionId : String
  text : String
  deliveryMode : String
  messageCategory : Option String
  deriving DecidableEq, Repr

structure ApplyLease where
  requestId : String
  acquiredAt : String
  deriving DecidableEq, Repr

structure Registry where
  sessions : List SessionRecord
  retainedParentWakes : List RetainedWake
  retainedPendingMessages : List RetainedMessage
  /-- The session registered under the role `maintainer`. -/
  maintainerSessionId : Option String
  reparentRequests : List RequestRecord
  reparentApplyLease : Option ApplyLease
  deriving DecidableEq, Repr

/-- The clock at one operation, the text form of times, and the digest of credentials. -/
structure Env where
  now : Int
  formatTime : Int → String
  parseTime : String → Option Int
  sha256Text : String → String

def Env.nowText (env : Env) : String := env.formatTime env.now

def Env.atTime (env : Env) (now : Int) : Env := { env with now }

namespace RequestRecord

variable (record : RequestRecord)

def quarantinedStage : Option ApplyStage → Bool
  | some .prequiesceAborting | some .jsonRoutingQuiesced | some .routingQuiesced
  | some .authorityCommitted => true
  | _ => false

def isActive : Bool :=
  record.status = .pending || record.status = .applying ||
    record.status = .failed && quarantinedStage record.applyStage

def isApplyFenced : Bool :=
  record.status = .applying || record.status = .failed && quarantinedStage record.applyStage

def affectedSessionIds : List String :=
  record.frozenLiveChildIds ++ [record.subjectSessionId, record.targetParentSessionId] ++
    record.expectedParentSessionId.toList ++ record.expectedTargetParentSessionId.toList ++
      match record.applyPlan with
      | none => []
      | some plan => plan.edgeChanges.map EdgeChange.sessionId ++
          plan.jsonRoutingChanges.map RoutingChange.childSessionId ++
            plan.queueRoutingChanges.map RoutingChange.childSessionId

end RequestRecord

section

/-- Rewrites the first element that is chosen, as a search with a mutable reference does. -/
def modifyFirst {α : Type} (choose : α → Bool) (change : α → α) : List α → List α
  | [] => []
  | a :: rest => if choose a then change a :: rest else a :: modifyFirst choose change rest

variable {α : Type} {choose : α → Bool} {key : α → String}

theorem mem_modifyFirst {change : α → α} {values : List α} {a : α}
    (hm : a ∈ modifyFirst choose change values) :
    a ∈ values ∨ ∃ old, values.find? choose = some old ∧ a = change old := by
  induction values with
  | nil => cases hm
  | cons first _ ih =>
    rw [modifyFirst] at hm
    by_cases chosen : choose first
    · rw [if_pos chosen] at hm
      rcases mem_cons.mp hm with hh | later
      · exact .inr ⟨_, by rw [find?_cons_of_pos chosen], hh⟩
      · exact .inl (mem_cons_of_mem _ later)
    · rw [if_neg chosen] at hm
      rcases mem_cons.mp hm with hh | later
      · exact .inl (hh ▸ mem_cons_self)
      · rcases ih later with hk | ⟨old, hf, changed⟩
        · exact .inl (mem_cons_of_mem _ hk)
        · exact .inr ⟨old, by rw [find?_cons_of_neg chosen, hf], changed⟩

theorem find?_modifyFirst_self {change : α → α} {values : List α}
    {a : α} (hf : values.find? choose = some a) (chosen : choose (change a) = true) :
    (modifyFirst choose change values).find? choose = some (change a) := by
  induction values with
  | nil => cases hf
  | cons first _ ih =>
    by_cases hh : choose first
    · rw [find?_cons_of_pos hh] at hf
      cases hf
      rw [modifyFirst, if_pos hh, find?_cons_of_pos chosen]
    · rw [find?_cons_of_neg hh] at hf
      rw [modifyFirst, if_neg hh, find?_cons_of_neg hh]
      exact ih hf

theorem modifyFirst_eq_map {change : α → α} (id : String)
    {values : List α} (hn : (values.map key).Nodup) :
    modifyFirst (fun a => key a = id) change values =
      values.map fun a => if key a = id then change a else a := by
  induction values with
  | nil => rfl
  | cons first _ ih =>
    rw [map_cons, nodup_cons] at hn
    by_cases hh : key first = id
    · rw [modifyFirst, if_pos (by simpa using hh), map_cons, if_pos hh]
      congr 1
      refine (map_id' _).symm.trans (map_congr_left ?_)
      intro a hm
      rw [if_neg]
      intro hs
      exact hn.1 (hh ▸ hs ▸ mem_map_of_mem hm)
    · rw [modifyFirst, if_neg (by simpa using hh), map_cons, if_neg hh, ih hn.2]

theorem find?_modifyFirst {change : α → α}
    (hke : ∀ a, key (change a) = key a) (id other : String) (values : List α) :
    (modifyFirst (fun a => key a = id) change values).find? (fun a => key a = other) =
      if other = id then (values.find? fun a => key a = id).map change
      else values.find? fun a => key a = other := by
  induction values with
  | nil => simp [modifyFirst]
  | cons a _ ih =>
    by_cases hh : key a = id
    · by_cases hs : other = id
      · simp [modifyFirst, hh, hs, hke]
      · have hne : ¬id = other := fun heq => hs heq.symm
        simp [modifyFirst, hh, hs, hke, hne]
    · by_cases hf : key a = other
      · have hne : ¬other = id := fun heq => hh (hf.trans heq)
        simp [modifyFirst, hf, hne]
      · simp only [modifyFirst, hh, decide_false, Bool.false_eq_true, if_false]
        rw [find?_cons_of_neg (by simpa using hf), ih]
        split
        · rw [find?_cons_of_neg (by simpa using hh)]
        · rw [find?_cons_of_neg (by simpa using hf)]

variable (registry : Registry)

def findSession (id : String) : Option SessionRecord :=
  registry.sessions.find? fun session => session.id = id

def parentOf (id : String) : Option String :=
  (findSession registry id).bind SessionRecord.parentSessionId

def findRequest (id : String) : Option RequestRecord :=
  registry.reparentRequests.find? fun record => record.id = id

def isLive (id : String) : Bool := (findSession registry id).any SessionRecord.isLiveForRegistry

end

end SessionManager.Reparent
