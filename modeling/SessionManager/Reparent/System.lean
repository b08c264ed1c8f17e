import Mathlib.Algebra.Order.BigOperators.Group.List
import Mathlib.Algebra.Order.Group.Nat
import SessionManager.Reparent.Drives
import SessionManager.Reparent.Traffic
import SessionManager.Foundation.Sha256
import SessionManager.Usage.Calendar

/-! The whole system: the two stores and at most one driver. A step is one durable write or read of
the driver, a write of the driver that fails, a crash, a start of the driver, an operation on the
requests, the creation of a session, or ordinary traffic. One theorem says what a step can do to the
hierarchy and to the requests; invariants of runs follow from it. -/
namespace SessionManager.Reparent
open Foundation Queue List

structure System where
  stores : Stores
  pc : Pc
  deriving DecidableEq, Repr

def repairStart (action : RepairAction) (requestId : String) : Pc :=
  match action with
  | .resume => .stage 8 requestId
  | .rollbackPrecommit => .readGroups (.rollback none) requestId

def drive (env : Env) (ids : RowIds) (now : Int) (system : System) : System :=
  let next := driverStep (env.atTime now) ids system.stores system.pc
  ⟨next.1, next.2⟩

inductive Step (env : Env) (ids : RowIds) : System → System → Prop
  | drive (system : System) (now : Int) : Step env ids system (drive env ids now system)
  | storeFails (system : System) (reason : String) :
      Step env ids system ⟨system.stores, system.pc.onError reason⟩
  | crash (system : System) : Step env ids system ⟨system.stores, .idle⟩
  | start (stores : Stores) : Step env ids ⟨stores, .idle⟩ ⟨stores, .acquire⟩
  | createSingle (system : System) (now : Int)
      (freshId subject target requester credential : String)
      (fresh : findRequest system.stores.registry freshId = none) :
      Step env ids system ⟨system.stores.withRegistry (createReparentRequest (env.atTime now)
        system.stores.registry freshId subject target requester credential).1, system.pc⟩
  | createTree (system : System) (now : Int)
      (freshId source target requester credential : String) (dryRun : Bool)
      (fresh : findRequest system.stores.registry freshId = none) :
      Step env ids system ⟨system.stores.withRegistry (createReparentTreeRequest (env.atTime now)
        system.stores.registry system.stores.queue freshId source target requester credential
        dryRun).1, system.pc⟩
  | decide (system : System) (now : Int) (requestId requester credential : String)
      (decision : ReparentDecision) :
      Step env ids system ⟨system.stores.withRegistry (decideReparentRequest (env.atTime now)
        system.stores.registry requestId requester credential decision).1, system.pc⟩
  | decideAsHuman (system : System) (now : Int) (requestId actor : String)
      (decision : ReparentDecision) :
      Step env ids system ⟨system.stores.withRegistry (decideReparentRequestAsHuman
        (env.atTime now) system.stores.registry requestId actor decision).1, system.pc⟩
  | repair (stores : Stores) (now : Int) (requestId actor : String) (action : RepairAction)
      (registry : Registry)
      (begun : beginRepair (env.atTime now) stores.registry requestId actor action =
        .ok registry) :
      Step env ids ⟨stores, .idle⟩
        ⟨stores.withRegistry registry, repairStart action (trim requestId)⟩
  | verify (system : System) (requestId attemptedAt : String) (registry : Registry)
      (verified : verifyReparentRepair system.stores.registry requestId attemptedAt =
        .ok registry) :
      Step env ids system ⟨system.stores.withRegistry registry, system.pc⟩
  | createSession (system : System) (session : SessionRecord)
      (fresh : session.id ∉ sessionIds system.stores.registry)
      (unnamed : ∀ other ∈ system.stores.registry.sessions,
        other.parentSessionId ≠ some session.id)
      (parent : ∀ id, session.parentSessionId = some id →
        id ∈ sessionIds system.stores.registry ∧
          activeReparentRequestForSession system.stores.registry id = none) :
      Step env ids system ⟨system.stores.withRegistry
        { system.stores.registry with
          sessions := system.stores.registry.sessions ++ [session] }, system.pc⟩
  | traffic (system : System) (after : Stores) (routed : Traffic env ids system.stores after) :
      Step env ids system ⟨after, system.pc⟩

abbrev Run (env : Env) (ids : RowIds) : System → System → Prop :=
  Relation.ReflTransGen (Step env ids)

variable (env : Env)

section

structure Commits (before after : Registry) (record : RequestRecord) (plan : ApplyPlan) : Prop where
  member : record ∈ before.reparentRequests
  planned : record.applyPlan = some plan
  fresh : reparentStaleReason before record = none
  edges : ∃ moved, plan.edgeChanges.foldlM commitEdge before = .ok moved ∧
    hierarchy after = hierarchy moved
  requests : Moved before.reparentRequests after.reparentRequests

structure Joins (before after : Registry) (session : SessionRecord) : Prop where
  sessions : after.sessions = before.sessions ++ [session]
  requests : after.reparentRequests = before.reparentRequests
  fresh : session.id ∉ sessionIds before
  unnamed : ∀ other ∈ before.sessions, other.parentSessionId ≠ some session.id
  parent : ∀ id, session.parentSessionId = some id → id ∈ sessionIds before

inductive Change (before after : Registry) : Prop
  | quiet (quiet : Quiet before after)
  | commits (record : RequestRecord) (plan : ApplyPlan)
      (commits : Commits before after record plan)
  | joins (session : SessionRecord) (joins : Joins before after session)

theorem commitEdge_requests {before after : Registry} {change : EdgeChange}
    (hd : commitEdge before change = .ok after) :
    after.reparentRequests = before.reparentRequests := by
  unfold commitEdge at hd
  repeat' split at hd
  all_goals cases hd
  rfl

theorem commits_of_write {registry moved routed : Registry} {requestId : String}
    {record : RequestRecord} {plan : ApplyPlan}
    (leased : leasedReparentRequest registry requestId = .ok record)
    (planned : record.applyPlan = some plan) (fresh : reparentStaleReason registry record = none)
    (edges : plan.edgeChanges.foldlM commitEdge registry = .ok moved)
    (routes : plan.jsonRoutingChanges.foldlM commitJsonRoute moved = .ok routed) :
    Commits registry (storeRequest routed requestId
      { record with applyStage := some .authorityCommitted }) record plan := by
  have found := (leasedReparentRequest_ok leased).2
  have kept : moved.reparentRequests = registry.reparentRequests := by
    apply Fallible.foldlM_keeps
      (fun other => other.reparentRequests = registry.reparentRequests) edges
    · intro _ _ _ _ stepped held
      exact (commitEdge_requests stepped).trans held
    · rfl
  have frame := commitJsonRoutes_frame routes
  exact
    { member := mem_of_find?_eq_some found
      planned
      fresh
      edges := ⟨moved, edges, frame.hierarchy⟩
      requests := storeRequest_moved (frame.requests.trans kept) found
        (.single (.proceed record _)) }

theorem Purpose.settled_moves (purpose : Purpose) (record : RequestRecord) :
    Moves record (purpose.settled env record) := by
  cases purpose with
  | finish => exact .single (.settle _ .applied _ false _ _ none (by simp))
  | abort => exact .single (.settle _ .stale _ _ _ _ _ (by simp))
  | rollback reason =>
    refine .single (.settle _ _ _ false record.appliedAt _ _ ?_)
    cases reason <;> simp

variable {ids : RowIds} {env : Env}

theorem Traffic.quiet {before after : Stores}
    (traffic : Traffic env ids before after) : Quiet before.registry after.registry := by
  cases traffic with
  | send | deliver | expire | cancelForTarget | cancelFromSender | completeTask =>
    exact .refl _
  | defer | deferWake =>
    exact .store (forall₂_modifyFirst (fun _ => .refl) fun _ _ => .single (.defer _ _))
  | retainWake | retainCompletion | retain => exact SameFrame.quiet ⟨rfl, rfl, rfl⟩
  | contextEvent | setContextMonitor | changeStatus =>
    exact SameFrame.quiet ⟨hierarchy_updateSession (fun _ => rfl) (fun _ => rfl), rfl, rfl⟩

theorem Drives.change {stores after : Stores} {pc next : Pc}
    (drives : Drives env ids stores pc after next) : Change stores.registry after.registry := by
  have hst : ∀ {requestId : String} {record written : RequestRecord} {routed : Registry},
      leasedReparentRequest stores.registry requestId = .ok record →
      SameFrame stores.registry routed → Moves record written →
      Change stores.registry (storeRequest routed requestId written) :=
    fun hl hfm moves => .quiet (.storeRequest hfm.hierarchy hfm.requests
      (leasedReparentRequest_ok hl).2 moves)
  cases drives with
  | acquires => exact .quiet (acquireReparentApplyLease_quiet env stores.registry stores.queue)
  | quiescesJson _ _ record _ _ hl _ _ routes =>
    exact hst hl (quiesceJsonReparentRoutes_frame routes) (.single (.proceed _ _))
  | queueQuiesced _ _ record hl =>
    exact hst hl (.refl _) (.single (.proceed _ _))
  | commits _ _ record _ _ _ hl hp hfr edges routes =>
    exact .commits _ _ (commits_of_write hl hp hfr edges routes)
  | defersLate _ _ _ _ record hl =>
    exact hst hl (.refl _) (.single (.defer _ _))
  | restores _ _ _ _ routes =>
    exact .quiet (restoreJsonReparentRoutes_frame routes).quiet
  | records _ _ _ record _ hl kept =>
    exact hst hl (replayRegistry_frame kept) (.single (.defer _ _))
  | concludes purpose _ record hl =>
    exact .quiet (.storeReleased (leasedReparentRequest_ok hl).2 (purpose.settled_moves env _))
  | fails _ _ record hl =>
    exact hst hl (.refl _) (.single (.settle _ .failed _ false record.appliedAt _ _ (by simp)))
  | _ => exact .quiet (.refl _)

theorem Step.change {before after : System} (step : Step env ids before after) :
    Change before.stores.registry after.stores.registry := by
  cases step with
  | drive => exact (driverStep_drives _ _ _ _).change
  | storeFails | crash | start => exact .quiet (.refl _)
  | createSingle =>
    dsimp only [Stores.withRegistry]
    exact .quiet ((createReparentRequest_revises _ _ _ _ _ _ _).quiet fun _ => Made.submitted)
  | createTree =>
    dsimp only [Stores.withRegistry]
    exact .quiet ((createReparentTreeRequest_revises _ _ _ _ _ _ _ _ _).quiet fun _ => Made.submitted)
  | decide =>
    dsimp only [Stores.withRegistry]
    exact .quiet ((decideReparentRequest_revises _ _ _ _ _ _).quiet fun _ => id)
  | decideAsHuman =>
    dsimp only [Stores.withRegistry]
    exact .quiet ((decideReparentRequestAsHuman_revises _ _ _ _ _).quiet fun _ => id)
  | repair _ _ _ _ _ _ begun => exact .quiet (beginRepair_quiet begun)
  | verify _ _ _ _ verified =>
    exact .quiet ((verifyReparentRepair_revises _ verified).quiet fun _ => id)
  | createSession _ _ hfr unnamed parent =>
    exact .joins _ ⟨rfl, rfl, hfr, unnamed, fun id hna => (parent id hna).1⟩
  | traffic _ _ routed => exact .quiet routed.quiet

end

section

/-! A family of three: a worker below one lead, and a second lead who asks for the worker. -/

open Usage (january januaryHost)

theorem run_iterate {α : Type} {related : α → α → Prop} {step : α → α}
    (each : ∀ a, related a (step a)) (n : Nat) (a : α) :
    Relation.ReflTransGen related a (step^[n] a) := by
  induction n generalizing a with
  | zero => exact .refl
  | succ _ ih => exact .head (each a) (ih _)

theorem run_drives (ids : RowIds) (now : Int) (n : Nat) (system : System) :
    Run env ids system ((drive env ids now)^[n] system) :=
  run_iterate (fun system => .drive system now) n system

def newYear : Int := january 1

def familyEnv : Env :=
  { now := newYear
    formatTime := januaryHost.formatTimestamp
    parseTime := januaryHost.parseRfc3339
    sha256Text }

def longerId (used : List String) : String :=
  String.ofList (List.replicate ((used.map String.toList).flatten.length + 1) 'w')

theorem longerId_not_mem (used : List String) : longerId used ∉ used := by
  intro hm
  have short := (sublist_flatten_of_mem (mem_map_of_mem (f := String.toList) hm)).length_le
  simp only [longerId, String.toList_ofList, length_replicate] at short
  omega

/-- A generated identifier that is longer than every one in use. -/
def longerIds : RowIds := ⟨longerId, longerId_not_mem⟩

def lead (id : String) : SessionRecord :=
  { id, parentSessionId := none, status := .running, completionStatus := none, node := "primary"
    provider := "claude", sessionCredentialSha256 := some (sha256Text id), providerResumeId := none
    contextMonitorEnabled := false, contextMonitorNotify := none
    contextMonitorNotifySource := none }

def familyRegistry : Registry :=
  { sessions := [lead "ann", lead "bob", { lead "kim" with parentSessionId := some "ann" }]
    retainedParentWakes := []
    retainedPendingMessages := []
    maintainerSessionId := none
    reparentRequests := []
    reparentApplyLease := none }

/-- The second lead has asked for the worker. -/
def askedRegistry : Registry :=
  storeReparentRequestRecords familyRegistry
    [newSingleRequest familyEnv "move" "kim" "bob" "bob" (some "ann") true]

/-- The first lead has agreed. -/
def agreedRegistry : Registry :=
  storeDecision familyEnv askedRegistry .agent "ann" "move" .approved

theorem family_asks (queue : QueueDb) :
    Step familyEnv longerIds ⟨⟨familyRegistry, queue⟩, .idle⟩ ⟨⟨askedRegistry, queue⟩, .idle⟩ := by
  have subject : trim "kim" = "kim" := by decide +kernel
  have target : trim "bob" = "bob" := by decide +kernel
  have allowed : singleRequestRefusal familyEnv familyRegistry "kim" "bob" "bob" "bob" = none := by
    decide +kernel
  have parent : parentOf familyRegistry "kim" = some "ann" := by decide +kernel
  have live : isLive familyRegistry "ann" = true := by decide +kernel
  have asks : (createReparentRequest familyEnv familyRegistry "move" "kim" "bob" "bob" "bob").1 =
      askedRegistry := by
    simp only [createReparentRequest, subject, target, allowed, parent, Option.any_some, live]
    rfl
  rw [← asks]
  exact .createSingle ⟨⟨familyRegistry, queue⟩, .idle⟩ newYear "move" "kim" "bob" "bob" "bob" rfl

theorem family_agrees (queue : QueueDb) :
    Step familyEnv longerIds ⟨⟨askedRegistry, queue⟩, .idle⟩ ⟨⟨agreedRegistry, queue⟩, .idle⟩ := by
  have request : trim "move" = "move" := by decide +kernel
  have actor : trim "ann" = "ann" := by decide +kernel
  have matched : sessionCredentialMatches familyEnv askedRegistry "ann" "ann" = true := by
    decide +kernel
  have waits : ((refreshReparentRequests familyEnv askedRegistry
      askedRegistry.reparentRequests).find? fun record => record.id = "move").any (fun record =>
        record.requiredAgentApprovals.contains "ann" && record.status = .pending &&
          (record.approvals.find? fun approval =>
            approval.actorKind = .agent && approval.actorId = "ann").isNone) = true := by
    decide +kernel
  have agrees : (decideReparentRequest familyEnv askedRegistry "move" "ann" "ann" .approved).1 =
      agreedRegistry := by
    obtain ⟨record, found, facts⟩ := (Option.any_eq_true _ _).mp waits
    simp only [Bool.and_eq_true, Option.isNone_iff_eq_none, decide_eq_true_eq] at facts
    obtain ⟨⟨required, pending⟩, first⟩ := facts
    simp only [decideReparentRequest, request, actor, matched, found, required, first, pending]
    rfl
  rw [← agrees]
  exact .decide ⟨⟨askedRegistry, queue⟩, .idle⟩ newYear "move" "ann" "ann" .approved

theorem family_run_agreed (queue : QueueDb) :
    Run familyEnv longerIds ⟨⟨familyRegistry, queue⟩, .idle⟩ ⟨⟨agreedRegistry, queue⟩, .idle⟩ :=
  .tail (.single (family_asks queue)) (family_agrees queue)

def family : System := ⟨⟨familyRegistry, ⟨[], []⟩⟩, .idle⟩

def agreed : System := ⟨⟨agreedRegistry, ⟨[], []⟩⟩, .idle⟩

/-- The driver has fenced the routes of the worker and is about to move the edge. -/
def fenced : System := (drive familyEnv longerIds newYear)^[9] ⟨agreed.stores, .acquire⟩

def moved : System := drive familyEnv longerIds newYear fenced

theorem family_run_fenced : Run familyEnv longerIds family fenced :=
  ((family_run_agreed _).tail (.start agreed.stores)).trans (run_drives _ _ newYear 9 _)

theorem family_run_moved : Run familyEnv longerIds family moved :=
  family_run_fenced.tail (.drive fenced newYear)

end

end SessionManager.Reparent
