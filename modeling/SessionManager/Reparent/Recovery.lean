import SessionManager.Reparent.Convergence
import SessionManager.Reparent.Plans
import SessionManager.Reparent.Spoiling

/-! Crash recovery after the commit. The driver is stopped between two of its writes and started again
on what it left behind. The routes end up where an undisturbed run leaves them exactly when no intent
that is still to be replayed registers or cancels the wake of a child whose wake the plan has given to
a new parent. -/
namespace SessionManager.Reparent
open Foundation Queue List

section

variable (env : Env) (ids : RowIds) (requestId : String) (stores : Stores)

/-- The driver, started on the stores and left alone for some steps. -/
def applyAlone (clock : Nat → Int) (steps : Nat) : System :=
  Timed.run (drive env ids) clock steps ⟨stores, .stage 8 requestId⟩

/-- The undisturbed run applies the request, and so does every run that is started on what a crash
leaves behind, with the same edges and the same routing. -/
def Recovers : Prop :=
  ∃ outcome,
    (∀ clock, ∃ steps, Ended requestId outcome (applyAlone env ids requestId stores clock steps)) ∧
    ∀ clock crash again, ∃ steps, Ended requestId outcome
      (applyAlone env ids requestId (applyAlone env ids requestId stores clock crash).stores again
        steps)

/-- A request at the stage `authority_committed`, with the plan that the lease made for it. -/
structure Committed (record : RequestRecord) (plan : ApplyPlan) : Prop where
  leased : leasedReparentRequest stores.registry requestId = .ok record
  stage : record.applyStage = some .authorityCommitted
  unapplied : record.status ≠ .applied
  planned : record.applyPlan = some plan
  built : ∃ registry queue request, queue.Keyed ∧ (queue.messages.map MessageRow.id).Nodup ∧
    ((requestEdgeChanges request).map EdgeChange.sessionId).Nodup ∧
      plan = buildReparentApplyPlan registry queue request
  moves : ∀ edge ∈ plan.edgeChanges, edge.newParentSessionId ≠ edge.expectedParentSessionId
  edges : ∀ edge ∈ plan.edgeChanges,
    parentOf stores.registry edge.sessionId = edge.newParentSessionId
  rows : RowsReady false plan stores.queue
  keyed : record.Keyed
  apart : IdsApart env requestId (unreplayed record)
  jobs : ∀ intent ∈ unreplayed record, JobReady env requestId stores intent.job
  generated : ∀ used, ∀ change ∈ plan.queueRoutingChanges, ids.next used ≠ change.recordId

end

/-- A pending intent registers or cancels the wake of a child whose planned wake has a new parent. -/
def Overlaps (plan : ApplyPlan) (queue : QueueDb) (record : RequestRecord) : Prop :=
  ∃ change ∈ plan.queueRoutingChanges, (wakeOf change).isSome ∧ change.newTargetSessionId.isSome ∧
    ∃ job ∈ pendingJobs plan queue record, job.rewakes = true ∧
      job.childSessionId = change.childSessionId

section

variable {env : Env} {ids : RowIds} {requestId : String} {stores : Stores} {record : RequestRecord}
  {plan : ApplyPlan} {outcome : Outcome}

section

variable (committed : Committed env ids requestId stores record plan)
include committed

theorem Committed.queueBuilt : ∃ queue, QueueBuilt plan queue := by
  obtain ⟨_, queue, _, keyed, messages, edges, made⟩ := committed.built
  exact ⟨queue, made ▸ ⟨rfl, keyed, messages, edges⟩⟩

theorem Committed.routable : Routable env .finish requestId plan stores record := by
  obtain ⟨_, built⟩ := committed.queueBuilt
  exact
    { committed with
      apart := by
        rw [todo_once rfl]
        exact committed.apart
      jobs := by
        intro _ hm
        rw [todo_once rfl] at hm
        exact committed.jobs _ hm
      fits := built.fits
      json := fun restores => by cases restores }

theorem Committed.parent {change : RoutingChange} (hm : change ∈ plan.queueRoutingChanges) :
    parentOf stores.registry change.childSessionId = change.newTargetSessionId := by
  obtain ⟨_, built⟩ := committed.queueBuilt
  obtain ⟨_, hi, origin⟩ := built.origin hm
  rw [origin.child, origin.newTarget]
  exact committed.edges _ hi

theorem Committed.clear (hap : ¬Overlaps plan stores.queue record) :
    ∀ job ∈ pendingJobs plan stores.queue record, ∀ write ∈ job.writes env requestId
      (parentOf stores.registry job.childSessionId), write.Clear plan := by
  intro job hpe write hm
  have away : job.rewakes → ∀ target, parentOf stores.registry job.childSessionId = some target →
        ∀ change ∈ plan.queueRoutingChanges, (wakeOf change).isSome →
          change.childSessionId ≠ job.childSessionId := by
    intro rewakes target parent change hi wake hs
    refine hap ⟨change, hi, wake, ?_, job, hpe, rewakes, hs.symm⟩
    rw [← committed.parent hi, hs, parent]
    rfl
  rcases Job.rewake_mem hm with ⟨_, sends⟩ | ⟨rewakes, target, parent, cancel | insert⟩
  · rw [sends]
    trivial
  · rw [cancel]
    exact away rewakes _ parent
  · obtain ⟨_, insert⟩ := insert
    rw [insert]
    exact away rewakes _ parent

end

theorem Ended.again {system : System} (hen : Ended requestId outcome system) (clock : Nat → Int) :
    Ended requestId outcome (applyAlone env ids requestId system.stores clock 1) := by
  obtain ⟨record, hf, status⟩ := hen.status
  have applied : (findRequest system.stores.registry requestId).any
      (fun record => record.status = .applied) := by
    rw [hf]
    exact decide_eq_true status
  have hsp : drive env ids (clock 0) ⟨system.stores, .stage 8 requestId⟩ = ⟨system.stores, .idle⟩ :=
    drive_eq (Fallible.bind_eq_ok.mpr ⟨_, if_pos applied, rfl⟩)
  unfold applyAlone Timed.run
  rw [hsp]
  exact ⟨⟨rfl, hen.lease, hen.status⟩, hen.outcome⟩

theorem Recoverable.recovers
    (core : Recoverable env requestId plan stores record outcome) :
    Recovers env ids requestId stores := by
  have starts : ∀ {stores : Stores} {record : RequestRecord},
      Recoverable env requestId plan stores record outcome →
        Converging env requestId plan outcome stores (.stage 8 requestId) :=
    fun core => .route core (.stage 7 core.toRoutable .refl)
  refine ⟨_, fun _ => (starts core).ends ids _, ?_⟩
  intro clock crash _
  have hr : Continues env requestId plan outcome
      (applyAlone env ids requestId stores clock crash) :=
    Timed.run_keeps (Continues env _ _ _)
      (fun now _ held => held.drive ids now) _ crash (.inl (starts core))
  rcases hr with converging | hen
  · obtain ⟨_, later⟩ := converging.core
    exact (starts later).ends ids _
  · exact ⟨1, hen.again _⟩

/-- A pending intent for a planned wake makes the second run fail the request. -/
theorem Committed.not_recovers
    (committed : Committed env ids requestId stores record plan)
    (overlaps : Overlaps plan stores.queue record) : ¬Recovers env ids requestId stores := by
  obtain ⟨change, hm, some_, routed, job, hpe, rewakes, child⟩ := overlaps
  obtain ⟨wake, hp⟩ := Option.isSome_iff_exists.mp some_
  obtain ⟨parent, target⟩ := Option.isSome_iff_exists.mp routed
  obtain ⟨_, built⟩ := committed.queueBuilt
  obtain ⟨_, hi, origin⟩ := built.origin hm
  have fits := built.fits
  have own := (wakeOf_eq_some hp).2.1
  have aim : routeTarget false change = some parent := target
  have hge : ∀ used, ids.next used ≠ wake.id := by
    intro used
    rw [(wakeOf_eq_some hp).1]
    exact committed.generated _ change hm
  have moves : parent ≠ wake.parentSessionId := by
    intro hs
    refine committed.moves _ hi ?_
    rw [← origin.newTarget, ← origin.expected, target, (wakeOf_eq_some hp).2.2.1, hs]
  have spoiling : Spoiling env requestId plan wake parent stores (.stage 8 requestId) := by
    refine .route committed.unapplied ⟨job, hpe, rewakes, child.trans own.symm⟩ ?_
      (.stage 7 committed.routable .refl)
    rw [own, committed.parent hm, target]
  obtain ⟨crash, _, wearing, inactive⟩ :=
    spoiling.ends hm hp target hge (fun _ => 0)
  have doomed : Doomed requestId plan change wake
      (applyAlone env ids requestId stores (fun _ => 0) crash).stores (.stage 8 requestId) :=
    .stage 7 ⟨wearing.leased, wearing.stage, wearing.unapplied, wearing.planned, by
      rw [aim]
      exact wearing.aimed.unready inactive (origin.wakeActive hp) moves⟩
  rintro ⟨_, _, recovers⟩
  obtain ⟨steps, hen⟩ := recovers (fun _ => 0) crash (fun _ => 0)
  have hke : ∀ (now : Int) (system : System),
      Doomed requestId plan change wake system.stores system.pc →
        Doomed requestId plan change wake (drive env ids now system).stores
          (drive env ids now system).pc :=
    fun now _ held => held.drive fits hm hp ids now
  let left : System :=
    ⟨(applyAlone env ids requestId stores (fun _ => 0) crash).stores, .stage 8 requestId⟩
  have start : Doomed requestId plan change wake left.stores left.pc := doomed
  have still := Timed.run_keeps _ hke (fun _ => 0) steps start
  obtain ⟨_, hf, status⟩ := still.unapplied
  obtain ⟨_, again, finished⟩ := hen.status
  cases hf.symm.trans again
  exact status finished

end

/-- Recovery converges exactly when no pending intent touches a wake that the plan has moved. -/
theorem recovery_converges_iff {env : Env} {ids : RowIds} {requestId : String} {stores : Stores}
    {record : RequestRecord} {plan : ApplyPlan}
    (committed : Committed env ids requestId stores record plan) :
    Recovers env ids requestId stores ↔ ¬Overlaps plan stores.queue record := by
  constructor
  · intro recovers overlaps
    exact committed.not_recovers overlaps recovers
  · intro apart
    have core : Recoverable env requestId plan stores record
        (finalOutcome env requestId plan stores record) :=
      ⟨committed.routable, committed.unapplied, committed.clear apart, rfl⟩
    exact core.recovers

section

/-! The family again, with a wake by which the first lead watches the worker. While the worker is being
moved, one operation on it is deferred. -/

def watched : System := ⟨⟨familyRegistry, ⟨[⟨"watch", "kim", "ann", 600, true⟩], []⟩⟩, .idle⟩

def watchedAgreed : System := ⟨watched.stores.withRegistry agreedRegistry, .idle⟩

def watchedLeased : System := drive familyEnv longerIds newYear ⟨watchedAgreed.stores, .acquire⟩

def deferring (operation : DeferredOperation) : System :=
  ⟨watchedLeased.stores.withRegistry (persistDeferredIntent (familyEnv.atTime newYear)
    watchedLeased.stores.registry "move" "late" operation "kim"), watchedLeased.pc⟩

/-- The worker and the watch belong to the second lead, and the operation is still to be replayed. -/
def handedOver (operation : DeferredOperation) : System :=
  (drive familyEnv longerIds newYear)^[9] (deferring operation)

theorem watched_run_handedOver (operation : DeferredOperation) :
    Run familyEnv longerIds watched (handedOver operation) := by
  have agreed : Run familyEnv longerIds watched watchedAgreed := family_run_agreed _
  have hl := (agreed.tail (.start watchedAgreed.stores)).tail
    (.drive ⟨watchedAgreed.stores, .acquire⟩ newYear)
  have deferred : Run familyEnv longerIds watched (deferring operation) :=
    hl.tail (.traffic watchedLeased _ (.defer watchedLeased.stores newYear "move" "late" "kim"
      operation (by decide +kernel)))
  exact deferred.trans (run_drives familyEnv longerIds newYear 9 (deferring operation))

/-- What a crash leaves behind right after the replayed completion has cancelled the watch. -/
def cutShort : Stores :=
  (applyAlone familyEnv longerIds "move" (handedOver (.taskComplete "done")).stores (fun _ => newYear)
    9).stores

/-- The worker completes its task while it is being moved. The driver crashes after it has cancelled
the watch, and the second run takes the row for one that was changed after planning. -/
theorem completed_task_stops_recovery :
    Run familyEnv longerIds watched (handedOver (.taskComplete "done")) ∧
      (findRequest (handedOver (.taskComplete "done")).stores.registry "move").bind
        RequestRecord.applyStage = some .authorityCommitted ∧
      ¬Recovers familyEnv longerIds "move" (handedOver (.taskComplete "done")).stores := by
  refine ⟨watched_run_handedOver _, by decide +kernel, ?_⟩
  rintro ⟨outcome, _, recovers⟩
  obtain ⟨steps, ended⟩ := recovers (fun _ => newYear) 9 (fun _ => newYear)
  have stopped : (applyAlone familyEnv longerIds "move" cutShort (fun _ => newYear) 4).pc = .idle := by
    decide +kernel
  have failed : (findRequest (applyAlone familyEnv longerIds "move" cutShort (fun _ => newYear)
      4).stores.registry "move").map RequestRecord.status = some .failed := by
    decide +kernel
  have same : applyAlone familyEnv longerIds "move" cutShort (fun _ => newYear) steps =
      applyAlone familyEnv longerIds "move" cutShort (fun _ => newYear) 4 :=
    Timed.run_steady (fun _ => drive_idle ended.idle) (fun _ => drive_idle stopped)
  obtain ⟨record, found, applied⟩ := ended.status
  have there : findRequest (applyAlone familyEnv longerIds "move" cutShort (fun _ => newYear)
      4).stores.registry "move" = some record := same ▸ found
  rw [there] at failed
  cases applied.symm.trans (Option.some.inj failed)

/-! A note to the parent does not touch the watch, so its move recovers from every crash. -/

def note : DeferredOperation := .parentMessage "note" "important" "status"

def requestIn (stores : Stores) : RequestRecord :=
  (findRequest stores.registry "move").getD
    (newSingleRequest familyEnv "move" "kim" "bob" "bob" none false)

def handedRecord : RequestRecord := requestIn (handedOver note).stores

def handedPlan : ApplyPlan :=
  { version := 1
    edgeChanges := [⟨"kim", some "ann", some "bob"⟩]
    jsonRoutingChanges := []
    queueRoutingChanges := [⟨.queue, .parentWake, "watch", "kim", some "ann", some "bob", some true,
      some 600, false⟩] }

/-- The queue once the watch is fenced. -/
def fencedWatch : QueueDb := ⟨[⟨"watch", "kim", "ann", 600, false⟩], []⟩

theorem fencedWatch_ready (restore : Bool) : RowsReady restore handedPlan fencedWatch where
  keyed := ⟨by decide, by decide⟩
  wakes := by
    intro change hm _ hp
    cases mem_singleton.mp hm
    cases hp
    exact ⟨⟨"watch", "kim", "ann", 600, false⟩, by decide, rfl, rfl, .inr (.inl ⟨rfl, rfl⟩)⟩
  messages := by
    intro change hm message hp
    cases mem_singleton.mp hm
    cases hp

/-- The request holds the lease, and the note, its only deferred operation, has not been sent. -/
def Noted (stores : Stores) : Prop :=
  stores.registry.reparentApplyLease.map ApplyLease.requestId = some "move" ∧
    (findRequest stores.registry "move").isSome ∧ (requestIn stores).status ≠ .applied ∧
    (requestIn stores).applyPlan = some handedPlan ∧
    (requestIn stores).deferredRoutingIntents.map DeferredRoutingIntent.key = ["late"] ∧
    stores.queue.messages = [] ∧ stores.registry.retainedPendingMessages = []

instance (stores : Stores) : Decidable (Noted stores) := inferInstanceAs (Decidable (_ ∧ _))

theorem Noted.replayable {stores : Stores} (noted : Noted stores) (purpose : Purpose) (again : Bool)
    (stage : purpose.Stage (requestIn stores).applyStage) :
    Replayable familyEnv ⟨purpose, "move", again, []⟩ stores (requestIn stores) := by
  obtain ⟨held, found, _, _, keys, messages, retained⟩ := noted
  have key : ∀ intent ∈ (requestIn stores).deferredRoutingIntents, intent.key = "late" := by
    intro intent hm
    have hk := mem_map_of_mem (f := DeferredRoutingIntent.key) hm
    rw [keys] at hk
    exact mem_singleton.mp hk
  exact
    { leased := leasedReparentRequest_eq_ok.mpr ⟨held, (Option.some_get found).symm.trans
        (congrArg some (Option.get_eq_getD _))⟩
      stage := stage
      keyed := by
        unfold RequestRecord.Keyed
        rw [keys]
        decide
      apart := fun one first two second _ _ _ =>
        (key one (mem_of_mem_filter first)).trans (key two (mem_of_mem_filter second)).symm
      jobs := by
        intro intent _
        constructor
        · intro message _ row hf
          simp [messageRow, messages] at hf
        · intro message _ row hf
          simp [retained] at hf }

theorem longerIds_next_ne {id : String} (other : ∃ letter ∈ id.toList, letter ≠ 'w')
    (used : List String) : longerIds.next used ≠ id := by
  intro hs
  obtain ⟨letter, hm, hne⟩ := other
  rw [← hs] at hm
  simp only [longerIds, longerId, String.toList_ofList] at hm
  exact hne (eq_of_mem_replicate hm)

theorem handedOver_noted : Noted (handedOver note).stores := by decide +kernel

theorem handedOver_committed :
    Committed familyEnv longerIds "move" (handedOver note).stores handedRecord handedPlan := by
  obtain ⟨_, _, unapplied, planned, _⟩ := handedOver_noted
  obtain ⟨stage, queue, parent⟩ : handedRecord.applyStage = some .authorityCommitted ∧
      (handedOver note).stores.queue = fencedWatch ∧
      parentOf (handedOver note).stores.registry "kim" = some "bob" := by decide +kernel
  have replayable := handedOver_noted.replayable .finish false stage
  exact
    { replayable with
      stage, unapplied, planned
      built := ⟨familyRegistry, watched.stores.queue,
        newSingleRequest familyEnv "move" "kim" "bob" "bob" (some "ann") true,
        ⟨by decide, by decide⟩, by decide, by decide +kernel, by decide +kernel⟩
      moves := by decide
      edges := by
        intro edge hm
        cases mem_singleton.mp hm
        exact parent
      rows := queue ▸ fencedWatch_ready false
      apart := by
        have apart := replayable.apart
        rw [todo_once rfl] at apart
        exact apart
      jobs := by
        intro intent hm
        refine replayable.jobs intent ?_
        rw [todo_once rfl]
        exact hm
      generated := by
        intro _ change hm
        cases mem_singleton.mp hm
        exact longerIds_next_ne ⟨'a', by decide, by decide⟩ _ }

/-- A store refuses a step of the driver, and the request fails. -/
def refused (steps : Nat) : Stores :=
  (drive familyEnv longerIds newYear ⟨((drive familyEnv longerIds newYear)^[steps]
    (deferring note)).stores, .fail "move" "database is locked"⟩).stores

/-- The refused step was the move, and an operator asks to roll the request back. -/
def rollingBack : Stores :=
  let failed := refused 8
  failed.withRegistry ((beginRepair familyEnv failed.registry "move" "olga"
    .rollbackPrecommit).toOption.getD failed.registry)

theorem rollingBack_routable :
    Routable familyEnv (.rollback none) "move" handedPlan rollingBack (requestIn rollingBack) := by
  have noted : Noted rollingBack := by decide +kernel
  have ⟨_, _, _, planned, _⟩ := noted
  obtain ⟨stage, queue, parent⟩ : (requestIn rollingBack).applyStage = some .routingQuiesced ∧
      rollingBack.queue = fencedWatch ∧
      sessionParent rollingBack.registry "kim" = some (some "ann") := by decide +kernel
  exact
    { noted.replayable (.rollback none) true (.inr stage) with
      planned
      fits := ⟨by decide, by decide⟩
      rows := queue ▸ fencedWatch_ready true
      json := by
        intro _
        refine ⟨forall_mem_nil _, forall_mem_nil _, ?_⟩
        intro edge hm
        cases mem_singleton.mp hm
        exact parent }

theorem handed_over_note_settles :
    (∃ n, Released .finish "move"
      (applyAlone familyEnv longerIds "move" (handedOver note).stores (fun _ => newYear) n)) ∧
    (∃ n, Released (.abort false) "move"
      (applyAlone familyEnv longerIds "move" (refused 2) (fun _ => newYear) n)) ∧
    ∃ n, Released (.rollback none) "move" (Timed.run (drive familyEnv longerIds) (fun _ => newYear)
      n ⟨rollingBack, repairStart .rollbackPrecommit "move"⟩) := by
  have noted : Noted (refused 2) := by decide +kernel
  have stage : (requestIn (refused 2)).applyStage = some .prequiesceAborting := by decide +kernel
  have ⟨_, _, unapplied, _⟩ := noted
  exact ⟨Safe.released (.finishing rfl handedOver_committed.routable
      handedOver_committed.unapplied) _ _,
    Safe.released (.aborting rfl (noted.replayable (.abort false) true stage) unapplied) _ _,
    Safe.released (.readGroups rollingBack_routable) _ _⟩

theorem handed_over_note_recovers :
    Recovers familyEnv longerIds "move" (handedOver note).stores := by
  refine (recovery_converges_iff handedOver_committed).mpr ?_
  rintro ⟨change, _, _, _, job, pending, rewakes, _⟩
  have jobs : pendingJobs handedPlan (handedOver note).stores.queue handedRecord =
      [⟨"late", note, "kim"⟩] := by decide +kernel
  rw [jobs] at pending
  cases mem_singleton.mp pending
  cases rewakes

end

end SessionManager.Reparent
