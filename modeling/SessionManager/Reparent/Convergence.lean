import SessionManager.Reparent.Pending

/-! Where a committed request is heading, and that it gets there. As long as no pending intent touches
a registration that the plan routes, every write of the driver keeps the outcome, so that a driver
started at any moment reaches it. -/
namespace SessionManager.Reparent
open Foundation Queue List

section

structure Outcome where
  edges : List (String × Option String)
  routing : Routing

def outcomeOf (stores : Stores) : Outcome := ⟨hierarchy stores.registry, routingOf stores⟩

variable (env : Env) (requestId : String) (plan : ApplyPlan) (stores : Stores)
  (record : RequestRecord)

/-- The routing once everything that is pending has been replayed. -/
def finalRouting (jobs : List Job) (routing : Routing) : Routing :=
  jobs.foldl (fun before job =>
    job.effect env requestId (parentOf stores.registry job.childSessionId) before) routing

def finalOutcome : Outcome :=
  ⟨hierarchy stores.registry, finalRouting env requestId stores
    (pendingJobs plan stores.queue record) (settledRouting plan stores)⟩

/-- A state after the commit from which a driver, started at any time, reaches the outcome. -/
structure Recoverable (outcome : Outcome) : Prop
    extends Routable env .finish requestId plan stores record where
  unapplied : record.status ≠ .applied
  clear : ∀ job ∈ pendingJobs plan stores.queue record, ∀ write ∈ job.writes env requestId
    (parentOf stores.registry job.childSessionId), write.Clear plan
  final : finalOutcome env requestId plan stores record = outcome

end

variable {start : Routing} {before after : List ReplayWrite} {write : ReplayWrite}

section

variable {env : Env} {requestId : String} {plan : ApplyPlan} {stores : Stores}
  {record : RequestRecord} {outcome : Outcome} {run : Replay} {intent : DeferredRoutingIntent}
  {rest : List DeferredRoutingIntent}

theorem Recoverable.of_unmoved {start : Stores} {first : RequestRecord}
    (core : Recoverable env requestId plan start first outcome)
    (hro : Routable env .finish requestId plan stores record)
    (unmoved : Unmoved plan start first stores record) :
    Recoverable env requestId plan stores record outcome := by
  have parents := parentOf_congr unmoved.edges
  refine ⟨hro, ?_, ?_, ?_⟩
  · rw [unmoved.status]
    exact core.unapplied
  · rw [unmoved.jobs, parents]
    exact core.clear
  · rw [← core.final]
    unfold finalOutcome finalRouting
    rw [unmoved.jobs, unmoved.routing, unmoved.edges, parents]

theorem isDelivered_written {restore : Bool} (ids : RowIds) (write : ReplayWrite)
    {db : QueueDb} (hrd : RowsReady restore plan db) {change : RoutingChange}
    (hm : change ∈ plan.queueRoutingChanges) {message : ParentRoutingMessageRow}
    (hp : messageOf change = some message) :
    isDelivered (write.apply ids db) message = isDelivered db message := by
  obtain ⟨_, hf, _⟩ := hrd.messages change hm _ hp
  unfold isDelivered
  rw [ReplayWrite.messageRow_apply_of_some hf, hf]

theorem Recoverable.clear_next (core : Recoverable env requestId plan stores record outcome)
    (present : LatePresent plan stores.queue record) (next : unreplayed record = intent :: rest)
    (hi : write ∈ intentWrites env requestId stores intent) : write.Clear plan := by
  refine core.clear intent.job ?_ _ hi
  rw [pendingJobs_of_present present, next]
  exact mem_cons_self

/-- One queue write of the first pending intent: the stores are heading where they were. -/
theorem Recoverable.written (ids : RowIds)
    (core : Recoverable env requestId plan stores record outcome)
    (present : LatePresent plan stores.queue record)
    (next : unreplayed record = intent :: rest)
    (split : intentWrites env requestId stores intent = before ++ write :: after)
    (sent : settledRouting plan stores = replayEffects before start) :
    Recoverable env requestId plan (stores.withQueue (write.apply ids stores.queue)) record
        outcome ∧
      settledRouting plan (stores.withQueue (write.apply ids stores.queue)) =
        replayEffects (before ++ [write]) start := by
  have hi : write ∈ intentWrites env requestId stores intent := by
    rw [split]
    exact mem_append_right _ mem_cons_self
  have clear := core.clear_next present next hi
  have picked := mem_todo_of_next requestId next
  have jobs : pendingJobs plan (stores.withQueue (write.apply ids stores.queue)).queue record =
      pendingJobs plan stores.queue record :=
    pendingJobs_congr (deliveredRows_congr fun _ hm _ hp =>
      isDelivered_written ids _ core.rows hm hp)
  have moved : settledRouting plan (stores.withQueue (write.apply ids stores.queue)) =
      replayEffects (before ++ [write]) start := by
    rw [settledRouting_write ids core.rows clear, sent]
    unfold replayEffects
    rw [foldl_append]
    rfl
  refine ⟨⟨⟨core.toReplayable.write ids picked hi, core.planned, core.fits,
    core.rows.written ids clear, core.json⟩, core.unapplied, ?_, ?_⟩, moved⟩
  · intro job hm
    rw [jobs] at hm
    exact core.clear job hm
  · have again : intentWrites env requestId stores intent = (before ++ [write]) ++ after := by
      rw [split, append_assoc]
      rfl
    have hs : intent.job.effect env requestId (parentOf stores.registry intent.childSessionId)
          (settledRouting plan (stores.withQueue (write.apply ids stores.queue))) =
        intent.job.effect env requestId (parentOf stores.registry intent.childSessionId)
          (settledRouting plan stores) := by
      have absorbed :=
        (replayEffects_again _ again).trans (replayEffects_again start split).symm
      rw [← moved, ← sent] at absorbed
      unfold Job.effect
      rw [absorbed]
      rfl
    rw [← core.final]
    unfold finalOutcome finalRouting
    rw [jobs, pendingJobs_of_present present, next, map_cons, foldl_cons]
    exact congrArg (fun routing => Outcome.mk _ (List.foldl _ routing _)) hs

theorem Recoverable.recorded (writer : Env)
    (sameDigest : writer.sha256Text = env.sha256Text)
    (core : Recoverable env requestId plan stores record outcome)
    (present : LatePresent plan stores.queue record)
    (next : unreplayed record = intent :: rest)
    (sent : settledRouting plan stores =
      replayEffects (intentWrites env requestId stores intent) start) :
    Recoverable env requestId plan
      (stores.withRegistry (replayedRegistry writer stores requestId record intent))
      (reconcileReparentNotificationIntents (record.withReplayed writer intent
        (parentOf stores.registry intent.childSessionId))) outcome := by
  have hpe := pendingJobs_of_present present
  have left := unreplayed_withReplayed writer core.keyed next
  have jobs : pendingJobs plan stores.queue (reconcileReparentNotificationIntents
      (record.withReplayed writer intent (parentOf stores.registry intent.childSessionId))) =
      rest.map DeferredRoutingIntent.job := by
    rw [← left]
    exact pendingJobs_of_present (present.withReplayed _ _)
  have todo : (Purpose.finish.replay requestId).todo record = intent :: rest :=
    (todo_once rfl _).trans next
  have hry := core.toReplayable.recorded _ sameDigest todo
  have hse : settledRouting plan
        (stores.withRegistry (replayedRegistry writer stores requestId record intent)) =
      intent.job.effect env requestId (parentOf stores.registry intent.childSessionId)
        (settledRouting plan stores) := by
    have absorbed :=
      replayEffects_again start (append_nil (intentWrites env requestId stores intent)).symm
    rw [← sent] at absorbed
    unfold Job.effect
    rw [absorbed]
    obtain ⟨_, _, _, _⟩ := writer
    cases sameDigest
    rfl
  refine ⟨⟨⟨hry.leased, hry.stage, hry.keyed, hry.apart, ?_⟩, core.planned, core.fits,
    core.rows, fun restores => ?_⟩, core.unapplied, ?_, ?_⟩
  · intro _ hm
    refine hry.jobs _ ?_
    exact hm
  · cases restores
  · intro job hm
    have kept : job ∈ rest.map DeferredRoutingIntent.job := jobs ▸ hm
    refine core.clear job ?_
    rw [hpe, next]
    exact mem_cons_of_mem _ kept
  · rw [← core.final]
    unfold finalOutcome finalRouting
    change Outcome.mk _ ((pendingJobs plan stores.queue _).foldl _ _) = _
    rw [jobs, hse, hpe, next]
    rfl

end

section

structure Replaying (env : Env) (requestId : String) (plan : ApplyPlan) (stores : Stores)
    (record : RequestRecord) (outcome : Outcome) : Prop
    extends Recoverable env requestId plan stores record outcome where
  settled : ∀ change ∈ plan.queueRoutingChanges, RouteSettled false stores.queue change
  present : LatePresent plan stores.queue record

/-- The writes of an intent that have been sent have had their effect. -/
def Effected (plan : ApplyPlan) (stores : Stores) (_ : DeferredRoutingIntent)
    (before : List ReplayWrite) : Prop :=
  ∃ start, settledRouting plan stores = replayEffects before start

/-- A run on its way to the outcome: what the driver holds in memory agrees with the stores. -/
inductive Converging (env : Env) (requestId : String) (plan : ApplyPlan) (outcome : Outcome)
    (stores : Stores) : Pc → Prop
  | route {start : Stores} {first : RequestRecord} {pc : Pc}
      (core : Recoverable env requestId plan start first outcome)
      (onRoute : OnRoute env requestId plan start first stores pc) :
      Converging env requestId plan outcome stores pc
  | replay {pc : Pc} (inside : InReplay env requestId
      (fun stores record => Replaying env requestId plan stores record outcome) (Effected plan)
      stores pc) : Converging env requestId plan outcome stores pc
  | conclude {record : RequestRecord}
      (replaying : Replaying env requestId plan stores record outcome)
      (replayed : unreplayed record = []) :
      Converging env requestId plan outcome stores (.conclude .finish requestId)

structure Ended (requestId : String) (outcome : Outcome) (system : System) : Prop
    extends Released .finish requestId system where
  outcome : outcomeOf system.stores = outcome

variable {env : Env} {requestId : String} {plan : ApplyPlan} {outcome : Outcome} {stores : Stores}
  {pc : Pc} {record : RequestRecord}

theorem Converging.core (converging : Converging env requestId plan outcome stores pc) :
    ∃ record, Recoverable env requestId plan stores record outcome := by
  cases converging with
  | route core onRoute =>
    obtain ⟨record, hro, unmoved⟩ := onRoute.routable
    exact ⟨_, core.of_unmoved hro unmoved⟩
  | replay hi =>
    cases hi with
    | pick _ holds | resolve _ holds _ | send _ holds _ _ _ | record _ holds =>
      exact ⟨_, holds.toRecoverable⟩
  | conclude replaying => exact ⟨_, replaying.toRecoverable⟩

theorem settledRouting_eq (hrd : RowsReady false plan stores.queue)
    (hse : ∀ change ∈ plan.queueRoutingChanges, RouteSettled false stores.queue change)
    (fits : PlanFits plan) : settledRouting plan stores = routingOf stores := by
  have wakes : ∀ child row, childRow stores.queue child = some row →
      settleWake false plan row = row := by
    intro child row hf
    by_cases hp : ∃ change ∈ plan.queueRoutingChanges, ∃ wake, wakeOf change = some wake ∧
        wake.id = row.id
    · obtain ⟨change, hm, wake, hh, hs⟩ := hp
      obtain ⟨other, ht, fixed⟩ := (hse change hm).wake _ hh
      rw [hs, hrd.keyed.wakeRow_of_childRow hf] at ht
      cases ht
      rw [settleWake_planned fits hm hh hs.symm]
      exact fixed
    · refine settleWake_unplanned fun change hm _ hh hs => hp ?_
      exact ⟨change, hm, _, hh, hs⟩
  have messages : ∀ id row, messageRow stores.queue id = some row →
      settleMessage false plan row = row := by
    intro id row hf
    have own := (messageRow_mem hf).2
    by_cases hp : ∃ change ∈ plan.queueRoutingChanges, ∃ message,
        messageOf change = some message ∧ message.id = row.id
    · obtain ⟨change, hm, message, hh, hs⟩ := hp
      obtain ⟨other, ht, fixed⟩ := (hse change hm).message _ hh
      rw [hs, own, hf] at ht
      cases ht
      rw [settleMessage_planned fits hm hh hs.symm]
      exact fixed
    · refine settleMessage_unplanned fun change hm _ hh hs => hp ?_
      exact ⟨change, hm, _, hh, hs⟩
  unfold settledRouting settledChild settledMessage
  congr 1
  · funext child
    cases hf : childRow stores.queue child with
    | none => rfl
    | some row => rw [Option.map_some, wakes _ row hf]
  · funext id
    cases hf : messageRow stores.queue id with
    | none => rfl
    | some row => rw [Option.map_some, messages id row hf]

variable {intent : DeferredRoutingIntent} {rest : List DeferredRoutingIntent} {ids : RowIds}
  {now : Int} {system : System}

theorem Replaying.written (ids : RowIds)
    (replaying : Replaying env requestId plan stores record outcome)
    (next : unreplayed record = intent :: rest)
    (split : intentWrites env requestId stores intent = before ++ write :: after)
    (sent : settledRouting plan stores = replayEffects before start) :
    Replaying env requestId plan (stores.withQueue (write.apply ids stores.queue)) record outcome ∧
      settledRouting plan (stores.withQueue (write.apply ids stores.queue)) =
        replayEffects (before ++ [write]) start := by
  obtain ⟨core, moved⟩ :=
    replaying.toRecoverable.written ids replaying.present next split sent
  have clear : write.Clear plan := by
    refine replaying.clear_next replaying.present next ?_
    rw [split]
    exact mem_append_right _ mem_cons_self
  refine ⟨⟨core, ?_, ?_⟩, moved⟩
  · intro change hm
    exact RouteSettled.written ids replaying.rows clear hm (replaying.settled change hm)
  · unfold LatePresent
    rw [show deliveredRows _ (stores.withQueue (write.apply ids stores.queue)).queue =
        deliveredRows _ stores.queue from deliveredRows_congr fun _ hm _ hp =>
      isDelivered_written ids _ replaying.rows hm hp]
    exact replaying.present

theorem Replaying.keeps (plan : ApplyPlan)
    (ids : RowIds) (requestId : String) (outcome : Outcome) :
    ReplayKeeps env ids requestId
      (fun stores record => Replaying env requestId plan stores record outcome) (Effected plan) where
  replayable holds := holds.toReplayable
  unsent stores _ := ⟨settledRouting plan stores, rfl⟩
  write holds next split := by
    rintro ⟨start, sent⟩
    obtain ⟨later, moved⟩ := holds.written ids next split sent
    exact ⟨later, _, moved⟩
  record now holds next := by
    rintro ⟨start, sent⟩
    exact ⟨holds.toRecoverable.recorded (env.atTime now) rfl holds.present next sent,
      holds.settled, holds.present.withReplayed _ _⟩

/-- A run on its way is safe, so its next step succeeds and it comes to an end. -/
theorem Converging.safe (ids : RowIds)
    (converging : Converging env requestId plan outcome stores pc) :
    Safe env .finish requestId stores pc := by
  cases converging with
  | route core onRoute => exact onRoute.safe core.unapplied
  | replay hi => exact (Replaying.keeps _ ids _ _).safe hi
  | conclude replaying hry =>
    exact .conclude replaying.leased replaying.stage (unreplayed_none hry)

def Continues (env : Env) (requestId : String) (plan : ApplyPlan) (outcome : Outcome)
    (system : System) : Prop :=
  Converging env requestId plan outcome system.stores system.pc ∨ Ended requestId outcome system

theorem Replaying.ended (replaying : Replaying env requestId plan stores record outcome)
    (hry : unreplayed record = []) :
    Ended requestId outcome (drive env ids now ⟨stores, .conclude .finish requestId⟩) := by
  obtain ⟨registry, hsp, routes, released⟩ := step_conclude (env.atTime now) ids
    replaying.leased replaying.stage (unreplayed_none hry)
  rw [show (Pc.conclude .finish requestId) =
    .conclude (Purpose.finish.replay _).purpose (Purpose.finish.replay _).requestId
    from rfl, drive_eq hsp]
  refine ⟨released, ?_⟩
  have final := replaying.final
  unfold finalOutcome at final
  rw [pendingJobs_of_present replaying.present, hry,
    settledRouting_eq replaying.rows replaying.settled replaying.fits] at final
  rw [← final]
  change Outcome.mk (hierarchy registry) ⟨_, _, registry.retainedParentWakes,
    registry.retainedPendingMessages⟩ = _
  rw [routes.hierarchy, routes.wakes, routes.messages]
  rfl

theorem Converging.continues
    (converging : Converging env requestId plan outcome stores pc) (ids : RowIds) (now : Int) :
    Continues env requestId plan outcome (drive env ids now ⟨stores, pc⟩) := by
  cases converging with
  | route core onRoute =>
    rcases onRoute.nears core.unapplied ids now with later | ⟨picking, record, arrived⟩
    · exact .inl (.route core later)
    · refine .inl ?_
      rw [picking]
      exact .replay (.pick [] ⟨core.of_unmoved arrived.toRoutable arrived.unmoved, arrived.settled,
        arrived.present⟩)
  | replay hi =>
    refine .inl ?_
    rcases (Replaying.keeps plan ids requestId outcome).step hi with
      later | ⟨hen, record, replaying, hry⟩
    · exact .replay later
    · rw [hen]
      exact .conclude replaying hry
  | conclude replaying hry => exact .inr (replaying.ended hry)

theorem Converging.ends
    (converging : Converging env requestId plan outcome stores pc) (ids : RowIds)
    (clock : Nat → Int) :
    ∃ n, Ended requestId outcome (Timed.run (drive env ids) clock n ⟨stores, pc⟩) := by
  refine safe_ends _ (fun _ held => Converging.safe ids held) ?_
    (fun now _ held => Converging.continues held ids now) _ converging
  rintro ⟨_, pc⟩ held idle
  cases idle
  cases held with
  | route _ onRoute => cases onRoute
  | replay hi => cases hi

theorem drive_idle (idle : system.pc = .idle) : drive env ids now system = system := by
  obtain ⟨_, _⟩ := system
  cases idle
  exact drive_eq rfl

theorem Continues.drive
    (continues : Continues env requestId plan outcome system) (ids : RowIds) (now : Int) :
    Continues env requestId plan outcome (Reparent.drive env ids now system) := by
  rcases continues with converging | hen
  · exact converging.continues ids now
  · rw [drive_idle hen.idle]
    exact .inr hen

end

end SessionManager.Reparent
