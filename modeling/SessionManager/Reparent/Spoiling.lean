import SessionManager.Reparent.Pending

/-! How a replay gets into the way of a second run. When an intent that is to be replayed registers or
cancels the wake of a child whose wake the plan has given to a new parent, the replay leaves a row that
the retarget no longer accepts; a driver that is started on it fails the request. -/
namespace SessionManager.Reparent
open Foundation Queue List Fallible

section

variable {wake : ParentWakeRow} {parent : String} {db : QueueDb} {write : ReplayWrite}

/-- If the planned row is still there, it belongs to the child and to the new parent. -/
structure Aimed (wake : ParentWakeRow) (parent : String) (db : QueueDb) : Prop where
  keyed : db.Keyed
  row : ∀ row, wakeRow db wake.id = some row →
    row.childSessionId = wake.childSessionId ∧ row.parentSessionId = parent

def Inactive (wake : ParentWakeRow) (db : QueueDb) : Prop :=
  ∀ row, wakeRow db wake.id = some row → row.isActive = false

section

variable (ids : RowIds) (hge : ∀ used, ids.next used ≠ wake.id)
include ids hge

/-- What a write of a replay does to one row, unless its identifier is generated again. -/
theorem wakeRow_apply_cases (keyed : db.Keyed) {row : ParentWakeRow}
    (hf : wakeRow (write.apply ids db) wake.id = some row) :
    ∃ old, wakeRow db wake.id = some old ∧ (row = old ∨ row = { old with isActive := false }) := by
  cases write with
  | enqueue =>
    unfold wakeRow at hf ⊢
    rw [ReplayWrite.apply, enqueued_wakes] at hf
    exact ⟨row, hf, .inl rfl⟩
  | cancel =>
    rw [ReplayWrite.apply, wakeRow_cancelParentWake] at hf
    obtain ⟨old, ht, hs⟩ := Option.map_eq_some_iff.mp hf
    refine ⟨old, ht, ?_⟩
    split at hs
    · exact .inr hs.symm
    · exact .inl hs.symm
  | insert child =>
    rw [ReplayWrite.apply] at hf
    by_cases gone : ∀ old, wakeRow db wake.id = some old → old.childSessionId = child
    · rw [wakeRow_insertParentWake_gone ids _ _ _ gone keyed hge] at hf
      cases hf
    · push Not at gone
      obtain ⟨old, ht, other⟩ := gone
      rw [wakeRow_insertParentWake ids _ _ _ ht other] at hf
      cases hf
      exact ⟨_, ht, .inl rfl⟩

theorem Aimed.written (aimed : Aimed wake parent db) (write : ReplayWrite) :
    Aimed wake parent (write.apply ids db) where
  keyed := ReplayWrite.apply_keyed aimed.keyed
  row row hf := by
    obtain ⟨old, ht, hs | hs⟩ := wakeRow_apply_cases ids hge aimed.keyed hf
    · rw [hs]
      exact aimed.row old ht
    · rw [hs]
      exact aimed.row old ht

theorem Inactive.written (keyed : db.Keyed) (inactive : Inactive wake db) (write : ReplayWrite) :
    Inactive wake (write.apply ids db) := by
  intro _ hf
  obtain ⟨old, ht, hs | hs⟩ := wakeRow_apply_cases ids hge keyed hf
  · rw [hs]
    exact inactive old ht
  · rw [hs]

end

theorem Aimed.cancelled (ids : RowIds) (aimed : Aimed wake parent db) :
    Inactive wake ((ReplayWrite.cancel wake.childSessionId).apply ids db) := by
  intro _ hf
  rw [ReplayWrite.apply, wakeRow_cancelParentWake] at hf
  obtain ⟨old, ht, hs⟩ := Option.map_eq_some_iff.mp hf
  rw [if_pos (aimed.row old ht).1] at hs
  rw [← hs]

theorem Aimed.unready (aimed : Aimed wake parent db) (inactive : Inactive wake db)
    (active : wake.isActive) (moves : parent ≠ wake.parentSessionId) :
    ∀ row, wakeRow db wake.id = some row → ¬WakeReady wake (some parent) row := by
  intro row hf hrd
  have place := aimed.row row hf
  have off := inactive row hf
  rcases hrd.2.2 with ⟨old, _⟩ | ⟨old, _⟩ | ⟨_, hs⟩
  · exact moves (place.2.symm.trans old)
  · exact moves (place.2.symm.trans old)
  · rw [off, active] at hs
    cases hs

theorem Job.cancel_mem {env : Env} {requestId : String} {job : Job} {parent : String}
    (rewakes : job.rewakes) :
    ReplayWrite.cancel job.childSessionId ∈ job.writes env requestId (some parent) := by
  obtain ⟨_, operation, _⟩ := job
  cases operation with
  | parentWake | taskComplete => simp [Job.writes, Job.rewake, Job.message]
  | parentMessage | parentInput => cases rewakes

end

section

/-- An intent that registers or cancels the wake is among these. -/
def Due (wake : ParentWakeRow) (jobs : List Job) : Prop :=
  ∃ job ∈ jobs, job.rewakes = true ∧ job.childSessionId = wake.childSessionId

structure Wearing (env : Env) (requestId : String) (plan : ApplyPlan) (wake : ParentWakeRow)
    (parent : String) (stores : Stores) (record : RequestRecord) : Prop
    extends Replayable env (Purpose.finish.replay requestId) stores record where
  unapplied : record.status ≠ .applied
  planned : record.applyPlan = some plan
  child : parentOf stores.registry wake.childSessionId = some parent
  aimed : Aimed wake parent stores.queue

/-- The wake is inactive already, or an intent that is still to be replayed makes it so. -/
structure Spoiler (env : Env) (requestId : String) (plan : ApplyPlan) (wake : ParentWakeRow)
    (parent : String) (stores : Stores) (record : RequestRecord) : Prop
    extends Wearing env requestId plan wake parent stores record where
  due : Inactive wake stores.queue ∨ Due wake ((unreplayed record).map DeferredRoutingIntent.job)

/-- Once the wake of the child has been cancelled, the planned one is inactive. -/
def Cancelled (wake : ParentWakeRow) (stores : Stores) (_ : DeferredRoutingIntent)
    (before : List ReplayWrite) : Prop :=
  ReplayWrite.cancel wake.childSessionId ∈ before → Inactive wake stores.queue

inductive Spoiling (env : Env) (requestId : String) (plan : ApplyPlan) (wake : ParentWakeRow)
    (parent : String) (stores : Stores) : Pc → Prop
  | route {start : Stores} {first : RequestRecord} {pc : Pc} (unapplied : first.status ≠ .applied)
      (due : Due wake (pendingJobs plan start.queue first))
      (child : parentOf start.registry wake.childSessionId = some parent)
      (onRoute : OnRoute env requestId plan start first stores pc) :
      Spoiling env requestId plan wake parent stores pc
  | replay {pc : Pc} (inside : InReplay env requestId (Spoiler env requestId plan wake parent)
      (Cancelled wake) stores pc) : Spoiling env requestId plan wake parent stores pc

/-- The run is about to conclude, and the wake is spoiled. -/
def Spoilt (env : Env) (requestId : String) (plan : ApplyPlan) (wake : ParentWakeRow)
    (parent : String) (system : System) : Prop :=
  ∃ record, Wearing env requestId plan wake parent system.stores record ∧
    Inactive wake system.stores.queue

variable {env : Env} {requestId : String} {plan : ApplyPlan} {wake : ParentWakeRow}
  {parent : String} {stores : Stores} {record : RequestRecord} {pc : Pc}

variable {ids : RowIds} {change : RoutingChange} {intent : DeferredRoutingIntent}
  {rest : List DeferredRoutingIntent} {now : Int}

theorem Arrived.wearing {start : Stores} {first : RequestRecord}
    (arrived : Arrived env requestId plan start first stores record)
    (hm : change ∈ plan.queueRoutingChanges) (planned : wakeOf change = some wake)
    (target : change.newTargetSessionId = some parent) (hua : first.status ≠ .applied)
    (child : parentOf start.registry wake.childSessionId = some parent) :
    Wearing env requestId plan wake parent stores record where
  toReplayable := arrived.toReplayable
  unapplied := by
    rw [arrived.unmoved.status]
    exact hua
  planned := arrived.planned
  child := by
    rw [parentOf_congr arrived.unmoved.edges]
    exact child
  aimed :=
    { keyed := arrived.rows.keyed
      row := by
        intro row hf
        obtain ⟨_, ht, fixed⟩ := (arrived.settled change hm).wake _ planned
        obtain ⟨_, hh, hrd⟩ := arrived.rows.wakes change hm _ planned
        cases ht.symm.trans hf
        cases hh.symm.trans hf
        refine ⟨hrd.1, ?_⟩
        rw [← fixed, routeTarget, target]
        rfl }

theorem Wearing.written (ids : RowIds)
    (hge : ∀ used, ids.next used ≠ wake.id)
    (wearing : Wearing env requestId plan wake parent stores record)
    (next : unreplayed record = intent :: rest) {write : ReplayWrite}
    (hm : write ∈ intentWrites env requestId stores intent) :
    Wearing env requestId plan wake parent (stores.withQueue (write.apply ids stores.queue))
      record := by
  have picked := mem_todo_of_next requestId next
  exact { wearing.toReplayable.write ids picked hm, wearing with
      aimed := wearing.aimed.written ids hge _ }

theorem Spoiler.recorded (now : Int)
    (spoiler : Spoiler env requestId plan wake parent stores record)
    (next : unreplayed record = intent :: rest)
    (sent : Cancelled wake stores intent (intentWrites env requestId stores intent)) :
    Spoiler env requestId plan wake parent
      (stores.withRegistry (replayedRegistry (env.atTime now) stores requestId record intent))
      (reconcileReparentNotificationIntents (record.withReplayed (env.atTime now) intent
        (parentOf stores.registry intent.childSessionId))) := by
  have todo : (Purpose.finish.replay requestId).todo record = intent :: rest :=
    (todo_once rfl _).trans next
  have hry := spoiler.toReplayable.recorded (env.atTime now) rfl todo
  have left := unreplayed_withReplayed (env.atTime now) spoiler.keyed next
    (parentOf stores.registry intent.childSessionId)
  refine ⟨⟨⟨hry.leased, hry.stage, hry.keyed, hry.apart, ?_⟩, spoiler.unapplied, spoiler.planned,
    spoiler.child, spoiler.aimed⟩, ?_⟩
  · intro _ hm
    refine hry.jobs _ ?_
    exact hm
  · rcases spoiler.due with inactive | ⟨job, hm, rewakes, child⟩
    · exact .inl inactive
    · rw [next] at hm
      rcases mem_cons.mp hm with hh | later
      · refine .inl (sent ?_)
        have own : intent.childSessionId = wake.childSessionId := by
          rw [hh] at child
          exact child
        rw [intentWrites, own, spoiler.child, ← child]
        rw [hh] at rewakes ⊢
        exact Job.cancel_mem rewakes
      · refine .inr ⟨job, ?_, rewakes, child⟩
        exact left ▸ later

theorem Spoiler.keeps (plan : ApplyPlan) (parent : String) (requestId : String)
    (hge : ∀ used, ids.next used ≠ wake.id) :
    ReplayKeeps env ids requestId (Spoiler env requestId plan wake parent) (Cancelled wake) where
  replayable holds := holds.toReplayable
  unsent _ _ h := by cases h
  write holds next split sent := by
    have hi := split ▸ mem_append_right _ mem_cons_self
    have keyed := holds.aimed.keyed
    refine ⟨⟨holds.toWearing.written ids hge next hi, ?_⟩, ?_⟩
    · exact holds.due.imp_left fun inactive => inactive.written ids hge keyed _
    · intro hm
      rcases mem_snoc.mp hm with old | new
      · exact (sent old).written ids hge keyed _
      · rw [← new]
        exact holds.aimed.cancelled ids
  record now holds next sent := holds.recorded now next sent

section

variable (hm : change ∈ plan.queueRoutingChanges)
  (planned : wakeOf change = some wake) (target : change.newTargetSessionId = some parent)
  (hge : ∀ used, ids.next used ≠ wake.id)
  (spoiling : Spoiling env requestId plan wake parent stores pc)
include hm planned target hge spoiling

theorem Spoiling.spoils (now : Int) :
    Spoiling env requestId plan wake parent (drive env ids now ⟨stores, pc⟩).stores
        (drive env ids now ⟨stores, pc⟩).pc ∨
      Spoilt env requestId plan wake parent (drive env ids now ⟨stores, pc⟩) := by
  cases spoiling with
  | route hua due child onRoute =>
    rcases onRoute.nears hua ids now with later | ⟨picking, record, arrived⟩
    · exact .inl (.route hua due child later)
    · refine .inl ?_
      rw [picking]
      refine .replay (.pick [] ⟨arrived.wearing hm planned target hua child, .inr ?_⟩)
      rw [← pendingJobs_of_present arrived.present, arrived.unmoved.jobs]
      exact due
  | replay hi =>
    rcases (Spoiler.keeps plan parent requestId hge).step hi with
      later | ⟨_, record, spoiler, hry⟩
    · exact .inl (.replay later)
    · refine .inr ⟨_, spoiler.toWearing, spoiler.due.resolve_right ?_⟩
      rw [hry]
      rintro ⟨_, h, _⟩
      cases h

theorem Spoiling.ends (clock : Nat → Int) : ∃ n, Spoilt env requestId plan wake parent
      (Timed.run (drive env ids) clock n ⟨stores, pc⟩) := by
  refine safe_ends requestId ?_ ?_ (fun now _ held =>
    Spoiling.spoils hm planned target hge held now) _ spoiling
  · intro _ held
    cases held with
    | route hua _ _ onRoute => exact onRoute.safe hua
    | replay hi => exact (Spoiler.keeps _ _ _ hge).safe hi
  · rintro ⟨_, pc⟩ held idle
    cases idle
    cases held with
    | route _ _ _ onRoute => cases onRoute
    | replay hi => cases hi

end

end

section

structure Ruined (requestId : String) (plan : ApplyPlan) (change : RoutingChange)
    (wake : ParentWakeRow) (stores : Stores) (record : RequestRecord) : Prop where
  leased : leasedReparentRequest stores.registry requestId = .ok record
  stage : record.applyStage = some .authorityCommitted
  unapplied : record.status ≠ .applied
  planned : record.applyPlan = some plan
  unready : ∀ row, wakeRow stores.queue wake.id = some row →
    ¬WakeReady wake (routeTarget false change) row

inductive Doomed (requestId : String) (plan : ApplyPlan) (change : RoutingChange)
    (wake : ParentWakeRow) (stores : Stores) : Pc → Prop
  | stage {record : RequestRecord} (left : Nat)
      (ruined : Ruined requestId plan change wake stores record) :
      Doomed requestId plan change wake stores (.stage (left + 1) requestId)
  | readGroups {record : RequestRecord}
      (ruined : Ruined requestId plan change wake stores record) :
      Doomed requestId plan change wake stores (.readGroups .finish requestId)
  | retarget {record : RequestRecord} (targets : List (Option String))
      (rows : List ParentRoutingMessageRow)
      (ruined : Ruined requestId plan change wake stores record)
      (ahead : routeTarget false change ∈ targets) :
      Doomed requestId plan change wake stores
        (.retarget .finish requestId plan (targets.map (groupTo false plan)) rows)
  | fail {record : RequestRecord} (reason : String)
      (ruined : Ruined requestId plan change wake stores record) :
      Doomed requestId plan change wake stores (.fail requestId reason)
  | failed {record : RequestRecord} (found : findRequest stores.registry requestId = some record)
      (status : record.status = .failed) : Doomed requestId plan change wake stores .idle

variable {env : Env} {ids : RowIds} {now : Int} {requestId : String} {plan : ApplyPlan}
  {change : RoutingChange} {wake : ParentWakeRow} {stores : Stores} {record : RequestRecord}
  {pc : Pc}

theorem Ruined.doomed_stage (ruined : Ruined requestId plan change wake stores record)
    (left : Nat) :
    drive env ids now ⟨stores, .stage (left + 1) requestId⟩ =
      ⟨stores, .readGroups .finish requestId⟩ := by
  refine drive_eq (bind_eq_ok.mpr ⟨_, ?_, rfl⟩)
  unfold stageStep
  dsimp only
  rw [if_neg (unapplied_find ruined.leased ruined.unapplied)]
  exact bind_eq_ok.mpr ⟨_, ruined.leased, by rw [ruined.stage]; rfl⟩

theorem Ruined.doomed_readGroups (fits : PlanFits plan)
    (ruined : Ruined requestId plan change wake stores record) :
    drive env ids now ⟨stores, .readGroups .finish requestId⟩ =
      ⟨stores, .retarget .finish requestId plan
        ((routeTargets false plan).map (groupTo false plan)) []⟩ := by
  have planned : planOf record = .ok plan := by
    unfold planOf
    rw [ruined.planned]
  refine drive_eq (bind_eq_ok.mpr ⟨_, bind_eq_ok.mpr ⟨_, ruined.leased, ?_⟩, rfl⟩)
  exact bind_eq_ok.mpr ⟨_, planned, bind_eq_ok.mpr
    ⟨_, queueRouteGroupsFromPlan_ok fits false, rfl⟩⟩

def failedRecord (env : Env) (reason : String) (record : RequestRecord) : RequestRecord :=
  { record with
    status := .failed
    applyStage := if beforeQuiesce record then some .prequiesceAborting else record.applyStage
    failureReason := some reason, readyToApply := false, decidedAt := some env.nowText }

theorem markFailed_eq (env : Env)
    (hl : leasedReparentRequest stores.registry requestId = .ok record)
    (hua : record.status ≠ .applied) (reason : String) :
    markFailed env stores.registry requestId reason =
      .ok (some (storeRequest stores.registry requestId (failedRecord env reason record),
        beforeQuiesce record)) :=
  (if_neg (unapplied_find hl hua)).trans (bind_eq_ok.mpr ⟨record, hl, rfl⟩)

theorem Ruined.doomed_fail (ruined : Ruined requestId plan change wake stores record)
    (reason : String) :
    ∃ registry after, drive env ids now ⟨stores, .fail requestId reason⟩ =
        ⟨stores.withRegistry registry, .idle⟩ ∧
      findRequest registry requestId = some after ∧ after.status = .failed := by
  have later : beforeQuiesce record = false := by
    unfold beforeQuiesce
    rw [ruined.stage]
    rfl
  have hmk := markFailed_eq (env.atTime now) ruined.leased ruined.unapplied reason
  rw [later] at hmk
  exact ⟨_, _, drive_eq (bind_eq_ok.mpr ⟨_, hmk, rfl⟩),
    findRequest_storeRequest rfl (leasedReparentRequest_ok ruined.leased).2 rfl, rfl⟩

section

variable (fits : PlanFits plan) (hm : change ∈ plan.queueRoutingChanges)
  (planned : wakeOf change = some wake)
include fits hm planned

theorem Ruined.doomed_retarget
    (ruined : Ruined requestId plan change wake stores record) (targets : List (Option String))
    (rows : List ParentRoutingMessageRow) (ahead : routeTarget false change ∈ targets) :
    Doomed requestId plan change wake (drive env ids now ⟨stores, .retarget .finish requestId plan
        (targets.map (groupTo false plan)) rows⟩).stores
      (drive env ids now ⟨stores, .retarget .finish requestId plan
        (targets.map (groupTo false plan)) rows⟩).pc := by
  cases targets with
  | nil => cases ahead
  | cons target targets =>
    cases result : retargetParentRouting stores.queue (groupTo false plan target).1 target with
    | error reason =>
      have hsp : Pc.step (env.atTime now) ids stores (.retarget .finish requestId plan
          ((target :: targets).map (groupTo false plan)) rows) = .error reason := by
        change (retargetParentRouting stores.queue (groupTo false plan target).1 target >>= _) = _
        rw [result]
        rfl
      unfold drive driverStep
      rw [hsp]
      exact .fail _ ruined
    | ok next =>
      obtain ⟨queue, more⟩ := next
      have other : routeTarget false change ≠ target := by
        intro hs
        obtain ⟨reason, refused⟩ := retargetGroup_error fits hm planned ruined.unready
        rw [hs, result] at refused
        cases refused
      have hsp : Pc.step (env.atTime now) ids stores (.retarget .finish requestId plan
          ((target :: targets).map (groupTo false plan)) rows) =
          .ok (stores.withQueue queue, .retarget .finish requestId plan
            (targets.map (groupTo false plan)) (rows ++ more)) :=
        bind_eq_ok.mpr ⟨_, result, rfl⟩
      rw [drive_eq hsp]
      refine .retarget _ _ ⟨ruined.leased, ruined.stage, ruined.unapplied,
        ruined.planned, ?_⟩ ((mem_cons.mp ahead).resolve_left other)
      intro row hf
      refine ruined.unready row ?_
      rw [← retargetGroup_other fits hm result planned other]
      exact hf

theorem Doomed.drive
    (doomed : Doomed requestId plan change wake stores pc) (ids : RowIds) (now : Int) :
    Doomed requestId plan change wake (Reparent.drive env ids now ⟨stores, pc⟩).stores
      (Reparent.drive env ids now ⟨stores, pc⟩).pc := by
  cases doomed with
  | stage left ruined =>
    rw [ruined.doomed_stage left]
    exact .readGroups ruined
  | readGroups ruined =>
    rw [ruined.doomed_readGroups fits]
    exact .retarget _ [] ruined (mem_routeTargets.mpr ⟨change, hm, rfl⟩)
  | retarget _ _ ruined ahead =>
    exact ruined.doomed_retarget fits hm planned _ _ ahead
  | fail _ ruined =>
    obtain ⟨_, _, hsp, hf, status⟩ := ruined.doomed_fail _
    rw [hsp]
    exact .failed hf status
  | failed hf status =>
    have idle : Reparent.drive env ids now ⟨stores, .idle⟩ = ⟨stores, .idle⟩ := drive_eq rfl
    exact .failed hf status

end

theorem Doomed.unapplied (doomed : Doomed requestId plan change wake stores pc) :
    ∃ record, findRequest stores.registry requestId = some record ∧ record.status ≠ .applied := by
  cases doomed with
  | stage _ ruined | readGroups ruined | retarget _ _ ruined | fail _ ruined =>
    exact ⟨_, (leasedReparentRequest_ok ruined.leased).2, ruined.unapplied⟩
  | failed hf status => exact ⟨_, hf, by rw [status]; decide⟩

end

end SessionManager.Reparent
