import SessionManager.Reparent.Replay

/-! What a step of the driver can do, said once: one constructor for each outcome, with the checks that
led to it and the write that it made. -/
namespace SessionManager.Reparent
open Foundation Queue Fallible

section

variable (env : Env)

/-- The request as the last write of each way out leaves it. -/
def Purpose.settled (purpose : Purpose) (record : RequestRecord) : RequestRecord :=
  match purpose with
  | .finish =>
    { record with
      status := .applied, applyStage := some .applied, appliedAt := some env.nowText
      decidedAt := some env.nowText, readyToApply := false, failureReason := none }
  | .abort _ => { record with status := .stale, applyStage := some .prequiesceAborted }
  | .rollback staleReason =>
    { record with
      status := if staleReason.isSome then .stale else .repaired
      applyStage := some (if staleReason.isSome then .prequiesceAborted else .repairRolledBack)
      failureReason := staleReason, readyToApply := false, decidedAt := some env.nowText }

/-- The stage that the last write of each way out checks; a rollback checks none. -/
def Purpose.checks : Purpose → Option ApplyStage
  | .finish => some .authorityCommitted
  | .abort _ => some .prequiesceAborting
  | .rollback _ => none

def failedWith (reason : String) (record : RequestRecord) : RequestRecord :=
  { record with
    status := .failed
    applyStage := if beforeQuiesce record then some .prequiesceAborting else record.applyStage
    failureReason := some reason, readyToApply := false, decidedAt := some env.nowText }

/-- Where the loop over the stages goes from a request that holds the lease. -/
inductive Stages (left : Nat) (requestId : String) : ApplyStage → Pc → Prop
  | applying : Stages left requestId .applying (.quiesceJson left requestId)
  | aborting : Stages left requestId .prequiesceAborting (.pick ⟨.abort false, requestId, true, []⟩)
  | json : Stages left requestId .jsonRoutingQuiesced (.readSnapshot left requestId)
  | routing : Stages left requestId .routingQuiesced (.commit left requestId)
  | committed : Stages left requestId .authorityCommitted (.readGroups .finish requestId)
  | applied : Stages left requestId .applied .idle

inductive Drives (ids : RowIds) (stores : Stores) : Pc → Stores → Pc → Prop
  | rests : Drives ids stores .idle stores .idle
  | acquires :
      Drives ids stores .acquire
        (stores.withRegistry (acquireReparentApplyLease env stores.registry stores.queue).1)
        (((acquireReparentApplyLease env stores.registry stores.queue).2.map Pc.inspect).getD .idle)
  | inspects (requestId : String) (next : Pc) (either : next = .idle ∨ next = .stage 8 requestId) :
      Drives ids stores (.inspect requestId) stores next
  | appliedAlready (left : Nat) (requestId : String) :
      Drives ids stores (.stage left requestId) stores .idle
  | stages (left : Nat) (requestId : String) (record : RequestRecord) (next : Pc)
      (leased : leasedReparentRequest stores.registry requestId = .ok record)
      (chosen : Stages left requestId (record.applyStage.getD .applying) next) :
      Drives ids stores (.stage (left + 1) requestId) stores next
  | quiescesJson (left : Nat) (requestId : String) (record : RequestRecord) (plan : ApplyPlan)
      (quiesced : Registry)
      (leased : leasedReparentRequest stores.registry requestId = .ok record)
      (planned : record.applyPlan = some plan)
      (fresh : reparentStaleReason stores.registry record = none)
      (routes : quiesceJsonReparentRoutes stores.registry plan = .ok quiesced) :
      Drives ids stores (.quiesceJson left requestId)
        (stores.withRegistry (storeRequest quiesced requestId
          { record with applyStage := some .jsonRoutingQuiesced }))
        (.stage left requestId)
  | readsSnapshot (left : Nat) (requestId : String) (record : RequestRecord) (plan : ApplyPlan)
      (snapshot : ParentRoutingSnapshot)
      (leased : leasedReparentRequest stores.registry requestId = .ok record)
      (planned : record.applyPlan = some plan)
      (made : queueSnapshotFromPlan plan = .ok snapshot) :
      Drives ids stores (.readSnapshot left requestId) stores
        (.quiesceQueue left requestId snapshot)
  | quiescesQueue (left : Nat) (requestId : String) (snapshot : ParentRoutingSnapshot)
      (queue : QueueDb) (written : quiesceParentRouting stores.queue snapshot = .ok queue) :
      Drives ids stores (.quiesceQueue left requestId snapshot) (stores.withQueue queue)
        (.queueQuiesced left requestId)
  | queueQuiesced (left : Nat) (requestId : String) (record : RequestRecord)
      (leased : leasedReparentRequest stores.registry requestId = .ok record)
      (stage : record.applyStage = some .jsonRoutingQuiesced) :
      Drives ids stores (.queueQuiesced left requestId)
        (stores.withRegistry (storeRequest stores.registry requestId
          { record with applyStage := some .routingQuiesced }))
        (.stage left requestId)
  | turnsBack (left : Nat) (requestId reason : String) :
      Drives ids stores (.commit left requestId) stores
        (.readGroups (.rollback (some reason)) requestId)
  | commits (left : Nat) (requestId : String) (record : RequestRecord) (plan : ApplyPlan)
      (moved routed : Registry)
      (leased : leasedReparentRequest stores.registry requestId = .ok record)
      (planned : record.applyPlan = some plan)
      (fresh : reparentStaleReason stores.registry record = none)
      (edges : plan.edgeChanges.foldlM commitEdge stores.registry = .ok moved)
      (routes : plan.jsonRoutingChanges.foldlM commitJsonRoute moved = .ok routed) :
      Drives ids stores (.commit left requestId)
        (stores.withRegistry (storeRequest routed requestId
          { record with applyStage := some .authorityCommitted }))
        (.stage left requestId)
  | readsGroups (purpose : Purpose) (requestId : String) (record : RequestRecord)
      (plan : ApplyPlan) (groups : List (ParentRoutingSnapshot × Option String))
      (leased : leasedReparentRequest stores.registry requestId = .ok record)
      (planned : record.applyPlan = some plan)
      (onward : ∀ reason, purpose ≠ .rollback reason)
      (made : queueRouteGroupsFromPlan plan false = .ok groups) :
      Drives ids stores (.readGroups purpose requestId) stores
        (.retarget purpose requestId plan groups [])
  | readsOldGroups (reason : Option String) (requestId : String) (record : RequestRecord)
      (plan : ApplyPlan) (groups : List (ParentRoutingSnapshot × Option String))
      (leased : leasedReparentRequest stores.registry requestId = .ok record)
      (planned : record.applyPlan = some plan)
      (precommit : record.applyStage = some .jsonRoutingQuiesced ∨
        record.applyStage = some .routingQuiesced)
      (made : queueRouteGroupsFromPlan plan true = .ok groups) :
      Drives ids stores (.readGroups (.rollback reason) requestId) stores
        (.retarget (.rollback reason) requestId plan groups [])
  | retargetedAll (purpose : Purpose) (requestId : String) (plan : ApplyPlan)
      (rows : List ParentRoutingMessageRow) :
      Drives ids stores (.retarget purpose requestId plan [] rows) stores
        (.delivered purpose requestId plan rows)
  | retargets (purpose : Purpose) (requestId : String) (plan : ApplyPlan)
      (snapshot : ParentRoutingSnapshot) (parent : Option String)
      (groups : List (ParentRoutingSnapshot × Option String))
      (rows more : List ParentRoutingMessageRow) (queue : QueueDb)
      (written : retargetParentRouting stores.queue snapshot parent = .ok (queue, more)) :
      Drives ids stores (.retarget purpose requestId plan ((snapshot, parent) :: groups) rows)
        (stores.withQueue queue) (.retarget purpose requestId plan groups (rows ++ more))
  | nothingLate (purpose : Purpose) (requestId : String) (plan : ApplyPlan)
      (rows : List ParentRoutingMessageRow) :
      Drives ids stores (.delivered purpose requestId plan rows) stores
        (afterDelivered purpose requestId plan)
  | defersLate (purpose : Purpose) (requestId : String) (plan : ApplyPlan)
      (rows : List ParentRoutingMessageRow) (record : RequestRecord)
      (leased : leasedReparentRequest stores.registry requestId = .ok record) :
      Drives ids stores (.delivered purpose requestId plan rows)
        (stores.withRegistry (storeRequest stores.registry requestId
          { record with
            deferredRoutingIntents :=
              (rows.filter ParentRoutingMessageRow.createsParentWake).foldl
                (pushDeliveredWake env) record.deferredRoutingIntents }))
        (afterDelivered purpose requestId plan)
  | restores (reason : Option String) (requestId : String) (plan : ApplyPlan)
      (restored : Registry)
      (routes : restoreJsonReparentRoutes stores.registry plan = .ok restored) :
      Drives ids stores (.restore reason requestId plan) (stores.withRegistry restored)
        (.pick ⟨.rollback reason, requestId, true, []⟩)
  | picksNone (run : Replay) (record : RequestRecord)
      (leased : leasedReparentRequest stores.registry run.requestId = .ok record)
      (exhausted : (run.todo record).head? = none) :
      Drives ids stores (.pick run) stores (.conclude run.purpose run.requestId)
  | picks (run : Replay) (record : RequestRecord) (intent : DeferredRoutingIntent)
      (leased : leasedReparentRequest stores.registry run.requestId = .ok record)
      (next : (run.todo record).head? = some intent) :
      Drives ids stores (.pick run) stores (.resolve run intent)
  | resolves (run : Replay) (intent : DeferredRoutingIntent) :
      Drives ids stores (.resolve run intent) stores
        (.send run intent (parentOf stores.registry intent.childSessionId) 0)
  | sends (run : Replay) (intent : DeferredRoutingIntent) (parent : Option String) (sent : Nat)
      (write : ReplayWrite)
      (next : (intent.job.writes env run.requestId parent)[sent]? = some write)
      (written : write.run ids stores.queue = .ok (write.apply ids stores.queue)) :
      Drives ids stores (.send run intent parent sent)
        (stores.withQueue (write.apply ids stores.queue)) (.send run intent parent (sent + 1))
  | sentAll (run : Replay) (intent : DeferredRoutingIntent) (parent : Option String) (sent : Nat)
      (exhausted : (intent.job.writes env run.requestId parent)[sent]? = none) :
      Drives ids stores (.send run intent parent sent) stores (.record run intent parent)
  | records (run : Replay) (intent : DeferredRoutingIntent) (parent : Option String)
      (record : RequestRecord) (retained : Registry)
      (leased : leasedReparentRequest stores.registry run.requestId = .ok record)
      (kept : replayRegistry env stores.registry run.requestId intent parent = .ok retained) :
      Drives ids stores (.record run intent parent)
        (stores.withRegistry (storeRequest retained run.requestId
          (record.withReplayed env intent parent)))
        (.pick (run.past intent))
  | concludesLater (purpose : Purpose) (requestId : String) :
      Drives ids stores (.conclude purpose requestId) stores
        (.pick ⟨purpose, requestId, false, []⟩)
  | concludes (purpose : Purpose) (requestId : String) (record : RequestRecord)
      (leased : leasedReparentRequest stores.registry requestId = .ok record)
      (stage : ∀ stage, purpose.checks = some stage → record.applyStage = some stage)
      (replayed : hasPendingIntent record = false) :
      Drives ids stores (.conclude purpose requestId)
        (stores.withRegistry (storeReleased stores.registry requestId
          (purpose.settled env record))) .idle
  | failsApplied (requestId reason : String) :
      Drives ids stores (.fail requestId reason) stores .idle
  | fails (requestId reason : String) (record : RequestRecord)
      (leased : leasedReparentRequest stores.registry requestId = .ok record) :
      Drives ids stores (.fail requestId reason)
        (stores.withRegistry (storeRequest stores.registry requestId
          (failedWith env reason record)))
        (if beforeQuiesce record then .pick ⟨.abort true, requestId, true, []⟩ else .idle)
  | errs (pc : Pc) (reason : String) : Drives ids stores pc stores (pc.onError reason)

end

section

variable {env : Env} {ids : RowIds} {stores after : Stores}

theorem enqueueMessageOnceWithMetadata_eq {db after : QueueDb} {message : DeferredMessage}
    (hd : enqueueMessageOnceWithMetadata db message.id message.targetSessionId message.text
      message.deliveryMode message.metadata = .ok after) : after = enqueued db message := by
  unfold enqueueMessageOnceWithMetadata enqueueMessageWithId at hd
  unfold enqueued
  cases hf : messageRow db message.id with
  | none =>
    rw [hf] at hd
    exact (Except.ok.inj hd).symm
  | some =>
    rw [hf] at hd
    dsimp only at hd
    rw [if_neg Bool.false_ne_true] at hd
    split at hd
    · exact (Except.ok.inj hd).symm
    · cases hd

theorem ReplayWrite.run_eq {db after : QueueDb} {write : ReplayWrite}
    (hd : write.run ids db = .ok after) : after = write.apply ids db := by
  cases write with
  | cancel | insert => exact (Except.ok.inj hd).symm
  | enqueue => exact enqueueMessageOnceWithMetadata_eq hd

variable {requestId : String} {next : Pc} {purpose : Purpose} {registry : Registry} {run : Replay}

theorem stageStep_drives {left : Nat} (hd : stageStep stores left requestId = .ok next) :
    Drives env ids stores (.stage left requestId) stores next := by
  unfold stageStep at hd
  split at hd
  · cases hd
  split at hd
  · cases hd
    exact .appliedAlready _ _
  obtain ⟨_, hl, hd⟩ := bind_eq_ok.mp hd
  refine .stages _ _ _ next hl ?_
  split at hd
  all_goals rename_i hh
  all_goals cases hd
  · rw [hh]
    exact .applying
  · rw [hh]
    exact .aborting
  · rw [hh]
    exact .json
  · rw [hh]
    exact .routing
  · rw [hh]
    exact .committed
  · rw [hh]
    exact .applied

theorem readGroupsStep_drives (hd : readGroupsStep stores purpose requestId = .ok next) :
    Drives env ids stores (.readGroups purpose requestId) stores next := by
  obtain ⟨_, hl, hd⟩ := bind_eq_ok.mp hd
  split at hd
  · split at hd
    · rename_i precommit
      obtain ⟨plan, hp, hd⟩ := bind_eq_ok.mp hd
      obtain ⟨groups, made, hd⟩ := bind_eq_ok.mp hd
      cases hd
      exact .readsOldGroups _ _ _ _ _ hl (planOf_ok hp) precommit made
    · cases hd
  · rename_i onward
    obtain ⟨plan, hp, hd⟩ := bind_eq_ok.mp hd
    obtain ⟨groups, made, hd⟩ := bind_eq_ok.mp hd
    cases hd
    exact .readsGroups _ _ _ _ _ hl (planOf_ok hp) onward made

theorem commit_drives {left : Nat}
    (hd : Pc.step env ids stores (.commit left requestId) = .ok (after, next)) :
    Drives env ids stores (.commit left requestId) after next := by
  obtain ⟨⟨_, _⟩, hw, result⟩ := bind_eq_ok.mp hd
  obtain ⟨_, hl, hw⟩ := bind_eq_ok.mp hw
  obtain ⟨_, hp, hw⟩ := bind_eq_ok.mp hw
  split at hw
  · cases hw
    cases result
    exact .turnsBack left _ _
  rename_i hfr
  obtain ⟨committed, both, hw⟩ := bind_eq_ok.mp hw
  obtain ⟨_, edges, routes⟩ := bind_eq_ok.mp both
  cases hw
  cases result
  exact .commits left _ _ _ _ committed hl (planOf_ok hp) hfr edges routes

theorem delivered_drives {plan : ApplyPlan} {rows : List ParentRoutingMessageRow}
    (hd : persistDeliveredReparentWakeIntents env stores.registry requestId rows = .ok registry) :
    Drives env ids stores (.delivered purpose requestId plan rows) (stores.withRegistry registry)
      (afterDelivered purpose requestId plan) := by
  unfold persistDeliveredReparentWakeIntents at hd
  dsimp only at hd
  split at hd
  · cases hd
    exact .nothingLate _ _ _ _
  · obtain ⟨_, hl, hd⟩ := bind_eq_ok.mp hd
    cases hd
    exact .defersLate _ _ _ _ _ hl

theorem conclude_drives (hd : concludeStep env stores purpose requestId = .ok (some registry)) :
    Drives env ids stores (.conclude purpose requestId) (stores.withRegistry registry) .idle := by
  cases purpose with
  | finish =>
    obtain ⟨record, hl, hd⟩ := bind_eq_ok.mp hd
    obtain ⟨stage, hd⟩ := guard_ok.mp hd
    split at hd
    · cases hd
    rename_i hry
    cases hd
    refine .concludes .finish _ _ hl ?_ (by simpa using hry)
    intro other checked
    cases checked
    exact not_not.mp stage
  | abort =>
    obtain ⟨record, hl, hd⟩ := bind_eq_ok.mp hd
    obtain ⟨stage, hd⟩ := guard_ok.mp hd
    split at hd
    · cases hd
    rename_i hry
    cases hd
    refine .concludes (.abort _) _ _ hl ?_ (by simpa using hry)
    intro other checked
    cases checked
    exact not_not.mp stage
  | rollback =>
    obtain ⟨record, hl, hd⟩ := bind_eq_ok.mp hd
    split at hd
    · cases hd
    rename_i hry
    cases hd
    refine .concludes (.rollback _) _ _ hl ?_ (by simpa using hry)
    intro other checked
    cases checked

theorem fail_drives {requestId reason : String}
    (hd : Pc.step env ids stores (.fail requestId reason) = .ok (after, next)) :
    Drives env ids stores (.fail requestId reason) after next := by
  obtain ⟨_, hw, result⟩ := bind_eq_ok.mp hd
  unfold markFailed at hw
  split at hw
  · cases hw
    cases result
    exact .failsApplied _ _
  obtain ⟨record, hl, hw⟩ := bind_eq_ok.mp hw
  cases hw
  have hs : (after, next) = (stores.withRegistry (storeRequest stores.registry requestId
      (failedWith env reason record)),
      if beforeQuiesce record then .pick ⟨.abort true, requestId, true, []⟩ else .idle) := by
    revert result
    unfold failedWith
    cases beforeQuiesce record <;> exact fun result => (Except.ok.inj result).symm
  cases hs
  exact .fails _ _ _ hl

theorem send_drives {intent : DeferredRoutingIntent} {parent : Option String} {sent : Nat}
    (hd : Pc.step env ids stores (.send run intent parent sent) = .ok (after, next)) :
    Drives env ids stores (.send run intent parent sent) after next := by
  simp only [Pc.step] at hd
  rw [replayQueueWrites_eq, List.getElem?_map] at hd
  cases chosen : (intent.job.writes env run.requestId parent)[sent]? with
  | none =>
    rw [chosen] at hd
    cases hd
    exact .sentAll run _ _ _ chosen
  | some =>
    rw [chosen] at hd
    obtain ⟨_, hw, result⟩ := bind_eq_ok.mp hd
    cases result
    obtain rfl := ReplayWrite.run_eq hw
    exact .sends run _ _ _ _ chosen hw

theorem pick_drives (hd : Pc.step env ids stores (.pick run) = .ok (after, next)) :
    Drives env ids stores (.pick run) after next := by
  obtain ⟨chosen, read, result⟩ := bind_eq_ok.mp hd
  obtain ⟨_, hl, _⟩ := bind_eq_ok.mp read
  have hh := (nextDeferredIntent_eq hl).symm.trans read
  cases chosen with
  | none =>
    cases result
    exact .picksNone run _ hl (Except.ok.inj hh)
  | some =>
    cases result
    exact .picks run _ _ hl (Except.ok.inj hh)

theorem step_drives {pc next : Pc} (hd : Pc.step env ids stores pc = .ok (after, next)) :
    Drives env ids stores pc after next := by
  cases pc with
  | idle =>
    cases hd
    exact .rests
  | acquire =>
    cases hd
    exact .acquires
  | inspect requestId =>
    simp only [Pc.step] at hd
    split at hd
    · cases hd
      exact .inspects _ _ (.inl rfl)
    · cases hd
      exact .inspects _ _ (.inr rfl)
  | stage =>
    obtain ⟨_, chosen, result⟩ := bind_eq_ok.mp hd
    cases result
    exact stageStep_drives chosen
  | quiesceJson left requestId =>
    obtain ⟨_, hw, result⟩ := bind_eq_ok.mp hd
    cases result
    obtain ⟨record, hl, hw⟩ := bind_eq_ok.mp hw
    obtain ⟨plan, hp, hw⟩ := bind_eq_ok.mp hw
    split at hw
    · cases hw
    · rename_i hfr
      obtain ⟨_, routes, hw⟩ := bind_eq_ok.mp hw
      cases hw
      exact .quiescesJson left _ _ _ _ hl (planOf_ok hp) hfr routes
  | readSnapshot left requestId =>
    obtain ⟨record, hl, rest⟩ := bind_eq_ok.mp hd
    obtain ⟨plan, hp, rest⟩ := bind_eq_ok.mp rest
    obtain ⟨snapshot, made, result⟩ := bind_eq_ok.mp rest
    cases result
    exact .readsSnapshot left _ _ _ _ hl (planOf_ok hp) made
  | quiesceQueue left requestId snapshot =>
    obtain ⟨queue, hw, result⟩ := bind_eq_ok.mp hd
    cases result
    exact .quiescesQueue left _ _ _ hw
  | queueQuiesced left requestId =>
    obtain ⟨_, hw, result⟩ := bind_eq_ok.mp hd
    cases result
    obtain ⟨record, hl, hw⟩ := bind_eq_ok.mp hw
    obtain ⟨stage, hw⟩ := guard_ok.mp hw
    cases hw
    exact .queueQuiesced left _ _ hl (not_not.mp stage)
  | commit => exact commit_drives hd
  | readGroups =>
    obtain ⟨_, chosen, result⟩ := bind_eq_ok.mp hd
    cases result
    exact readGroupsStep_drives chosen
  | retarget purpose requestId plan groups =>
    cases groups with
    | nil =>
      cases hd
      exact .retargetedAll _ _ _ _
    | cons group rest =>
      obtain ⟨⟨queue, _⟩, hw, result⟩ := bind_eq_ok.mp hd
      cases result
      exact .retargets _ _ _ group.1 group.2 _ _ _ _ hw
  | delivered =>
    obtain ⟨_, hw, result⟩ := bind_eq_ok.mp hd
    cases result
    exact delivered_drives hw
  | restore _ requestId plan =>
    obtain ⟨_, hw, result⟩ := bind_eq_ok.mp hd
    cases result
    obtain ⟨_, _, hw⟩ := bind_eq_ok.mp hw
    obtain ⟨_, routes, hw⟩ := bind_eq_ok.mp hw
    obtain ⟨_, _, hw⟩ := bind_eq_ok.mp hw
    cases hw
    exact .restores _ _ _ _ routes
  | pick => exact pick_drives hd
  | resolve run intent =>
    cases hd
    exact .resolves run _
  | send => exact send_drives hd
  | record run intent =>
    obtain ⟨_, hw, result⟩ := bind_eq_ok.mp hd
    cases result
    obtain ⟨record, hl, hw⟩ := bind_eq_ok.mp hw
    split at hw
    · cases hw
    · obtain ⟨_, kept, hw⟩ := bind_eq_ok.mp hw
      cases hw
      exact .records run _ _ _ _ hl kept
  | conclude purpose requestId =>
    obtain ⟨concluded, hw, result⟩ := bind_eq_ok.mp hd
    cases concluded with
    | none =>
      cases result
      exact .concludesLater _ _
    | some =>
      cases result
      exact conclude_drives hw
  | fail => exact fail_drives hd

theorem driverStep_drives (env : Env) (ids : RowIds) (stores : Stores) (pc : Pc) :
    Drives env ids stores pc (driverStep env ids stores pc).1 (driverStep env ids stores pc).2 := by
  unfold driverStep
  cases hsp : Pc.step env ids stores pc with
  | error => exact .errs pc _
  | ok => exact step_drives hsp

end

end SessionManager.Reparent
