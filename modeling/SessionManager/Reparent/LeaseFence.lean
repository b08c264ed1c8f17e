import SessionManager.Reparent.Reviews

/-! The lease and the fence. One theorem says what a step can do to the requests and the lease: nothing
but the driver and a repair touches the request that holds the lease, and lease and status are given
and taken back in one write. So the request that holds the lease is at any time the one that is
fenced. -/
namespace SessionManager.Reparent
open Foundation Queue List

variable {record : RequestRecord}

section

variable (env : Env) (registry : Registry) (queue : QueueDb)

def leasedRegistry (record : RequestRecord) : Registry :=
  { storeReparentRequestRecords registry (modifyFirst (fun other => other = record)
      (leasedWithPlan (buildReparentApplyPlan registry queue record))
      (refreshReparentRequests env registry registry.reparentRequests)) with
    reparentApplyLease := some ⟨record.id, env.nowText⟩ }

inductive Acquires : Registry × Option String → Prop
  | held (lease : ApplyLease) (held : registry.reparentApplyLease = some lease) :
      Acquires (registry, some lease.requestId)
  | nobody (after : Registry) (free : registry.reparentApplyLease = none)
      (reviews : Reviews registry after) : Acquires (after, none)
  | ready (record : RequestRecord) (free : registry.reparentApplyLease = none)
      (listed : record ∈ refreshReparentRequests env registry registry.reparentRequests)
      (pending : record.status = .pending)
      (fresh : reparentStaleReason registry record = none) :
      Acquires (leasedRegistry env registry queue record, some record.id)

theorem acquireReparentApplyLease_cases :
    Acquires env registry queue (acquireReparentApplyLease env registry queue) := by
  unfold acquireReparentApplyLease
  split
  · rename_i lease held
    exact .held lease held
  rename_i free
  dsimp only
  split
  · exact .nobody _ free ((persistRefreshed_revises env _).reviews fun _ => id)
  rename_i record hf
  obtain ⟨hli, hpe, _⟩ := readyRequest_ready hf
  split
  · refine .nobody _ free (Revises.reviews (.store _ fun reviewing => forall₂_trans
      reviewing.trans (reviewing.refresh env _ _)
      (forall₂_modifyFirst reviewing.refl ?_)) fun _ => id)
    intro other ht
    rw [show other = _ by simpa using find?_some ht]
    exact reviewing.retire env _ .stale _ record.supersededByRequestId hpe (by simp)
  · rename_i hfr
    exact .ready _ free hli hpe hfr

end

variable {change : RequestRecord → RequestRecord} {next : RequestRecord}

section

/-- What the driver and a repair write into the request that holds the lease, apart from its intents
and its history. -/
inductive Proceeds (record : RequestRecord) : RequestRecord → Prop
  | stage (stage : ApplyStage)
      (quarantined : RequestRecord.quarantinedStage (some stage) = true) :
      Proceeds record { record with applyStage := some stage }
  | fail (reason decidedAt : Option String) :
      Proceeds record
        { record with
          status := .failed
          applyStage := if beforeQuiesce record then some .prequiesceAborting
            else record.applyStage
          failureReason := reason, readyToApply := false, decidedAt }
  | resume (history : List RepairRecord) :
      Proceeds record
        { record with repairHistory := history, status := .applying, failureReason := none }

def SameFate (record after : RequestRecord) : Prop :=
  after.id = record.id ∧ after.fate = record.fate

/-- The outcomes that a request does not leave any more. -/
def RequestStatus.isTerminal : RequestStatus → Bool
  | .applied | .rejected | .expired | .stale | .superseded | .repaired => true
  | .pending | .applying | .failed => false

inductive LeaseMove (before after : Registry) : Prop
  | keeps (lease : after.reparentApplyLease = before.reparentApplyLease)
      (requests : List.Forall₂ SameFate before.reparentRequests after.reparentRequests)
  | reviews (reviews : Reviews before after)
  | leases (record : RequestRecord) (plan : ApplyPlan) (refreshed : List RequestRecord)
      (acquiredAt : String)
      (free : before.reparentApplyLease = none)
      (reviewed : List.Forall₂ Reviewed before.reparentRequests refreshed)
      (listed : record ∈ refreshed) (pending : record.status = .pending)
      (requests : after.reparentRequests = (modifyFirst (fun other => other = record)
        (leasedWithPlan plan) refreshed).map reconcileReparentNotificationIntents)
      (lease : after.reparentApplyLease = some ⟨record.id, acquiredAt⟩)
  | proceeds (requestId : String) (record next : RequestRecord)
      (leased : leasedReparentRequest before requestId = .ok record)
      (proceeds : Proceeds record next)
      (requests : after.reparentRequests = (modifyFirst (fun other => other.id = requestId)
        (fun _ => next) before.reparentRequests).map reconcileReparentNotificationIntents)
      (lease : after.reparentApplyLease = before.reparentApplyLease)
  | releases (requestId : String) (record settled : RequestRecord)
      (leased : leasedReparentRequest before requestId = .ok record)
      (id : settled.id = record.id) (terminal : settled.status.isTerminal = true)
      (requests : after.reparentRequests = (modifyFirst (fun other => other.id = requestId)
        (fun _ => settled) before.reparentRequests).map reconcileReparentNotificationIntents)
      (lease : after.reparentApplyLease = none)

theorem SameFate.refl (record : RequestRecord) : SameFate record record := ⟨rfl, rfl⟩

variable {before after : Registry}

theorem LeaseMove.untouched (requests : after.reparentRequests = before.reparentRequests)
    (lease : after.reparentApplyLease = before.reparentApplyLease) : LeaseMove before after := by
  refine .keeps lease ?_
  rw [requests]
  exact forall₂_same.mpr fun _ _ => .refl _

theorem SameFrame.leaseMove (hfm : SameFrame before after) : LeaseMove before after :=
  .untouched hfm.requests hfm.lease

theorem sameFate_modifyFirst {records : List RequestRecord} {choose : RequestRecord → Bool}
    (each : ∀ record, records.find? choose = some record → SameFate record (change record)) :
    List.Forall₂ SameFate records
      ((modifyFirst choose change records).map reconcileReparentNotificationIntents) := by
  refine forall₂_trans ?_ (forall₂_modifyFirst SameFate.refl each) (forall₂_map (fun _ => ⟨rfl, rfl⟩) _)
  intro _ _ _ one two
  exact ⟨two.1.trans one.1, two.2.trans one.2⟩

variable {env : Env} {ids : RowIds} {registry routed after : Registry} {requestId : String}
  {record : RequestRecord}

theorem storeRequest_keeps (hfm : SameFrame registry routed)
    (hl : leasedReparentRequest registry requestId = .ok record)
    (hs : SameFate record next) : LeaseMove registry (storeRequest routed requestId next) := by
  have requests := hfm.requests
  refine .keeps hfm.lease ?_
  unfold storeRequest
  rw [requests]
  refine sameFate_modifyFirst ?_
  intro _ chosen
  have hf := (leasedReparentRequest_ok hl).2
  rw [← Option.some.inj (hf.symm.trans chosen)]
  exact hs

theorem storeRequest_proceeds (requests : routed.reparentRequests = registry.reparentRequests)
    (lease : routed.reparentApplyLease = registry.reparentApplyLease)
    (hl : leasedReparentRequest registry requestId = .ok record)
    (proceeds : Proceeds record next) :
    LeaseMove registry (storeRequest routed requestId next) := by
  refine .proceeds _ _ next hl proceeds ?_ lease
  unfold storeRequest storeReparentRequestRecords
  rw [requests]

theorem Purpose.settled_terminal (env : Env) (purpose : Purpose) (record : RequestRecord) :
    (purpose.settled env record).id = record.id ∧
      (purpose.settled env record).status.isTerminal := by
  cases purpose with
  | finish | abort => exact ⟨rfl, rfl⟩
  | rollback reason => cases reason <;> exact ⟨rfl, rfl⟩

theorem commitEdges_requests {registry moved : Registry} {changes : List EdgeChange}
    (edges : changes.foldlM commitEdge registry = .ok moved) :
    moved.reparentRequests = registry.reparentRequests ∧
      moved.reparentApplyLease = registry.reparentApplyLease := by
  apply Fallible.foldlM_keeps (fun other => other.reparentRequests = registry.reparentRequests ∧
    other.reparentApplyLease = registry.reparentApplyLease) edges
  · intro _ _ _ _ hsp held
    unfold commitEdge at hsp
    repeat' split at hsp
    all_goals cases hsp
    exact held
  · exact ⟨rfl, rfl⟩

theorem Drives.leaseMove {stores next : Stores} {pc last : Pc}
    (drives : Drives env ids stores pc next last) : LeaseMove stores.registry next.registry := by
  cases drives with
  | acquires =>
    have outcome := acquireReparentApplyLease_cases env stores.registry stores.queue
    generalize acquireReparentApplyLease env stores.registry stores.queue = result at outcome ⊢
    cases outcome with
    | held => exact .untouched rfl rfl
    | nobody _ _ reviews => exact .reviews reviews
    | ready record free hli hpe =>
      exact .leases _ _ _ _ free (reviewing_reviewed.refresh _ _ _) hli hpe rfl rfl
  | quiescesJson _ _ _ _ _ hl _ _ routes =>
    have hfm := quiesceJsonReparentRoutes_frame routes
    exact storeRequest_proceeds hfm.requests hfm.lease hl (.stage .jsonRoutingQuiesced rfl)
  | queueQuiesced _ _ _ hl =>
    exact storeRequest_proceeds rfl rfl hl (.stage .routingQuiesced rfl)
  | commits _ _ _ _ _ _ hl _ _ edges routes =>
    have kept := commitEdges_requests edges
    have hfm := commitJsonRoutes_frame routes
    exact storeRequest_proceeds (hfm.requests.trans kept.1) (hfm.lease.trans kept.2) hl
      (.stage .authorityCommitted rfl)
  | defersLate _ _ _ _ _ hl =>
    exact storeRequest_keeps (.refl _) hl ⟨rfl, rfl⟩
  | restores _ _ _ _ routes =>
    exact (restoreJsonReparentRoutes_frame routes).leaseMove
  | records _ _ _ _ _ hl kept =>
    exact storeRequest_keeps (replayRegistry_frame kept) hl ⟨rfl, rfl⟩
  | concludes purpose _ record hl =>
    have hse := purpose.settled_terminal env record
    exact .releases _ _ _ hl hse.1 hse.2 rfl rfl
  | fails _ _ _ hl =>
    exact storeRequest_proceeds rfl rfl hl (.fail _ _)
  | _ => exact .untouched rfl rfl

theorem beginRepair_proceeds {idText actor : String} {action : RepairAction}
    (hd : beginRepair env registry idText actor action = .ok after) :
    LeaseMove registry after := by
  obtain ⟨_, hl, _, _, hw⟩ := beginRepair_ok hd
  rw [hw]
  cases action with
  | resume => exact storeRequest_proceeds rfl rfl hl (.resume _)
  | rollbackPrecommit => exact storeRequest_keeps (.refl _) hl ⟨rfl, rfl⟩

theorem Traffic.leaseMove {before after : Stores} (traffic : Traffic env ids before after) :
    LeaseMove before.registry after.registry := by
  cases traffic with
  | defer | deferWake => exact .keeps rfl (sameFate_modifyFirst fun _ _ => ⟨rfl, rfl⟩)
  | _ => exact .untouched rfl rfl

theorem Step.leaseMove {before after : System} (step : Step env ids before after) :
    LeaseMove before.stores.registry after.stores.registry := by
  cases step with
  | drive => exact (driverStep_drives _ _ _ _).leaseMove
  | storeFails | crash | start | createSession => exact .untouched rfl rfl
  | createSingle _ _ _ _ _ _ _ hfr =>
    dsimp only [Stores.withRegistry]
    exact .reviews ((createReparentRequest_revises _ _ _ _ _ _ _).reviews fun _ => Made.fresh hfr)
  | createTree _ _ _ _ _ _ _ _ hfr =>
    dsimp only [Stores.withRegistry]
    exact .reviews ((createReparentTreeRequest_revises _ _ _ _ _ _ _ _ _).reviews fun _ =>
      Made.fresh hfr)
  | decide =>
    dsimp only [Stores.withRegistry]
    exact .reviews ((decideReparentRequest_revises _ _ _ _ _ _).reviews fun _ => id)
  | decideAsHuman =>
    dsimp only [Stores.withRegistry]
    exact .reviews ((decideReparentRequestAsHuman_revises _ _ _ _ _).reviews fun _ => id)
  | repair _ _ _ _ _ _ begun => exact beginRepair_proceeds begun
  | verify _ _ _ _ verified =>
    exact .reviews ((verifyReparentRepair_revises _ verified).reviews fun _ => id)
  | traffic _ _ routed => exact routed.leaseMove

end

section

variable {records : List RequestRecord} {requestId : String} {record next : RequestRecord}

structure Replaced (records after : List RequestRecord) (requestId : String)
    (next : RequestRecord) : Prop where
  ids : after.map RequestRecord.id = records.map RequestRecord.id
  found : after.find? (fun other => other.id = requestId) =
    some (reconcileReparentNotificationIntents next)
  others : ∀ other ∈ after, other = reconcileReparentNotificationIntents next ∨
    ∃ old ∈ records, old.id ≠ requestId ∧ other = reconcileReparentNotificationIntents old
  elsewhere : ∀ id, id ≠ requestId → after.find? (fun other => other.id = id) =
    (records.find? fun other => other.id = id).map reconcileReparentNotificationIntents

theorem find?_modifyFirst_other {α : Type} {choose wanted : α → Bool} {change : α → α}
    {values : List α}
    (hap : ∀ a, values.find? choose = some a → wanted a = false ∧ wanted (change a) = false) :
    (modifyFirst choose change values).find? wanted = values.find? wanted := by
  induction values with
  | nil => rfl
  | cons a rest ih =>
    rw [modifyFirst]
    by_cases chosen : choose a
    · obtain ⟨old, new⟩ := hap a (find?_cons_of_pos chosen)
      rw [if_pos chosen, find?_cons_of_neg (by simp [new]), find?_cons_of_neg (by simp [old])]
    · have later : ∀ b, rest.find? choose = some b →
          wanted b = false ∧ wanted (change b) = false := by
        intro b hf
        exact hap b (by rw [find?_cons_of_neg chosen]; exact hf)
      rw [if_neg chosen, find?_cons, find?_cons, ih later]

theorem replaced_modifyFirst (hn : (records.map RequestRecord.id).Nodup)
    (change : RequestRecord → RequestRecord)
    (ht : records.find? (fun other => other.id = requestId) = some record)
    (hs : (change record).id = record.id) :
    Replaced records ((modifyFirst (fun other => other.id = requestId) change records).map
        reconcileReparentNotificationIntents) requestId (change record) := by
  have own : record.id = requestId := by simpa using find?_some ht
  have hf := find?_modifyFirst_self ht (by simpa using hs.trans own)
  have pairs : List.Forall₂ (fun a b : RequestRecord => b.id = a.id) records
      (modifyFirst (fun other => other.id = requestId) change records) := by
    refine forall₂_modifyFirst ?_ ?_
    · intro other
      rfl
    · intro other chosen
      rw [← Option.some.inj (ht.symm.trans chosen)]
      exact hs
  have blind : ∀ (id : String) (other : RequestRecord),
      decide ((reconcileReparentNotificationIntents other).id = id) = decide (other.id = id) :=
    fun _ _ => rfl
  refine ⟨?_, (find?_map_of_blind (blind _) _).trans (congrArg _ hf), ?_, ?_⟩
  · rw [map_map]
    exact forall₂_map_eq RequestRecord.id (fun _ _ pair => pair) pairs
  · intro other hm
    obtain ⟨_, hi, reconciled⟩ := mem_map.mp hm
    rw [modifyFirst_eq_map _ hn] at hi
    obtain ⟨old, hli, changed⟩ := mem_map.mp hi
    by_cases hh : old.id = requestId
    · rw [if_pos hh] at changed
      have heq : old = record :=
        inj_on_of_nodup_map hn hli (mem_of_find?_eq_some ht) (hh.trans own.symm)
      rw [← reconciled, ← changed, heq]
      exact .inl rfl
    · rw [if_neg hh] at changed
      rw [← reconciled, ← changed]
      exact .inr ⟨old, hli, hh, rfl⟩
  · intro id other
    refine (find?_map_of_blind (blind id) _).trans (congrArg _ (find?_modifyFirst_other ?_))
    intro old chosen
    rw [← Option.some.inj (ht.symm.trans chosen), hs, own]
    simp [Ne.symm other]

theorem modifyFirst_congr {α : Type} {choose : α → Bool} (other : α → Bool) {change : α → α}
    {values : List α} (hs : ∀ a ∈ values, choose a = other a) :
    modifyFirst choose change values = modifyFirst other change values := by
  induction values with
  | nil => rfl
  | cons a _ ih =>
    rw [modifyFirst, modifyFirst, hs a mem_cons_self, ih fun b hm => hs b (mem_cons_of_mem _ hm)]

theorem replaced_listed (hn : (records.map RequestRecord.id).Nodup)
    (hli : record ∈ records) (hs : (change record).id = record.id) :
    Replaced records ((modifyFirst (fun other => other = record) change records).map
        reconcileReparentNotificationIntents) record.id (change record) := by
  rw [modifyFirst_congr fun other => decide (other.id = record.id)]
  · exact replaced_modifyFirst hn change (find?_key hn hli) hs
  · intro other hm
    refine Bool.eq_iff_iff.mpr ?_
    simp only [decide_eq_true_eq]
    exact ⟨fun heq => by rw [heq], fun heq =>
      inj_on_of_nodup_map hn hm hli heq⟩

end

section

/-- The fenced request holds the lease, and the request that holds the lease is fenced. -/
structure Agrees (registry : Registry) : Prop where
  distinct : (registry.reparentRequests.map RequestRecord.id).Nodup
  fenced : ∀ record ∈ registry.reparentRequests, record.isApplyFenced = true →
    registry.reparentApplyLease.map ApplyLease.requestId = some record.id
  held : ∀ requestId, registry.reparentApplyLease.map ApplyLease.requestId = some requestId →
    ∃ record, findRequest registry requestId = some record ∧ record.isApplyFenced = true ∧
      (beforeQuiesce record = true ∨ RequestRecord.quarantinedStage record.applyStage = true)

variable {before after : Registry}

theorem Agrees.of_unfenced (hn : (before.reparentRequests.map RequestRecord.id).Nodup)
    (free : before.reparentApplyLease = none)
    (unfenced : ∀ record ∈ before.reparentRequests, record.isApplyFenced = false) :
    Agrees before where
  distinct := hn
  fenced record hm fenced := by
    rw [unfenced _ hm] at fenced
    cases fenced
  held _ held := by
    rw [free] at held
    cases held

theorem Agrees.of_fates (hag : Agrees before)
    (lease : after.reparentApplyLease = before.reparentApplyLease)
    {related : RequestRecord → RequestRecord → Prop} {kept : List RequestRecord}
    (hs : ∀ a b, related a b → b.id = a.id ∧ b.isApplyFenced = a.isApplyFenced ∧
      b.applyStage = a.applyStage)
    (pairs : List.Forall₂ related before.reparentRequests kept)
    {submitted : List RequestRecord}
    (requests : after.reparentRequests = kept ++ submitted)
    (free : ∀ record ∈ submitted, record.isApplyFenced = false)
    (hap : (after.reparentRequests.map RequestRecord.id).Nodup) : Agrees after where
  distinct := hap
  fenced record hm fence := by
    rw [requests] at hm
    rcases mem_append.mp hm with old | new
    · obtain ⟨_, hi, pair⟩ := forall₂_mem pairs old
      rw [lease, (hs _ _ pair).1]
      exact hag.fenced _ hi ((hs _ _ pair).2.1.symm.trans fence)
    · rw [free _ new] at fence
      cases fence
  held _ holder := by
    obtain ⟨record, hf, fence, stage⟩ := hag.held _ (by rw [← lease]; exact holder)
    obtain ⟨next, ht, pair⟩ := find?_forall₂ RequestRecord.id
      (fun _ _ pair => (hs _ _ pair).1) pairs hf
    refine ⟨next, ?_, (hs _ _ pair).2.1.trans fence, ?_⟩
    · rw [findRequest, requests, find?_append, ht, Option.some_or]
    · simpa only [beforeQuiesce, (hs _ _ pair).2.2] using stage

variable {record next : RequestRecord} {requestId : String}

theorem SameFate.same (fate : SameFate record next) :
    next.id = record.id ∧ next.isApplyFenced = record.isApplyFenced ∧
      next.applyStage = record.applyStage :=
  ⟨fate.1, isApplyFenced_congr (congrArg Fate.status fate.2) (congrArg Fate.applyStage fate.2),
    congrArg Fate.applyStage fate.2⟩

theorem Reviews.distinct (reviews : Reviews before after)
    (hn : (before.reparentRequests.map RequestRecord.id).Nodup) :
    (after.reparentRequests.map RequestRecord.id).Nodup := by
  obtain ⟨kept, submitted, split, pairs, hfr⟩ := reviews.requests
  have ids := forall₂_map_eq RequestRecord.id (fun _ _ pair => pair.id) pairs
  rw [split, map_append, nodup_append, ids]
  refine ⟨hn, by cases submitted <;> simp, ?_⟩
  intro _ hm _ new hs
  obtain ⟨_, hi, hna⟩ := mem_map.mp hm
  obtain ⟨_, added, label⟩ := mem_map.mp new
  have hab := (hfr _ (Option.mem_toList.mp added)).1
  rw [findRequest, find?_eq_none] at hab
  exact hab _ hi (by simp [hna, hs, label])

theorem Agrees.reviews (hag : Agrees before) (reviews : Reviews before after) : Agrees after := by
  have hn := reviews.distinct hag.distinct
  obtain ⟨_, _, split, pairs, hfr⟩ := reviews.requests
  refine hag.of_fates reviews.lease (fun _ _ reviewed => ⟨reviewed.id, reviewed.fenced, reviewed.stage⟩) pairs
    split ?_ hn
  intro _ new
  have hpe := (hfr _ (Option.mem_toList.mp new)).2.1
  simp [RequestRecord.isApplyFenced, hpe]

theorem Agrees.replaced (hag : Agrees before)
    (replaced : Replaced before.reparentRequests after.reparentRequests requestId next)
    (own : next.id = requestId)
    (holder : before.reparentApplyLease.map ApplyLease.requestId = some requestId)
    (lease : next.isApplyFenced ∧ after.reparentApplyLease = before.reparentApplyLease ∧
        (beforeQuiesce next ∨ RequestRecord.quarantinedStage next.applyStage) ∨
      next.isApplyFenced = false ∧ after.reparentApplyLease = none) : Agrees after where
  distinct := by
    rw [replaced.ids]
    exact hag.distinct
  fenced record hm fence := by
    rcases replaced.others record hm with hh | ⟨old, hli, other, hs⟩
    · rw [hh] at fence ⊢
      rcases lease with ⟨_, kept, _⟩ | ⟨free, _⟩
      · rw [kept, holder]
        exact congrArg some own.symm
      · exact absurd (free.symm.trans fence) Bool.false_ne_true
    · rw [hs] at fence
      have hna := hag.fenced old hli fence
      exact absurd (Option.some.inj (hna.symm.trans holder)) other
  held id hna := by
    rcases lease with ⟨fence, kept, stage⟩ | ⟨_, free⟩
    · rw [kept, holder] at hna
      rw [← Option.some.inj hna]
      exact ⟨_, replaced.found, fence, stage⟩
    · rw [free] at hna
      cases hna

theorem Proceeds.fenced (proceeds : Proceeds record next) (fenced : record.isApplyFenced)
    (stage : beforeQuiesce record ∨ RequestRecord.quarantinedStage record.applyStage) :
    next.id = record.id ∧ next.isApplyFenced ∧
      (beforeQuiesce next ∨ RequestRecord.quarantinedStage next.applyStage) := by
  cases proceeds with
  | stage _ quarantined =>
    refine ⟨rfl, ?_, .inr quarantined⟩
    rcases isApplyFenced_status fenced with applying | failed
    · simp [RequestRecord.isApplyFenced, applying]
    · simp [RequestRecord.isApplyFenced, failed, quarantined]
  | fail =>
    by_cases early : beforeQuiesce record
    · simp [RequestRecord.isApplyFenced, early, RequestRecord.quarantinedStage]
    · have late := stage.resolve_left early
      simp [RequestRecord.isApplyFenced, early, late]
  | resume => exact ⟨rfl, by simp [RequestRecord.isApplyFenced], stage⟩

theorem isApplyFenced_of_terminal
    (terminal : record.status.isTerminal) : record.isApplyFenced = false := by
  by_contra fenced
  rcases isApplyFenced_status (by simpa using fenced) with hh | hh <;>
    rw [hh] at terminal <;> cases terminal

/-- The request that holds the lease has no terminal outcome. -/
theorem Agrees.other_than_holder (hag : Agrees before)
    (hf : findRequest before requestId = some record)
    (terminal : record.status.isTerminal) {holder : String} {other : RequestRecord}
    (held : leasedReparentRequest before holder = .ok other) : requestId ≠ holder := by
  intro hs
  obtain ⟨hna, _⟩ := leasedReparentRequest_ok held
  obtain ⟨_, hk, fenced, _⟩ := hag.held _ hna
  rw [← hs, hf] at hk
  cases hk
  rw [isApplyFenced_of_terminal terminal] at fenced
  cases fenced

theorem Agrees.rewritten (hag : Agrees before)
    (hl : leasedReparentRequest before requestId = .ok record) (own : next.id = record.id)
    (requests : after.reparentRequests = (modifyFirst (fun other => other.id = requestId)
      (fun _ => next) before.reparentRequests).map reconcileReparentNotificationIntents) :
    Replaced before.reparentRequests after.reparentRequests requestId next := by
  rw [requests]
  exact replaced_modifyFirst hag.distinct (fun _ => next) (leasedReparentRequest_ok hl).2 own

theorem Agrees.move (hag : Agrees before) (move : LeaseMove before after) : Agrees after := by
  cases move with
  | keeps lease requests =>
    refine hag.of_fates lease (fun _ _ => SameFate.same) requests (append_nil _).symm (by simp) ?_
    rw [forall₂_map_eq RequestRecord.id (fun _ _ pair => pair.1) requests]
    exact hag.distinct
  | reviews reviews => exact hag.reviews reviews
  | leases record plan refreshed _ free reviewed hli _ requests lease =>
    have ids := forall₂_map_eq RequestRecord.id (fun _ _ pair => pair.id) reviewed
    have replaced : Replaced refreshed after.reparentRequests record.id
        (leasedWithPlan plan record) := by
      rw [requests]
      exact replaced_listed (ids ▸ hag.distinct) hli rfl
    refine ⟨?_, ?_, ?_⟩
    · rw [replaced.ids, ids]
      exact hag.distinct
    · intro other hm fence
      rw [lease]
      rcases replaced.others other hm with hh | ⟨_, hi, _, hs⟩
      · rw [hh]
        rfl
      · rw [hs] at fence
        obtain ⟨_, hk, pair⟩ := forall₂_mem reviewed hi
        have hna := hag.fenced _ hk (pair.fenced.symm.trans fence)
        rw [free] at hna
        cases hna
    · intro _ hna
      rw [lease] at hna
      rw [← Option.some.inj hna]
      exact ⟨_, replaced.found, rfl, .inl rfl⟩
  | proceeds requestId _ _ hl proceeds requests lease =>
    obtain ⟨holder, hf⟩ := leasedReparentRequest_ok hl
    obtain ⟨hs, ht, fence, stage⟩ := hag.held _ holder
    cases ht.symm.trans hf
    obtain ⟨own, fenced, stage⟩ := proceeds.fenced fence stage
    exact hag.replaced (hag.rewritten hl own requests) (own.trans (findRequest_id hf)) holder
      (.inl ⟨fenced, lease, stage⟩)
  | releases requestId _ _ hl own terminal requests lease =>
    obtain ⟨holder, hf⟩ := leasedReparentRequest_ok hl
    exact hag.replaced (hag.rewritten hl own requests) (own.trans (findRequest_id hf)) holder
      (.inr ⟨isApplyFenced_of_terminal terminal, lease⟩)

theorem Agrees.run {env : Env} {ids : RowIds} {start finish : System}
    (hag : Agrees start.stores.registry) (run : Run env ids start finish) :
    Agrees finish.stores.registry := by
  induction run with
  | refl => exact hag
  | tail _ step ih => exact ih.move step.leaseMove

theorem Agrees.unique {registry : Registry} (hag : Agrees registry) {first second : RequestRecord}
    (one : first ∈ registry.reparentRequests) (two : second ∈ registry.reparentRequests)
    (fenced : first.isApplyFenced) (also : second.isApplyFenced) :
    first = second := by
  have hna := (hag.fenced _ one fenced).symm.trans (hag.fenced _ two also)
  exact inj_on_of_nodup_map hag.distinct one two (Option.some.inj hna)

/-- Whatever the interleaving, the lease names a request exactly when that request is the only one
that is fenced, and no fenced request is without the lease. -/
theorem lease_names_the_fenced_request {env : Env} {ids : RowIds} {start finish : System}
    (run : Run env ids start finish)
    (distinct : (start.stores.registry.reparentRequests.map RequestRecord.id).Nodup)
    (free : start.stores.registry.reparentApplyLease = none)
    (unfenced : ∀ record ∈ start.stores.registry.reparentRequests, record.isApplyFenced = false) :
    (∀ requestId,
      finish.stores.registry.reparentApplyLease.map ApplyLease.requestId = some requestId ↔
        ∃ record ∈ finish.stores.registry.reparentRequests, record.id = requestId ∧
          record.isApplyFenced = true ∧ ∀ other ∈ finish.stores.registry.reparentRequests,
            other.isApplyFenced = true → other = record) ∧
    ∀ record ∈ finish.stores.registry.reparentRequests, record.isApplyFenced = true →
      finish.stores.registry.reparentApplyLease.map ApplyLease.requestId = some record.id := by
  have agrees := (Agrees.of_unfenced distinct free unfenced).run run
  refine ⟨fun requestId => ⟨?_, ?_⟩, agrees.fenced⟩
  · intro held
    obtain ⟨record, found, fenced, _⟩ := agrees.held requestId held
    have member := mem_of_find?_eq_some found
    exact ⟨record, member, findRequest_id found, fenced,
      fun other inside also => agrees.unique inside member also fenced⟩
  · rintro ⟨record, member, rfl, fenced, _⟩
    exact agrees.fenced record member fenced

theorem moved_lease_names_the_fenced_request :
    moved.stores.registry.reparentApplyLease.map ApplyLease.requestId = some "move" ∧
    (∀ requestId,
      moved.stores.registry.reparentApplyLease.map ApplyLease.requestId = some requestId ↔
        ∃ record ∈ moved.stores.registry.reparentRequests, record.id = requestId ∧
          record.isApplyFenced = true ∧ ∀ other ∈ moved.stores.registry.reparentRequests,
            other.isApplyFenced = true → other = record) ∧
    ∀ record ∈ moved.stores.registry.reparentRequests, record.isApplyFenced = true →
      moved.stores.registry.reparentApplyLease.map ApplyLease.requestId = some record.id :=
  ⟨by decide +kernel, lease_names_the_fenced_request family_run_moved (by decide) rfl
    (by simp [family, familyRegistry])⟩

end

end SessionManager.Reparent
