import SessionManager.Reparent.Completion
import SessionManager.Reparent.Outcome

/-! What a committed request still has to replay. While the driver gives the planned rows to their new
parents and writes the late deliveries down, neither what is pending nor where the routes are heading
changes; when it starts to replay, every route has reached its target. -/
namespace SessionManager.Reparent
open Foundation Queue List

variable {after : RequestRecord}

section

variable {plan : ApplyPlan} {db : QueueDb} {record : RequestRecord}
  {rows : List ParentRoutingMessageRow} {entries : List (Job × Bool)}

/-- The planned messages that have been delivered, in the order in which the groups report them. -/
def deliveredRows (plan : ApplyPlan) (db : QueueDb) : List ParentRoutingMessageRow :=
  (routeTargets false plan).flatMap (deliveredTo false plan db)

def pushLate (entries : List (Job × Bool)) (message : ParentRoutingMessageRow) :
    List (Job × Bool) :=
  if entries.any fun entry => entry.1.key = deliveredWakeKey message.id then entries
  else entries ++ [(lateJob message, true)]

def lateEntries (rows : List ParentRoutingMessageRow) (entries : List (Job × Bool)) :
    List (Job × Bool) :=
  (rows.filter ParentRoutingMessageRow.createsParentWake).foldl pushLate entries

/-- The job of an intent, and whether it is still to be replayed. -/
def DeferredRoutingIntent.entry (intent : DeferredRoutingIntent) : Job × Bool :=
  (intent.job, intent.replayedAt.isNone)

/-- What is still to be replayed, once the wakes of late deliveries are among the intents. -/
def pendingJobs (plan : ApplyPlan) (db : QueueDb) (record : RequestRecord) : List Job :=
  ((lateEntries (deliveredRows plan db)
    (record.deferredRoutingIntents.map DeferredRoutingIntent.entry)).filter Prod.snd).map Prod.fst

def LatePresent (plan : ApplyPlan) (db : QueueDb) (record : RequestRecord) : Prop :=
  ∀ row ∈ deliveredRows plan db, row.createsParentWake = true →
    ∃ intent ∈ record.deferredRoutingIntents, intent.key = deliveredWakeKey row.id

theorem map_entry_pushDeliveredWake (env : Env) (intents : List DeferredRoutingIntent)
    (message : ParentRoutingMessageRow) :
    (pushDeliveredWake env intents message).map DeferredRoutingIntent.entry =
      pushLate (intents.map DeferredRoutingIntent.entry) message := by
  unfold pushLate
  rw [any_map]
  change (if (intents.any fun intent => intent.key = deliveredWakeKey message.id) = true then
    intents else _).map _ = if (intents.any fun intent =>
      intent.key = deliveredWakeKey message.id) then _ else _
  split
  · rfl
  · rw [map_append]
    rfl

theorem map_entry_withLate (env : Env) (rows : List ParentRoutingMessageRow)
    (intents : List DeferredRoutingIntent) :
    (withLate env rows intents).map DeferredRoutingIntent.entry =
      lateEntries rows (intents.map DeferredRoutingIntent.entry) := by
  unfold withLate lateEntries
  induction rows.filter ParentRoutingMessageRow.createsParentWake generalizing intents with
  | nil => rfl
  | cons _ _ ih => rw [foldl_cons, foldl_cons, ih, map_entry_pushDeliveredWake]

theorem lateEntries_present (present : ∀ row ∈ rows, row.createsParentWake →
      ∃ entry ∈ entries, entry.1.key = deliveredWakeKey row.id) :
    lateEntries rows entries = entries := by
  unfold lateEntries
  have all : ∀ row ∈ rows.filter ParentRoutingMessageRow.createsParentWake,
      ∃ entry ∈ entries, entry.1.key = deliveredWakeKey row.id :=
    fun row hm => present row (mem_filter.mp hm).1 (mem_filter.mp hm).2
  generalize rows.filter ParentRoutingMessageRow.createsParentWake = late at all ⊢
  induction late with
  | nil => rfl
  | cons row _ ih =>
    obtain ⟨entry, hi, key⟩ := all row mem_cons_self
    have hk : pushLate entries row = entries :=
      if_pos (any_eq_true.mpr ⟨_, hi, by simpa using key⟩)
    rw [foldl_cons, hk]
    exact ih fun _ hm => all _ (mem_cons_of_mem _ hm)

theorem mem_foldl_pushLate {late : List ParentRoutingMessageRow}
    {entry : Job × Bool} (hm : entry ∈ entries) : entry ∈ late.foldl pushLate entries := by
  induction late generalizing entries with
  | nil => exact hm
  | cons _ _ ih =>
    refine ih ?_
    unfold pushLate
    split
    · exact hm
    · exact mem_append_left _ hm

theorem lateEntries_has (entries : List (Job × Bool))
    {row : ParentRoutingMessageRow} (hm : row ∈ rows) (creates : row.createsParentWake) :
    ∃ entry ∈ lateEntries rows entries, entry.1.key = deliveredWakeKey row.id := by
  have hi := mem_filter.mpr ⟨hm, creates⟩
  unfold lateEntries
  generalize rows.filter ParentRoutingMessageRow.createsParentWake = late at hi ⊢
  induction late generalizing entries with
  | nil => cases hi
  | cons first _ ih =>
    rw [foldl_cons]
    rcases mem_cons.mp hi with hh | later
    · rw [hh]
      have pushed : ∃ entry ∈ pushLate entries first, entry.1.key = deliveredWakeKey first.id := by
        unfold pushLate
        split
        · rename_i hk
          obtain ⟨entry, ht, key⟩ := any_eq_true.mp hk
          exact ⟨_, ht, by simpa using key⟩
        · exact ⟨_, mem_append_right _ mem_cons_self, rfl⟩
      obtain ⟨entry, ht, key⟩ := pushed
      exact ⟨_, mem_foldl_pushLate ht, key⟩
    · exact ih _ later

variable {env : Env}

theorem LatePresent.of_withLate (intents : after.deferredRoutingIntents =
      withLate env (deliveredRows plan db) record.deferredRoutingIntents) :
    LatePresent plan db after := by
  intro _ hm creates
  obtain ⟨_, hi, key⟩ := lateEntries_has
    (record.deferredRoutingIntents.map DeferredRoutingIntent.entry) hm creates
  rw [← map_entry_withLate env, ← intents] at hi
  obtain ⟨_, ht, hs⟩ := mem_map.mp hi
  exact ⟨_, ht, by rw [← key, ← hs]; rfl⟩

theorem lateEntries_of_present (present : LatePresent plan db record) :
    lateEntries (deliveredRows plan db)
      (record.deferredRoutingIntents.map DeferredRoutingIntent.entry) =
      record.deferredRoutingIntents.map DeferredRoutingIntent.entry := by
  refine lateEntries_present ?_
  intro row hm creates
  obtain ⟨_, ht, key⟩ := present row hm creates
  exact ⟨_, mem_map_of_mem ht, key⟩

theorem pendingJobs_withLate (intents : after.deferredRoutingIntents =
      withLate env (deliveredRows plan db) record.deferredRoutingIntents) :
    pendingJobs plan db after = pendingJobs plan db record := by
  unfold pendingJobs
  rw [lateEntries_of_present (.of_withLate intents), intents, map_entry_withLate]

def unreplayed (record : RequestRecord) : List DeferredRoutingIntent :=
  record.deferredRoutingIntents.filter fun intent => intent.replayedAt.isNone

theorem todo_once {run : Replay} (once : run.reapplyCompleted = false) (record : RequestRecord) :
    run.todo record = unreplayed record := by
  refine filter_congr fun _ _ => ?_
  simp [Replay.wants, once]

theorem pendingJobs_of_present (present : LatePresent plan db record) :
    pendingJobs plan db record = (unreplayed record).map DeferredRoutingIntent.job := by
  unfold pendingJobs
  rw [lateEntries_of_present present, filter_map, map_map]
  rfl

theorem LatePresent.withReplayed (present : LatePresent plan db record)
    (intent : DeferredRoutingIntent) (parent : Option String) :
    LatePresent plan db (record.withReplayed env intent parent) := by
  intro row hm creates
  obtain ⟨_, hi, key⟩ := present row hm creates
  have keys : (record.withReplayed env intent parent).deferredRoutingIntents.map
      DeferredRoutingIntent.key = record.deferredRoutingIntents.map DeferredRoutingIntent.key :=
    map_modifyFirst (fun _ => markReplayed_key _ _) _
  have hli : deliveredWakeKey row.id ∈
      (record.withReplayed env intent parent).deferredRoutingIntents.map
        DeferredRoutingIntent.key := by
    rw [keys, ← key]
    exact mem_map_of_mem hi
  obtain ⟨_, ht, hs⟩ := mem_map.mp hli
  exact ⟨_, ht, hs⟩

end

section

variable {env : Env} {requestId : String} {stores : Stores} {record : RequestRecord}

theorem unreplayed_none (hry : unreplayed record = []) : hasPendingIntent record = false := by
  have hex : (Purpose.finish.replay "").todo record = [] := (todo_once rfl record).trans hry
  exact hasPendingIntent_of_todo hex

/-- Without reapplying, a replay picks the intents that were never replayed. -/
theorem Replayable.picking (hrp : Replayable env (Purpose.finish.replay requestId) stores record)
    (reapplied : List String) :
    Replayable env ⟨.finish, requestId, false, reapplied⟩ stores record :=
  { leased := hrp.leased
    stage := hrp.stage
    keyed := hrp.keyed
    apart := by
      have apart := hrp.apart
      rw [todo_once rfl] at apart ⊢
      exact apart
    jobs := by
      intro _ hm
      rw [todo_once rfl] at hm
      exact hrp.jobs _ (by rw [todo_once rfl]; exact hm) }

variable {intent : DeferredRoutingIntent} {rest : List DeferredRoutingIntent}

theorem unreplayed_withReplayed (env : Env) (keyed : record.Keyed)
    (next : unreplayed record = intent :: rest)
    (parent : Option String) : unreplayed (record.withReplayed env intent parent) = rest := by
  have picked : (Purpose.finish.replay "").todo record = intent :: rest :=
    (todo_once rfl _).trans next
  have others := todo_withReplayed env keyed picked parent
  rw [todo_once rfl] at others
  exact others

theorem mem_todo_of_next (requestId : String) (next : unreplayed record = intent :: rest) :
    intent ∈ (Purpose.finish.replay requestId).todo record := by
  rw [todo_once rfl, next]
  exact mem_cons_self

theorem head_once (reapplied : List String) (next : unreplayed record = intent :: rest) :
    (Replay.todo ⟨.finish, requestId, false, reapplied⟩ record).head? = some intent := by
  rw [todo_once rfl, next]
  rfl

end

section

variable {env : Env} {requestId : String} {plan : ApplyPlan} {start stores : Stores}
  {first record : RequestRecord} {db next : QueueDb} {registry : Registry} {queue : QueueDb}
  {ids : RowIds} {now : Int}

theorem settledRouting_retargeted (retargeted : Retargeted false plan stores.queue queue) :
    settledRouting plan (stores.withQueue queue) = settledRouting plan stores := by
  have child : settledChild false plan (stores.withQueue queue).queue =
    settledChild false plan stores.queue := retargeted.child
  have message : settledMessage false plan (stores.withQueue queue).queue =
    settledMessage false plan stores.queue := retargeted.message
  unfold settledRouting
  rw [child, message]
  rfl

theorem deliveredTo_congr {restore : Bool} (target : Option String)
    (hs : ∀ change ∈ plan.queueRoutingChanges, ∀ message, messageOf change = some message →
      isDelivered next message = isDelivered db message) :
    deliveredTo restore plan next target = deliveredTo restore plan db target := by
  refine filter_congr fun _ hm => ?_
  obtain ⟨change, hi, hp⟩ := mem_filterMap.mp hm
  exact hs change (mem_of_mem_filter hi) _ hp

theorem deliveredRows_congr
    (hs : ∀ change ∈ plan.queueRoutingChanges, ∀ message, messageOf change = some message →
      isDelivered next message = isDelivered db message) :
    deliveredRows plan next = deliveredRows plan db := by
  unfold deliveredRows
  congr 1
  funext _
  exact deliveredTo_congr _ hs

theorem pendingJobs_congr (hs : deliveredRows plan next = deliveredRows plan db) :
    pendingJobs plan next record = pendingJobs plan db record := by
  unfold pendingJobs
  rw [hs]

theorem SameRoutes.settledRouting (routes : SameRoutes stores.registry registry) :
    settledRouting plan (stores.withRegistry registry) = settledRouting plan stores := by
  unfold Reparent.settledRouting
  rw [show (stores.withRegistry _).registry = registry from rfl, routes.wakes,
    routes.messages]
  rfl

/-- What is pending and where the routes are heading have not changed since the start. -/
structure Unmoved (plan : ApplyPlan) (start : Stores) (first : RequestRecord) (stores : Stores)
    (record : RequestRecord) : Prop where
  jobs : pendingJobs plan stores.queue record = pendingJobs plan start.queue first
  routing : settledRouting plan stores = settledRouting plan start
  edges : hierarchy stores.registry = hierarchy start.registry
  status : record.status = first.status

theorem Unmoved.refl : Unmoved plan start first start first := ⟨rfl, rfl, rfl, rfl⟩

theorem Unmoved.withQueue (unmoved : Unmoved plan start first stores record)
    (retargeted : Retargeted false plan stores.queue queue) :
    Unmoved plan start first (stores.withQueue queue) record where
  jobs := by
    have delivered : deliveredRows plan queue = deliveredRows plan stores.queue :=
      deliveredRows_congr fun _ _ _ _ => congrFun retargeted.delivered _
    exact (pendingJobs_congr delivered).trans unmoved.jobs
  routing := (settledRouting_retargeted retargeted).trans unmoved.routing
  edges := unmoved.edges
  status := unmoved.status

theorem Unmoved.late {writer : Env} (unmoved : Unmoved plan start first stores record)
    (routes : SameRoutes stores.registry registry) (course : SameCourse record after)
    (intents : after.deferredRoutingIntents =
      withLate writer (deliveredRows plan stores.queue) record.deferredRoutingIntents) :
    Unmoved plan start first (stores.withRegistry registry) after where
  jobs := (pendingJobs_withLate intents).trans unmoved.jobs
  routing := routes.settledRouting.trans unmoved.routing
  edges := routes.hierarchy.trans unmoved.edges
  status := course.status.trans unmoved.status

inductive OnRoute (env : Env) (requestId : String) (plan : ApplyPlan) (start : Stores)
    (first : RequestRecord) (stores : Stores) : Pc → Prop
  | stage (left : Nat) {record : RequestRecord}
      (routable : Routable env .finish requestId plan stores record)
      (unmoved : Unmoved plan start first stores record) :
      OnRoute env requestId plan start first stores (.stage (left + 1) requestId)
  | readGroups {record : RequestRecord}
      (routable : Routable env .finish requestId plan stores record)
      (unmoved : Unmoved plan start first stores record) :
      OnRoute env requestId plan start first stores (.readGroups .finish requestId)
  | retarget {record : RequestRecord} (reached targets : List (Option String))
      (routable : Routable env .finish requestId plan stores record)
      (unmoved : Unmoved plan start first stores record)
      (split : routeTargets false plan = reached ++ targets)
      (settled : ∀ change ∈ plan.queueRoutingChanges, routeTarget false change ∈ reached →
        RouteSettled false stores.queue change) :
      OnRoute env requestId plan start first stores
        (.retarget .finish requestId plan (targets.map (groupTo false plan))
          (reached.flatMap (deliveredTo false plan stores.queue)))
  | delivered {record : RequestRecord}
      (routable : Routable env .finish requestId plan stores record)
      (unmoved : Unmoved plan start first stores record)
      (settled : ∀ change ∈ plan.queueRoutingChanges, RouteSettled false stores.queue change) :
      OnRoute env requestId plan start first stores
        (.delivered .finish requestId plan (deliveredRows plan stores.queue))

/-- The replay begins: all routes are settled and all late deliveries are among the intents. -/
structure Arrived (env : Env) (requestId : String) (plan : ApplyPlan) (start : Stores)
    (first : RequestRecord) (stores : Stores) (record : RequestRecord) : Prop
    extends Routable env .finish requestId plan stores record where
  unmoved : Unmoved plan start first stores record
  settled : ∀ change ∈ plan.queueRoutingChanges, RouteSettled false stores.queue change
  present : LatePresent plan stores.queue record

section

variable {pc : Pc} (onRoute : OnRoute env requestId plan start first stores pc)
include onRoute

theorem OnRoute.routable : ∃ record, Routable env .finish requestId plan stores record ∧
      Unmoved plan start first stores record := by
  cases onRoute with
  | stage _ hro unmoved | readGroups hro unmoved | retarget _ _ hro unmoved _ _
  | delivered hro unmoved => exact ⟨_, hro, unmoved⟩

theorem OnRoute.safe (hua : first.status ≠ .applied) : Safe env .finish requestId stores pc := by
  cases onRoute with
  | stage _ hro unmoved =>
    exact .finishing rfl hro (by rw [unmoved.status]; exact hua)
  | readGroups hro => exact .readGroups hro
  | retarget _ _ hro => exact .retarget _ _ hro
  | delivered hro => exact .delivered _ hro

end

def Nears (env : Env) (requestId : String) (plan : ApplyPlan) (start : Stores)
    (first : RequestRecord) (system : System) : Prop :=
  OnRoute env requestId plan start first system.stores system.pc ∨
    system.pc = .pick ⟨.finish, requestId, false, []⟩ ∧
      ∃ record, Arrived env requestId plan start first system.stores record

theorem Nears.of_step {next : Stores} {pc after : Pc}
    (hsp : Pc.step (env.atTime now) ids stores pc = .ok (next, after))
    (onRoute : OnRoute env requestId plan start first next after) :
    Nears env requestId plan start first (drive env ids now ⟨stores, pc⟩) := by
  rw [drive_eq hsp]
  exact .inl onRoute

theorem Routable.nears_retarget (hro : Routable env .finish requestId plan stores record)
    (unmoved : Unmoved plan start first stores record) (hr targets : List (Option String))
    (split : routeTargets false plan = hr ++ targets)
    (hse : ∀ change ∈ plan.queueRoutingChanges, routeTarget false change ∈ hr →
      RouteSettled false stores.queue change) :
    Nears env requestId plan start first (drive env ids now ⟨stores,
      .retarget .finish requestId plan (targets.map (groupTo false plan))
        (hr.flatMap (deliveredTo false plan stores.queue))⟩) := by
  cases targets with
  | nil =>
    rw [append_nil] at split
    rw [← split]
    refine .of_step rfl (.delivered hro unmoved fun change hm =>
      hse change hm ?_)
    rw [← split]
    exact mem_routeTargets.mpr ⟨change, hm, rfl⟩
  | cons target targets =>
    obtain ⟨queue, hsp, retargeted, hh⟩ :=
      hro.step_retarget now ids _ _ (hr.flatMap (deliveredTo false _ stores.queue))
    have rows : (hr ++ [target]).flatMap (deliveredTo false plan queue) =
        hr.flatMap (deliveredTo false plan stores.queue) ++
          deliveredTo false plan stores.queue target := by
      have hs : deliveredTo false plan queue = deliveredTo false plan stores.queue := by
        funext _
        exact deliveredTo_congr _ fun _ _ _ _ =>
          congrFun retargeted.delivered _
      rw [hs, flatMap_append, flatMap_singleton]
    refine .of_step hsp ?_
    change OnRoute env requestId plan start first _ (.retarget .finish requestId plan
      (targets.map (groupTo false plan)) (hr.flatMap (deliveredTo false plan stores.queue) ++
        deliveredTo false plan stores.queue target))
    rw [← rows]
    refine .retarget (hr ++ [target]) _ (hro.withQueue retargeted)
      (unmoved.withQueue retargeted) ?_ ?_
    · rw [split, append_assoc]
      rfl
    · intro change hm reachedNow
      rcases mem_snoc.mp reachedNow with old | new
      · exact retargeted.settled change hm (hse change hm old)
      · exact hh change hm new

theorem OnRoute.nears {pc : Pc} (onRoute : OnRoute env requestId plan start first stores pc)
    (hua : first.status ≠ .applied) (ids : RowIds) (now : Int) :
    Nears env requestId plan start first (drive env ids now ⟨stores, pc⟩) := by
  cases onRoute with
  | stage _ hro unmoved =>
    exact .of_step (hro.step_stage _ (by rw [unmoved.status]; exact hua)) (.readGroups hro unmoved)
  | readGroups hro unmoved =>
    refine .of_step (step_readGroups hro) ?_
    exact .retarget [] (routeTargets false _) hro unmoved rfl fun _ _ h => by cases h
  | retarget hr _ hro unmoved split hse =>
    exact hro.nears_retarget unmoved hr _ split hse
  | delivered hro unmoved hse =>
    obtain ⟨_, _, hsp, hl, routes, course, intents⟩ :=
      step_delivered .finish _ hro.leased (deliveredRows _ stores.queue)
    rw [show (Pc.delivered .finish requestId _ (deliveredRows _ stores.queue)) =
      .delivered .finish (Purpose.finish.replay _).requestId _
        (deliveredRows _ stores.queue) from rfl, drive_eq hsp]
    exact .inr ⟨rfl, _, hro.late hl routes course intents,
      unmoved.late routes course intents, hse, .of_withLate intents⟩

end

section

variable {env : Env} {ids : RowIds} {requestId : String} {stores : Stores} {record : RequestRecord}
  {now : Int} {intent : DeferredRoutingIntent} {rest : List DeferredRoutingIntent}
  {before later : List ReplayWrite} {held : Stores → RequestRecord → Prop}
  {sent : Stores → DeferredRoutingIntent → List ReplayWrite → Prop}

abbrev intentWrites (env : Env) (requestId : String) (stores : Stores)
    (intent : DeferredRoutingIntent) : List ReplayWrite :=
  intent.job.writes env requestId (parentOf stores.registry intent.childSessionId)

/-- What a replay keeps between two intents, and what it keeps of the writes of one intent. -/
structure ReplayKeeps (env : Env) (ids : RowIds) (requestId : String)
    (held : Stores → RequestRecord → Prop)
    (sent : Stores → DeferredRoutingIntent → List ReplayWrite → Prop) : Prop where
  replayable : ∀ {stores record}, held stores record →
    Replayable env (Purpose.finish.replay requestId) stores record
  unsent : ∀ stores intent, sent stores intent []
  write : ∀ {stores record intent rest write before after}, held stores record →
    unreplayed record = intent :: rest →
    intentWrites env requestId stores intent = before ++ write :: after → sent stores intent before →
      held (stores.withQueue (write.apply ids stores.queue)) record ∧
        sent (stores.withQueue (write.apply ids stores.queue)) intent (before ++ [write])
  record : ∀ {stores record intent rest} (now : Int), held stores record →
    unreplayed record = intent :: rest → sent stores intent (intentWrites env requestId stores intent) →
      held (stores.withRegistry (replayedRegistry (env.atTime now) stores requestId record intent))
        (reconcileReparentNotificationIntents (record.withReplayed (env.atTime now) intent
          (parentOf stores.registry intent.childSessionId)))

inductive InReplay (env : Env) (requestId : String) (held : Stores → RequestRecord → Prop)
    (sent : Stores → DeferredRoutingIntent → List ReplayWrite → Prop) (stores : Stores) : Pc → Prop
  | pick {record : RequestRecord} (reapplied : List String) (holds : held stores record) :
      InReplay env requestId held sent stores (.pick ⟨.finish, requestId, false, reapplied⟩)
  | resolve {record : RequestRecord} (reapplied : List String) {intent : DeferredRoutingIntent}
      {rest : List DeferredRoutingIntent} (holds : held stores record)
      (next : unreplayed record = intent :: rest) :
      InReplay env requestId held sent stores
        (.resolve ⟨.finish, requestId, false, reapplied⟩ intent)
  | send {record : RequestRecord} (reapplied : List String) {intent : DeferredRoutingIntent}
      {rest : List DeferredRoutingIntent} {before after : List ReplayWrite}
      (holds : held stores record) (next : unreplayed record = intent :: rest)
      (split : intentWrites env requestId stores intent = before ++ after)
      (done : sent stores intent before) :
      InReplay env requestId held sent stores (.send ⟨.finish, requestId, false, reapplied⟩ intent
        (parentOf stores.registry intent.childSessionId) before.length)
  | record {record : RequestRecord} (reapplied : List String) {intent : DeferredRoutingIntent}
      {rest : List DeferredRoutingIntent} (holds : held stores record)
      (next : unreplayed record = intent :: rest)
      (done : sent stores intent (intentWrites env requestId stores intent)) :
      InReplay env requestId held sent stores (.record ⟨.finish, requestId, false, reapplied⟩ intent
        (parentOf stores.registry intent.childSessionId))

def Replays (env : Env) (requestId : String) (held : Stores → RequestRecord → Prop)
    (sent : Stores → DeferredRoutingIntent → List ReplayWrite → Prop) (system : System) : Prop :=
  InReplay env requestId held sent system.stores system.pc ∨
    system.pc = .conclude .finish requestId ∧
      ∃ record, held system.stores record ∧ unreplayed record = []

theorem Replays.of_step {next : Stores} {pc after : Pc}
    (hsp : Pc.step (env.atTime now) ids stores pc = .ok (next, after))
    (hi : InReplay env requestId held sent next after) :
    Replays env requestId held sent (drive env ids now ⟨stores, pc⟩) := by
  rw [drive_eq hsp]
  exact .inl hi

section

variable (hke : ReplayKeeps env ids requestId held sent)
include hke

theorem ReplayKeeps.safe {pc : Pc} (hi : InReplay env requestId held sent stores pc) :
    Safe env .finish requestId stores pc := by
  cases hi with
  | pick reapplied holds => exact .pick ⟨rfl, rfl⟩ ((hke.replayable holds).picking _)
  | resolve reapplied holds next =>
    exact .resolve ⟨rfl, rfl⟩ ((hke.replayable holds).picking _) (head_once _ next)
  | send reapplied holds next split =>
    refine .send ⟨rfl, rfl⟩ ((hke.replayable holds).picking _) (head_once _ next) ?_
    change _ ≤ (intentWrites env requestId _ _).length
    rw [split, length_append]
    exact Nat.le_add_right _ _
  | record reapplied holds next =>
    exact .record ⟨rfl, rfl⟩ ((hke.replayable holds).picking _) (head_once _ next)

theorem ReplayKeeps.pick (reapplied : List String) (holds : held stores record) :
    Replays env requestId held sent
      (drive env ids now ⟨stores, .pick ⟨.finish, requestId, false, reapplied⟩⟩) := by
  have hsp := step_pick (env.atTime now) ids ((hke.replayable holds).picking reapplied).leased
  rw [todo_once rfl] at hsp
  cases next : unreplayed record with
  | nil =>
    rw [next] at hsp
    rw [drive_eq hsp]
    exact .inr ⟨rfl, _, holds, next⟩
  | cons =>
    rw [next] at hsp
    exact .of_step hsp (.resolve _ holds next)

variable (holds : held stores record) (next : unreplayed record = intent :: rest)
include holds next

theorem ReplayKeeps.send (reapplied : List String)
    (split : intentWrites env requestId stores intent = before ++ later)
    (hd : sent stores intent before) :
    Replays env requestId held sent (drive env ids now ⟨stores,
      .send ⟨.finish, requestId, false, reapplied⟩ intent
        (parentOf stores.registry intent.childSessionId) before.length⟩) := by
  cases later with
  | nil =>
    rw [append_nil] at split
    refine .of_step (step_sent ?_) (.record _ holds next (split ▸ hd))
    change (intentWrites env requestId _ _)[before.length]? = none
    rw [split]
    exact getElem?_eq_none (Nat.le_refl _)
  | cons write later =>
    have ht : (intentWrites env requestId stores intent)[before.length]? = some write := by
      rw [split, getElem?_append_right (Nat.le_refl _), Nat.sub_self]
      rfl
    have fits := ((hke.replayable holds).jobs _ (mem_todo_of_next _ next)).fits
      (mem_of_getElem? ht)
    obtain ⟨kept, moved⟩ := hke.write holds next split hd
    have longer : before.length + 1 = (before ++ [write]).length := by simp
    have again : intentWrites env requestId stores intent = (before ++ [write]) ++ later := by
      rw [append_assoc]
      exact split
    refine .of_step (step_send ht fits) ?_
    rw [longer]
    exact .send _ kept next again moved

theorem ReplayKeeps.recorded (reapplied : List String)
    (hd : sent stores intent (intentWrites env requestId stores intent)) :
    Replays env requestId held sent (drive env ids now ⟨stores,
      .record ⟨.finish, requestId, false, reapplied⟩ intent
        (parentOf stores.registry intent.childSessionId)⟩) := by
  have hrp := (hke.replayable holds).picking reapplied
  have picked := mem_todo_of_next requestId next
  have hrd := (hke.replayable holds).jobs _ picked
  have hw : JobReady (env.atTime now) requestId stores intent.job :=
    ⟨hrd.message, hrd.retained⟩
  exact .of_step (step_record ids hrp.leased (mem_of_mem_filter picked) hw)
    (.pick (_ ++ [intent.key]) (hke.record now holds next hd))

omit holds next

theorem ReplayKeeps.step {pc : Pc} (hi : InReplay env requestId held sent stores pc) :
    Replays env requestId held sent (drive env ids now ⟨stores, pc⟩) := by
  cases hi with
  | pick reapplied holds => exact hke.pick _ holds
  | resolve reapplied holds next =>
    exact .of_step rfl (.send _ holds next (nil_append _).symm (hke.unsent _ _))
  | send reapplied holds next split hd => exact hke.send holds next _ split hd
  | record reapplied holds next hd => exact hke.recorded holds next _ hd

end

/-- A driver that is busy and safe until it is done comes to an end. -/
theorem safe_ends {holds ends : System → Prop} (requestId : String)
    (safe : ∀ system, holds system → Safe env .finish requestId system.stores system.pc)
    (busy : ∀ system, holds system → system.pc ≠ .idle)
    (steps : ∀ now system, holds system →
      holds (drive env ids now system) ∨ ends (drive env ids now system))
    (clock : Nat → Int) {start : System} (first : holds start) :
    ∃ n, ends (Timed.run (drive env ids) clock n start) := by
  refine Timed.run_ends rank ?_ _ first
  intro now system hh
  rcases steps now system hh with later | hen
  · rcases (safe system hh).advances ids now with released | ⟨_, lower⟩
    · exact absurd released.idle (busy _ later)
    · exact .inr ⟨later, lower⟩
  · exact .inl hen

end

end SessionManager.Reparent
