import SessionManager.Reparent.System

/-! The hierarchy of sessions never closes into a cycle. Only two writes change parents: a commit
moves the edges of a request that is not stale at that moment, and a new session hangs below nothing
that hangs below it. -/
namespace SessionManager.Reparent
open Foundation Queue List Function

variable {session : SessionRecord}

section

variable {registry : Registry} {registry after : Registry} {id : String}

theorem parentOf_updateSession
    {change : SessionRecord → SessionRecord} (ids : ∀ session, (change session).id = session.id)
    (hf : findSession registry id = some session) :
    parentOf (updateSession registry id change) =
      Function.update (parentOf registry) id (change session).parentSessionId := by
  have lookup := fun other => find?_modifyFirst ids id other registry.sessions
  funext other
  simp only [parentOf, findSession, updateSession] at hf ⊢
  rw [lookup]
  by_cases hs : other = id
  · rw [if_pos hs, hf, hs, update_self]
    rfl
  · rw [if_neg hs, update_of_ne hs]
    rfl

theorem commitEdge_ok {change : EdgeChange} (hd : commitEdge registry change = .ok after) :
    parentOf registry change.sessionId = change.expectedParentSessionId ∧
      parentOf after = Function.update (parentOf registry) change.sessionId
        change.newParentSessionId ∧
      sessionIds after = sessionIds registry := by
  unfold commitEdge at hd
  split at hd
  · cases hd
  rename_i session hf
  split at hd
  · cases hd
  rename_i expected
  have expected : session.parentSessionId = change.expectedParentSessionId := by
    simpa using expected
  cases hd
  refine ⟨by simp [parentOf, hf, expected], parentOf_updateSession (by intro _; rfl) hf, ?_⟩
  exact map_modifyFirst (by intro _; rfl) registry.sessions

theorem commitEdges_parentOf {changes : List EdgeChange}
    (hd : changes.foldlM commitEdge registry = .ok after) :
    parentOf after = changedParents (parentOf registry) changes ∧
      sessionIds after = sessionIds registry := by
  induction changes generalizing registry with
  | nil =>
    cases hd
    exact ⟨rfl, rfl⟩
  | cons _ rest ih =>
    obtain ⟨_, hh, later⟩ := Fallible.foldlM_cons_ok.mp hd
    obtain ⟨_, parents, ids⟩ := commitEdge_ok hh
    obtain ⟨rest, kept⟩ := ih later
    refine ⟨?_, kept.trans ids⟩
    rw [rest, parents]
    rfl

theorem Joins.parentOf {before after : Registry} (joins : Joins before after session) :
    parentOf after = Function.update (Reparent.parentOf before) session.id
      session.parentSessionId := by
  funext id
  unfold Reparent.parentOf findSession
  rw [joins.sessions, find?_append]
  by_cases hh : id = session.id
  · have hab : before.sessions.find? (fun other => other.id = id) = none := by
      rw [find?_eq_none]
      intro other hm
      simp only [decide_eq_true_eq]
      intro hs
      exact joins.fresh (hh ▸ hs ▸ mem_map_of_mem hm)
    rw [hab, hh]
    simp
  · have hne : ¬session.id = id := fun hs => hh hs.symm
    rw [update_of_ne hh]
    simp [hne]

theorem parentOf_ne_of_unnamed
    (unnamed : ∀ other ∈ registry.sessions, other.parentSessionId ≠ some id) (child : String) :
    parentOf registry child ≠ some id := by
  intro hna
  obtain ⟨_, hf, parent⟩ := Option.bind_eq_some_iff.mp hna
  exact unnamed _ (mem_of_find?_eq_some hf) parent

theorem climb_ne_of_unnamed {id start : String}
    (unnamed : ∀ other ∈ registry.sessions, other.parentSessionId ≠ some id)
    (other : start ≠ id) (n : Nat) : ParentGraph.climb (parentOf registry) n start ≠ some id := by
  cases n with
  | zero =>
    intro hs
    exact other (Option.some.inj hs)
  | succ =>
    intro hr
    rw [ParentGraph.climb_add, Option.bind_eq_some_iff] at hr
    obtain ⟨_, _, link⟩ := hr
    obtain ⟨_, hna, hs⟩ := ParentGraph.climb_succ_eq_some.mp link
    cases hs
    exact parentOf_ne_of_unnamed unnamed _ hna

end

section

/-- A stored plan moves the edges of its own request. -/
def PlanMatches (record : RequestRecord) : Prop :=
  ∀ plan, record.applyPlan = some plan → plan.edgeChanges = requestEdgeChanges record

theorem PlanMatches.advance {record after : RequestRecord} (advance : Advance record after)
    (matched : PlanMatches record) : PlanMatches after := by
  intro _ hp
  cases advance with
  | lease _ _ _ edges =>
    cases hp
    exact edges
  | _ => exact matched _ hp

variable {record : RequestRecord}

theorem PlanMatches.of_submitted (submitted : Submitted record) : PlanMatches record := by
  intro _ hp
  rw [submitted.unplanned] at hp
  cases hp

structure Ordered (registry : Registry) : Prop where
  distinct : (sessionIds registry).Nodup
  acyclic : ParentGraph.Acyclic (parentOf registry)
  plans : ∀ record ∈ registry.reparentRequests, PlanMatches record

variable {before after : Registry}

theorem Quiet.all {property : RequestRecord → Prop} (quiet : Quiet before after)
    (kept : ∀ record after, Advance record after → property record → property after)
    (submitted : ∀ record, Submitted record → property record)
    (holds : ∀ record ∈ before.reparentRequests, property record) :
    ∀ record ∈ after.reparentRequests, property record := by
  obtain ⟨_, _, split, moved, hfr⟩ := quiet.requests
  intro record hm
  rw [split] at hm
  rcases mem_append.mp hm with hca | added
  · exact moved.stable kept holds _ hca
  · exact submitted _ (hfr _ added)

theorem Ordered.quiet (ordered : Ordered before) (quiet : Quiet before after) : Ordered after :=
  { distinct := sessionIds_congr quiet.hierarchy ▸ ordered.distinct
    acyclic := parentOf_congr quiet.hierarchy ▸ ordered.acyclic
    plans := quiet.all (fun _ _ => PlanMatches.advance) (fun _ => .of_submitted) ordered.plans }

theorem Ordered.commits {plan : ApplyPlan}
    (ordered : Ordered before) (commits : Commits before after record plan) : Ordered after := by
  obtain ⟨_, edges, hs⟩ := commits.edges
  obtain ⟨parents, ids⟩ := commitEdges_parentOf edges
  rw [ordered.plans _ commits.member _ commits.planned] at parents
  refine ⟨?_, ?_, commits.requests.stable (fun _ _ => PlanMatches.advance) ordered.plans⟩
  · rw [sessionIds_congr hs, ids]
    exact ordered.distinct
  · rw [parentOf_congr hs, parents]
    exact acyclic_of_not_stale _ _ ordered.acyclic commits.fresh

theorem Ordered.joins
    (ordered : Ordered before) (joins : Joins before after session) : Ordered after := by
  refine ⟨?_, ?_, joins.requests ▸ ordered.plans⟩
  · have ids : sessionIds after = sessionIds before ++ [session.id] := by
      simp [sessionIds, joins.sessions]
    rw [ids, ← concat_eq_append]
    exact ordered.distinct.concat joins.fresh
  · rw [joins.parentOf]
    apply ordered.acyclic.update
    intro parent hna n
    have other : parent ≠ session.id := fun hs => joins.fresh (hs ▸ joins.parent _ hna)
    exact climb_ne_of_unnamed joins.unnamed other n

theorem Ordered.change (ordered : Ordered before)
    (change : Change before after) : Ordered after := by
  cases change with
  | quiet quiet => exact ordered.quiet quiet
  | commits _ _ commits => exact ordered.commits commits
  | joins _ joins => exact ordered.joins joins

theorem Ordered.run {env : Env} {ids : RowIds} {start finish : System}
    (ordered : Ordered start.stores.registry) (run : Run env ids start finish) :
    Ordered finish.stores.registry := by
  induction run with
  | refl => exact ordered
  | tail _ step ih => exact ih.change step.change

end

section

theorem parentOf_of_mem {registry : Registry} (hn : (sessionIds registry).Nodup)
    (hm : session ∈ registry.sessions) :
    parentOf registry session.id = session.parentSessionId := by
  have hf : findSession registry session.id = some session := by
    have nodup := pairwise_map.mp hn
    obtain ⟨_, _, split⟩ := append_of_mem hm
    unfold findSession
    rw [split] at nodup ⊢
    rw [find?_append, find?_eq_none.mpr, Option.none_or, find?_cons_of_pos (by simp)]
    intro other hi
    simpa using (pairwise_append.mp nodup).2.2 other hi session mem_cons_self
  simp [parentOf, hf]

/-- Whatever the interleaving, the links from a session never lead to the same session twice. -/
theorem parent_links_never_revisit {env : Env} {ids : RowIds} {start finish : System}
    (run : Run env ids start finish) (distinct : (sessionIds start.stores.registry).Nodup)
    (acyclic : ParentGraph.Acyclic (parentOf start.stores.registry))
    (unplanned : ∀ record ∈ start.stores.registry.reparentRequests, record.applyPlan = none) :
    (∀ session ∈ finish.stores.registry.sessions,
      parentOf finish.stores.registry session.id = session.parentSessionId) ∧
    ∀ session ∈ finish.stores.registry.sessions, ∀ i j id, i < j →
      ParentGraph.climb (parentOf finish.stores.registry) i session.id = some id →
      ParentGraph.climb (parentOf finish.stores.registry) j session.id ≠ some id := by
  have ordered : Ordered finish.stores.registry := by
    refine Ordered.run ⟨distinct, acyclic, ?_⟩ run
    intro record member plan planned
    rw [unplanned record member] at planned
    cases planned
  constructor
  · intro session member
    exact parentOf_of_mem ordered.distinct member
  · intro session _ i j id later seen
    exact ordered.acyclic.climb_ne later seen

theorem family_links_never_revisit : parentOf moved.stores.registry "kim" = some "bob" ∧
    (∀ session ∈ moved.stores.registry.sessions,
      parentOf moved.stores.registry session.id = session.parentSessionId) ∧
    ∀ session ∈ moved.stores.registry.sessions, ∀ i j id, i < j →
      ParentGraph.climb (parentOf moved.stores.registry) i session.id = some id →
      ParentGraph.climb (parentOf moved.stores.registry) j session.id ≠ some id :=
  ⟨by decide +kernel, parent_links_never_revisit family_run_moved (by decide)
    ((reparentPlanWouldCreateCycle_eq_false familyRegistry []).mp (by decide +kernel))
    (by simp [family, familyRegistry])⟩

end

end SessionManager.Reparent
