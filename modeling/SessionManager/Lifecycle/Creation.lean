import SessionManager.Lifecycle.Licences

/-! The hierarchy that creation builds. A session is stored under a parent that the caller names,
whether there is such a session or not; the links stay free of cycles as long as no request names a
parent from which they lead to the session itself. -/
namespace SessionManager.Lifecycle
open Foundation ParentGraph List Function

/-- The writes of a create call that add or remove a session. The final one changes neither an id nor
a parent. -/
inductive CreationWrite
  | fixture (seen : Seen) (request : CreateCoreSessionRequest)
  | provisional (seen : Seen) (request : CreateCoreSessionRequest)
  | removeFailed (sessionId : String)

def acceptedRecord (host : Host) (sessions : List SessionRecord) (seen : Seen)
    (request : CreateCoreSessionRequest) : Option SessionRecord :=
  if seen.fenced && request.parentSessionId.isSome then none
  else (buildCoreSessionRecord host seen sessions request).toOption

def CreationWrite.added (host : Host) (sessions : List SessionRecord) :
    CreationWrite → Option SessionRecord
  | fixture seen request => acceptedRecord host sessions seen request
  | provisional seen request => (acceptedRecord host sessions seen request).map
      (provisionalRecord seen request (host.sha256Text seen.credential))
  | removeFailed _ => none

def CreationWrite.apply (host : Host) (sessions : List SessionRecord) (write : CreationWrite) :
    List SessionRecord :=
  match write with
  | removeFailed sessionId => sessions.filter fun session => session.id ≠ sessionId
  | _ => sessions ++ (write.added host sessions).toList

def created (host : Host) (writes : List CreationWrite) : List SessionRecord :=
  writes.foldl (CreationWrite.apply host) []

def parentLink (sessions : List SessionRecord) (id : String) : Option String :=
  (sessions.find? fun session => session.id = id).bind SessionRecord.parentSessionId

def WellFormed (sessions : List SessionRecord) : Prop :=
  (sessions.map SessionRecord.id).Nodup ∧ Acyclic (parentLink sessions)

/-- From the parent that it names, the links do not lead to the session that is added. -/
def CreationWrite.Grounded (host : Host) (sessions : List SessionRecord) (write : CreationWrite) :
    Prop :=
  ∀ record ∈ write.added host sessions, ∀ parent ∈ record.parentSessionId,
    ∀ n, climb (parentLink sessions) n parent ≠ some record.id

variable {host : Host} {sessions : List SessionRecord} {record : SessionRecord}

theorem acceptedRecord_fresh {seen : Seen} {request : CreateCoreSessionRequest}
    (hac : record ∈ acceptedRecord host sessions seen request) :
    ∀ session ∈ sessions, session.id ≠ record.id := by
  unfold acceptedRecord at hac
  split at hac
  · cases hac
  cases built : buildCoreSessionRecord host seen sessions request with
  | error => simp [built, Except.toOption] at hac
  | ok =>
    simp only [built, Except.toOption, Option.mem_some_iff] at hac
    rw [← hac]
    exact (buildCoreSessionRecord_ok built).1

theorem added_fresh {write : CreationWrite} (added : record ∈ write.added host sessions) :
    ∀ session ∈ sessions, session.id ≠ record.id := by
  cases write with
  | fixture => exact acceptedRecord_fresh added
  | provisional =>
    obtain ⟨built, hac, rfl⟩ := Option.map_eq_some_iff.mp added
    exact @acceptedRecord_fresh _ _ built _ _ hac
  | removeFailed => cases added

theorem parentLink_none {id : String} (hfr : ∀ session ∈ sessions, session.id ≠ id) :
    parentLink sessions id = none := by
  have hab : sessions.find? (fun session => session.id = id) = none := by simpa using hfr
  rw [parentLink, hab]
  rfl

theorem parentLink_append (hfr : ∀ session ∈ sessions, session.id ≠ record.id) :
    parentLink (sessions ++ [record]) =
      Function.update (parentLink sessions) record.id record.parentSessionId := by
  funext id
  by_cases hh : id = record.id
  · have hab : sessions.find? (fun session => session.id = id) = none := by
      simpa [hh] using hfr
    simp [parentLink, hh ▸ hab, hh]
  · simp [parentLink, hh, Ne.symm hh, update_of_ne]

theorem parentLink_filter (sessions : List SessionRecord) (sessionId : String) :
    parentLink (sessions.filter fun session => session.id ≠ sessionId) =
      Function.update (parentLink sessions) sessionId none := by
  funext id
  by_cases hh : id = sessionId
  · rw [hh, update_self]
    exact parentLink_none (by simp)
  · rw [update_of_ne hh, parentLink, find?_filter]
    congr 2
    grind

theorem wellFormed_append (hfr : ∀ session ∈ sessions, session.id ≠ record.id)
    (formed : WellFormed sessions) :
    WellFormed (sessions ++ [record]) ↔ ∀ parent ∈ record.parentSessionId,
      ∀ n, climb (parentLink sessions) n parent ≠ some record.id := by
  have hn : ((sessions ++ [record]).map SessionRecord.id).Nodup := by
    simpa [nodup_append, formed.1] using hfr
  refine (and_iff_right hn).trans ?_
  rw [parentLink_append hfr]
  refine ⟨?_, formed.2.update⟩
  intro acyclic parent hna n hr
  have moved : parentLink sessions = Function.update (Function.update (parentLink sessions)
      record.id record.parentSessionId) record.id none := by
    rw [update_idem, ← parentLink_none hfr, update_eq_self]
  rw [moved] at hr
  obtain ⟨k, met⟩ := climb_to_moved hr
  refine acyclic record.id k (climb_succ_eq_some.mpr ⟨_, ?_, met⟩)
  rw [update_self]
  exact hna

theorem wellFormed_filter (formed : WellFormed sessions) (sessionId : String) :
    WellFormed (sessions.filter fun session => session.id ≠ sessionId) := by
  refine ⟨formed.1.sublist (filter_sublist.map _), ?_⟩
  rw [parentLink_filter]
  exact formed.2.update nofun

theorem wellFormed_apply (formed : WellFormed sessions) (write : CreationWrite) :
    WellFormed (write.apply host sessions) ↔ write.Grounded host sessions := by
  have adds : WellFormed (sessions ++ (write.added host sessions).toList) ↔
      write.Grounded host sessions := by
    unfold CreationWrite.Grounded
    cases added : write.added host sessions with
    | none => simpa using formed
    | some record => simpa using wellFormed_append (added_fresh added) formed
  cases write with
  | removeFailed =>
    refine iff_of_true (wellFormed_filter formed _) ?_
    intro record h
    cases h
  | fixture | provisional => exact adds

/-- The stored ids are distinct and the links free of cycles in every state of a sequence of creations
exactly if every session that is added is grounded. -/
theorem creation_well_formed_iff (host : Host) (writes : List CreationWrite) :
    (∀ earlier, earlier <+: writes → WellFormed (created host earlier)) ↔
      ∀ earlier write, earlier ++ [write] <+: writes →
        write.Grounded host (created host earlier) := by
  have next : ∀ earlier write, created host (earlier ++ [write]) =
      write.apply host (created host earlier) := by
    intro earlier write
    rw [created, foldl_append]
    rfl
  constructor
  · intro formed earlier write first
    have before := formed earlier ((prefix_append _ _).trans first)
    rw [← wellFormed_apply before, ← next]
    exact formed _ first
  · intro grounded earlier
    induction earlier using List.reverseRecOn with
    | nil => exact fun _ => ⟨nodup_nil, nofun⟩
    | append_singleton earlier write ih =>
      intro first
      rw [next, wellFormed_apply (ih ((prefix_append _ _).trans first))]
      exact grounded earlier write first

/-- Two sessions that name each other, the first one before the second exists. -/
theorem creation_cycle :
    let links := parentLink (created ⟨none, false, false, id, id⟩
      [.fixture {} ⟨some "a", none, none, some "b", false⟩,
        .fixture {} ⟨some "b", none, none, some "a", false⟩])
    links "a" = some "b" ∧ links "b" = some "a" := by
  decide +kernel

end SessionManager.Lifecycle
