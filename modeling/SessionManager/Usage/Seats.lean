import SessionManager.Foundation.KeyedTable
import SessionManager.Foundation.Text

/-! The chain of provider sessions of a seat. The primary key of the table is the seat and the provider
session, while what a row stands for also names the provider; an append that meets the key of another
provider is ignored. -/
namespace SessionManager.Usage
open Foundation List

structure SeatSessionIdentity where
  seatId : String
  provider : String
  providerSessionId : String
  artifactPath : Option String

structure SeatSession extends SeatSessionIdentity where
  firstSeen : String
  lastSeen : String

def SeatSessionIdentity.primaryKey (session : SeatSessionIdentity) : String × String :=
  (session.seatId, session.providerSessionId)

def SeatSessionIdentity.providerSession (session : SeatSessionIdentity) : String × String :=
  (session.provider, session.providerSessionId)

def SeatSessionIdentity.Definite (session : SeatSessionIdentity) : Prop :=
  session.seatId ≠ "unassigned"
  deriving Decidable

abbrev SeatSessions := KeyedTable fun row : SeatSession => row.primaryKey

def insertOrIgnore (table : SeatSessions) (row : SeatSession) : SeatSessions :=
  if fresh : table.find row.primaryKey = none then table.insert row fresh else table

def appendIdentity (table : SeatSessions) (session : SeatSessionIdentity) (observedAt : String) :
    SeatSessions :=
  let left := if session.Definite then table.retain fun row =>
      row.Definite ∨ row.providerSession ≠ session.providerSession
    else table
  if session.Definite ∨ ¬∃ row ∈ left.rows, row.Definite ∧
      row.providerSession = session.providerSession then
    insertOrIgnore left ⟨session, observedAt, observedAt⟩
  else left

def requiredText (value field : String) : Except String String :=
  if trim value = "" then .error s!"{field} must not be empty" else .ok (trim value)

def required (session : SeatSessionIdentity) : Except String SeatSessionIdentity := do
  let seatId ← requiredText session.seatId "seat_id"
  let provider ← requiredText session.provider "provider"
  let providerSessionId ← requiredText session.providerSessionId "provider_session_id"
  return ⟨seatId, provider, providerSessionId, (session.artifactPath.map trim).filter (· ≠ "")⟩

def repairArtifact (session : SeatSessionIdentity) (row : SeatSession) : SeatSession :=
  if session.artifactPath.isSome ∧ row.primaryKey = session.primaryKey ∧
      row.provider = session.provider ∧ row.artifactPath = none then
    { row with artifactPath := session.artifactPath }
  else row

variable (session : SeatSessionIdentity)

theorem repairArtifact_identity (row : SeatSession) :
    (repairArtifact session row).primaryKey = row.primaryKey ∧
      (repairArtifact session row).provider = row.provider := by
  unfold repairArtifact
  split <;> exact ⟨rfl, rfl⟩

def appendBatch (table : SeatSessions) (sessions : List SeatSessionIdentity)
    (observedAt : String) : SeatSessions :=
  sessions.foldl (fun table session => (appendIdentity table session observedAt).update
    (repairArtifact session) fun row => (repairArtifact_identity session row).1) table

inductive SeatCall
  | append (session : SeatSessionIdentity) (observedAt : String)
  | appendBatch (sessions : List SeatSessionIdentity) (observedAt : String)

/-- The identities that a call appends; an argument that is blank makes it fail. -/
def SeatCall.sessions : SeatCall → List SeatSessionIdentity
  | append session _ => (required session).toOption.toList
  | appendBatch sessions _ => sessions

def SeatCall.run (table : SeatSessions) : SeatCall → SeatSessions
  | append session observedAt =>
    match required session with
    | .error _ => table
    | .ok session => appendIdentity table session observedAt
  | appendBatch sessions observedAt => Usage.appendBatch table sessions observedAt

def seatsAfter (calls : List SeatCall) : SeatSessions := calls.foldl SeatCall.run .empty

structure SeatsKept (sessions : List SeatSessionIdentity) (table : SeatSessions) : Prop where
  kept : ∀ session ∈ sessions, session.Definite → ∃ row ∈ table.rows,
    row.primaryKey = session.primaryKey
  origin : ∀ row ∈ table.rows, row.Definite → ∃ session ∈ sessions, session.Definite ∧
    session.primaryKey = row.primaryKey ∧ session.provider = row.provider
  apart : ∀ one ∈ table.rows, ∀ two ∈ table.rows, one.Definite →
    two.providerSession = one.providerSession → two.Definite

variable {sessions : List SeatSessionIdentity} {table : SeatSessions}

theorem mem_insertOrIgnore {row other : SeatSession} :
    other ∈ (insertOrIgnore table row).rows ↔ other ∈ table.rows ∨
      other = row ∧ ∀ old ∈ table.rows, old.primaryKey ≠ row.primaryKey := by
  unfold insertOrIgnore
  split
  · next hfr =>
    have hab : ∀ old ∈ table.rows, old.primaryKey ≠ row.primaryKey := by
      simpa [KeyedTable.find] using hfr
    simp only [KeyedTable.insert, mem_append, mem_singleton]
    exact or_congr_right (and_iff_left hab).symm
  · next taken =>
    obtain ⟨old, hm, hs⟩ : ∃ old ∈ table.rows, old.primaryKey = row.primaryKey := by
      simpa [KeyedTable.find] using taken
    have never : ¬∀ old ∈ table.rows, old.primaryKey ≠ row.primaryKey :=
      fun hab => hab old hm hs
    simp [never]

theorem SeatSessionIdentity.Definite.of_key {one two : SeatSessionIdentity}
    (hk : one.Definite) (hs : one.primaryKey = two.primaryKey) : two.Definite := by
  rwa [Definite, ← (Prod.mk.inj hs).1]

section

variable (seated : SeatsKept sessions table)
include seated

theorem SeatsKept.append (observedAt : String) :
    SeatsKept (sessions ++ [session]) (appendIdentity table session observedAt) := by
  obtain ⟨_, _, _⟩ := seated
  have seat := @SeatSessionIdentity.Definite.of_key
  unfold appendIdentity
  generalize hfr : (⟨session, observedAt, observedAt⟩ : SeatSession) = row
  have hs : row.toSeatSessionIdentity = session := by rw [← hfr]
  by_cases definite : session.Definite
  · -- the provisional rows of the provider session go, the definite ones stay
    simp only [definite, if_true, true_or]
    generalize left : (table.retain fun row => decide (row.Definite ∨
      row.providerSession ≠ session.providerSession)) = rest
    have stays : ∀ row, row ∈ rest.rows ↔ row ∈ table.rows ∧
        (row.Definite ∨ row.providerSession ≠ session.providerSession) := by
      simp [← left, KeyedTable.mem_retain]
    have added := @mem_insertOrIgnore rest row
    constructor <;> grind
  · simp only [definite, if_false, false_or]
    split
    · have added := @mem_insertOrIgnore table row
      constructor <;> grind
    · constructor <;> grind

theorem SeatsKept.repair : SeatsKept sessions (table.update (repairArtifact session)
      fun row => (repairArtifact_identity session row).1) := by
  obtain ⟨_, _, _⟩ := seated
  have hs := repairArtifact_identity session
  have seat : ∀ row : SeatSession, (repairArtifact session row).Definite ↔ row.Definite := by
    intro row
    rw [SeatSessionIdentity.Definite, (Prod.mk.inj (hs row).1).1]
    exact Iff.rfl
  have pair : ∀ row : SeatSession, (repairArtifact session row).providerSession =
      row.providerSession := by
    intro row
    rw [SeatSessionIdentity.providerSession, (hs row).2, (Prod.mk.inj (hs row).1).2]
    rfl
  constructor <;> grind [KeyedTable.update]

theorem SeatsKept.batch (more : List SeatSessionIdentity)
    (observedAt : String) : SeatsKept (sessions ++ more) (appendBatch table more observedAt) := by
  induction more generalizing sessions table with
  | nil => simpa [appendBatch] using seated
  | cons session _ ih =>
    have later := ih ((seated.append session observedAt).repair session)
    rwa [append_assoc] at later

theorem SeatsKept.call (call : SeatCall) :
    SeatsKept (sessions ++ call.sessions) (call.run table) := by
  cases call with
  | append session observedAt =>
    rw [SeatCall.sessions, SeatCall.run]
    cases required session with
    | error => simpa [Except.toOption] using seated
    | ok session => exact seated.append _ _
  | appendBatch _ observedAt => exact seated.batch _ _

end

theorem seated_after (calls : List SeatCall) :
    SeatsKept (calls.flatMap SeatCall.sessions) (seatsAfter calls) := by
  induction calls using List.reverseRecOn with
  | nil => constructor <;> simp [seatsAfter]
  | append_singleton calls call ih =>
    have _ := ih.call call
    rwa [seatsAfter, foldl_append, flatMap_append, flatMap_singleton]

/-- Every provider session that was appended for a known seat is in the table exactly if no seat was
given one provider session id by two providers; a provisional row and a definite one never stand side
by side. -/
theorem seat_history_kept_iff (calls : List SeatCall) :
    ((∀ session ∈ calls.flatMap SeatCall.sessions, session.Definite →
        ∃ row ∈ (seatsAfter calls).rows, row.primaryKey = session.primaryKey ∧
          row.provider = session.provider) ↔
      ∀ one ∈ calls.flatMap SeatCall.sessions, ∀ two ∈ calls.flatMap SeatCall.sessions,
        one.Definite → one.primaryKey = two.primaryKey → one.provider = two.provider) ∧
    ∀ one ∈ (seatsAfter calls).rows, ∀ two ∈ (seatsAfter calls).rows, one.Definite →
      two.providerSession = one.providerSession → two.Definite := by
  have seated := seated_after calls
  refine ⟨⟨?_, ?_⟩, seated.apart⟩
  · intro complete one first two second definite same
    obtain ⟨row, member, key, provider⟩ := complete one first definite
    obtain ⟨other, among, otherKey, otherProvider⟩ := complete two second (definite.of_key same)
    have equal : row = other :=
      KeyedTable.eq_of_key_eq member among (key.trans (same.trans otherKey.symm))
    rw [← provider, equal, otherProvider]
  · intro alone session member definite
    obtain ⟨row, inside, key⟩ := seated.kept session member definite
    obtain ⟨first, among, _, same, provider⟩ := seated.origin row inside (definite.of_key key.symm)
    refine ⟨row, inside, key, ?_⟩
    rw [← provider]
    exact (alone session member first among definite (same.trans key).symm).symm

/-- One seat, one provider session id, two providers: the second provider session has no row. -/
theorem seat_history_lost :
    let calls := [.append ⟨"seat", "claude", "s1", none⟩ "10:00",
      .append ⟨"seat", "codex", "s1", none⟩ "10:01"]
    (∃ session ∈ calls.flatMap SeatCall.sessions, session.provider = "codex" ∧ session.Definite) ∧
    ∀ row ∈ (seatsAfter calls).rows, row.provider ≠ "codex" := by
  decide +kernel

end SessionManager.Usage
