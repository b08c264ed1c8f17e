import Mathlib.Init

/-! Operations on a world outside the program. Every external call has a fate: it takes effect, it
fails, or the process dies before it. An operation ends with a value, with a failure or in a crash,
and what it did to the world by then stays done. -/
namespace SessionManager.Foundation

inductive Fate
  | done
  | failed
  | crashed
  deriving DecidableEq, Repr

inductive Halt
  | failure (reason : String)
  | crash
  deriving DecidableEq, Repr

/-- A world and the fates of the calls to come; a call past the last of them takes effect. -/
structure Faulty (ω : Type) where
  world : ω
  fates : List Fate

abbrev Operation (ω α : Type) : Type := EStateM Halt (Faulty ω) α

namespace Operation

variable {ω α β : Type} {next : α → Operation ω β} {reason : String} {result : Except String α}
  {effect : ω → ω} {read : ω → α} {value : α}

def observe (read : ω → α) : Operation ω α := fun state => .ok (read state.world) state

/-- A note in the history of the world; the program makes no call for it. -/
def record (effect : ω → ω) : Operation ω Unit := fun state =>
  .ok () ⟨effect state.world, state.fates⟩

def call (reason : String) (effect : ω → ω) : Operation ω Unit := fun state =>
  match state.fates with
  | .failed :: later => .error (.failure reason) ⟨state.world, later⟩
  | .crashed :: later => .error .crash ⟨state.world, later⟩
  | fates => .ok () ⟨effect state.world, fates.tail⟩

def fail (reason : String) : Operation ω α := fun state => .error (.failure reason) state

/-- A failure becomes a value; a crash does not. -/
def attempt (operation : Operation ω α) : Operation ω (Except String α) := fun state =>
  match operation state with
  | .ok value after => .ok (.ok value) after
  | .error (.failure reason) after => .ok (.error reason) after
  | .error .crash after => .error .crash after

def ofExcept : Except String α → Operation ω α
  | .ok value => pure value
  | .error reason => fail reason

/-- However its calls fare, the operation ends with a value and a world that belong together, or
stops in a world that is left well. -/
def Ends (start : ω) (operation : Operation ω α) (post : α → ω → Prop) (left : ω → Prop) : Prop :=
  ∀ fates, match operation ⟨start, fates⟩ with
    | .ok value after => post value after.world
    | .error _ after => left after.world

def perform (operation : Operation ω α) (start : ω) (fates : List Fate) : ω × Option α :=
  match operation ⟨start, fates⟩ with
  | .ok value after => (after.world, some value)
  | .error _ after => (after.world, none)

/-- A transaction: all of its statements take effect, or none does. -/
def transact (body : Operation ω α) : Operation ω α := fun state =>
  let statements : Operation ω α := do
    call "cannot begin the transaction" id
    let value ← body
    call "cannot commit the transaction" id
    return value
  match statements state with
  | .ok value after => .ok value after
  | .error halt after => .error halt ⟨state.world, after.fates⟩

section

variable {start : ω} {post : α → ω → Prop} {left : ω → Prop}

theorem ends_pure (holds : post value start) : Ends start (pure value) post left :=
  fun _ => holds

theorem ends_fail (holds : left start) : Ends start (fail reason) post left :=
  fun _ => holds

theorem ends_observe (holds : post (read start) start) : Ends start (observe read) post left :=
  fun _ => holds

theorem ends_record_bind {next : Unit → Operation ω α}
    (later : Ends (effect start) (next ()) post left) :
    Ends start (record effect >>= next) post left :=
  fun fates => later fates

theorem ends_call {post : Unit → ω → Prop} (hsd : left start) (holds : post () (effect start)) :
    Ends start (call reason effect) post left := by
  intro fates
  rcases fates with _ | ⟨_ | _ | _, _⟩
  · exact holds
  · exact holds
  · exact hsd
  · exact hsd

variable {operation : Operation ω α}

theorem perform_of_ends (ran : Ends start operation post left) (fates : List Fate) :
    (∃ value, (operation.perform start fates).2 = some value ∧
        post value (operation.perform start fates).1) ∨
      (operation.perform start fates).2 = none ∧ left (operation.perform start fates).1 := by
  have hh := ran fates
  unfold perform
  split at hh
  · exact .inl ⟨_, rfl, hh⟩
  · exact .inr ⟨rfl, hh⟩

theorem perform_left {property : ω → Prop}
    (ran : Ends start operation (fun _ => property) property) (fates : List Fate) :
    property (operation.perform start fates).1 := by
  rcases perform_of_ends ran fates with ⟨_, _, holds⟩ | ⟨_, holds⟩
  · exact holds
  · exact holds

theorem ends_mono {finish : α → ω → Prop} {stop : ω → Prop}
    (ran : Ends start operation post left) (hen : ∀ value after, post value after → finish value after)
    (hsd : ∀ after, left after → stop after) : Ends start operation finish stop := by
  intro fates
  have hh := ran fates
  split at hh
  · exact hen _ _ hh
  · exact hsd _ hh

theorem ends_bind {middle : α → ω → Prop}
    {post : β → ω → Prop} (first : Ends start operation middle left)
    (later : ∀ value after, middle value after → Ends after (next value) post left) :
    Ends start (operation >>= next) post left := by
  intro fates
  have hh := first fates
  change match EStateM.bind operation next ⟨start, fates⟩ with
    | .ok value after => post value after.world
    | .error _ after => left after.world
  unfold EStateM.bind
  split at hh
  · next value after ran =>
      rw [ran]
      exact later _ after.world hh after.fates
  · next _ after ran =>
      rw [ran]
      exact hh

theorem ends_observe_bind {post : β → ω → Prop} (later : Ends start (next (read start)) post left) :
    Ends start (observe read >>= next) post left :=
  later

theorem ends_call_bind {next : Unit → Operation ω α}
    (hsd : left start) (later : Ends (effect start) (next ()) post left) :
    Ends start (call reason effect >>= next) post left := by
  have called : Ends start (call reason effect) (fun _ after => after = effect start) left :=
    ends_call hsd rfl
  refine ends_bind called ?_
  rintro _ _ rfl
  exact later

theorem ends_attempt {post : Except String α → ω → Prop}
    (ran : Ends start operation (fun value => post (.ok value))
      fun after => (∀ reason, post (.error reason) after) ∧ left after) :
    Ends start (attempt operation) post left := by
  intro fates
  have hh := ran fates
  unfold attempt
  rcases run : operation ⟨start, fates⟩ with ⟨value, after⟩ | ⟨_ | _, after⟩
  · rw [run] at hh
    exact hh
  · rw [run] at hh
    exact hh.1 _
  · rw [run] at hh
    exact hh.2

theorem ends_ofExcept (hsd : left start) (holds : ∀ value, result = .ok value → post value start) :
    Ends start (ofExcept result) post left := by
  cases result with
  | ok value => exact ends_pure (holds _ rfl)
  | error => exact ends_fail hsd

theorem ends_ofExcept_bind {post : β → ω → Prop} (hsd : left start)
    (later : ∀ value, result = .ok value → Ends start (next value) post left) :
    Ends start (ofExcept result >>= next) post left := by
  cases result with
  | ok value => exact later _ rfl
  | error => exact ends_fail hsd

theorem ends_transact {body : Operation ω α} (ran : Ends start body post fun _ => True) :
    Ends start (transact body) post fun after => after = start := by
  have whole : Ends start (do
      call "cannot begin the transaction" id
      let value ← body
      call "cannot commit the transaction" id
      return value) post fun _ => True := by
    refine ends_call_bind trivial (ends_bind ran ?_)
    intro value after holds
    exact ends_call_bind trivial (ends_pure holds)
  intro fates
  have hh := whole fates
  unfold transact
  dsimp only
  split at hh
  · exact hh
  · rfl

end

/-- An operation that keeps an invariant, also where it stops, and whose value has a property. -/
def Keeps (invariant : ω → Prop) (operation : Operation ω α) (property : α → Prop) : Prop :=
  ∀ start, invariant start →
    Ends start operation (fun value after => property value ∧ invariant after) invariant

section

variable {invariant : ω → Prop} {property : α → Prop} {operation : Operation ω α}

theorem keeps_pure (holds : property value) : Keeps invariant (pure value) property :=
  fun _ start => ends_pure ⟨holds, start⟩

theorem keeps_fail : Keeps invariant (fail reason) property :=
  fun _ start => ends_fail start

theorem keeps_observe (holds : ∀ world, invariant world → property (read world)) :
    Keeps invariant (observe read) property :=
  fun world start => ends_observe ⟨holds world start, start⟩

theorem keeps_call (effective : ∀ world, invariant world → invariant (effect world)) :
    Keeps invariant (call reason effect) fun _ => True :=
  fun world start => ends_call start ⟨trivial, effective world start⟩

theorem keeps_record (effective : ∀ world, invariant world → invariant (effect world)) :
    Keeps invariant (record effect) fun _ => True :=
  fun world start _ => ⟨trivial, effective world start⟩

theorem keeps_bind {after : β → Prop} (first : Keeps invariant operation property)
    (later : ∀ value, property value → Keeps invariant (next value) after) :
    Keeps invariant (operation >>= next) after := by
  intro _ start
  refine ends_bind (first _ start) ?_
  intro value _ ran
  exact later _ ran.1 _ ran.2

theorem keeps_attempt (ran : Keeps invariant operation property) :
    Keeps invariant (attempt operation) fun result =>
      ∀ value, result = .ok value → property value := by
  intro _ start
  refine ends_attempt (ends_mono (ran _ start) ?_ ?_)
  · rintro value after ⟨holds, kept⟩
    refine ⟨?_, kept⟩
    rintro _ ⟨⟩
    exact holds
  · intro after kept
    refine ⟨?_, kept⟩
    intro _
    refine ⟨?_, kept⟩
    rintro _ ⟨⟩

theorem keeps_ofExcept (holds : ∀ value, result = .ok value → property value) :
    Keeps invariant (ofExcept result) property :=
  fun _ start => ends_ofExcept start fun value hs => ⟨holds value hs, start⟩

end

end Operation

end SessionManager.Foundation
