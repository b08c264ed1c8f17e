import Mathlib.Data.List.Basic

/-! A log that only grows, read line by line in passes that save their position. A pass keeps its
work in a transaction, commits after every batch of lines and once more at the end, and can be cut
short after any commit. Whatever the cuts, the saved states are those of an uninterrupted reading
of a number of whole lines. -/
namespace SessionManager.Foundation.LineLog
open List

section

variable {α : Type} [DecidableEq α] (stop : α)

/-- The terminated lines, each with its terminator. What follows the last terminator is not a line
yet. -/
def lines : List α → List (List α)
  | [] => []
  | a :: rest =>
    if a = stop then [a] :: lines rest
    else
      match lines rest with
      | [] => []
      | line :: later => (a :: line) :: later

theorem lines_append (log more : List α) : lines stop (log ++ more) =
      lines stop log ++ lines stop (log.drop (lines stop log).flatten.length ++ more) := by
  induction log with
  | nil => rfl
  | cons a rest ih =>
    by_cases ends : a = stop
    · simp only [cons_append, lines, ends, if_true]
      rw [ih]
      simp
    · simp only [cons_append, lines, ends, if_false]
      cases split : lines stop rest with
      | nil => simp [lines, ends]
      | cons =>
        rw [split] at ih
        rw [ih]
        simp

theorem lines_prefix_of_prefix {log longer : List α} (grows : log <+: longer) :
    lines stop log <+: lines stop longer := by
  obtain ⟨_, rfl⟩ := grows
  rw [lines_append]
  exact prefix_append _ _

theorem lines_flatten_initial (log : List α) : (lines stop log).flatten <+: log := by
  induction log with
  | nil => exact nil_prefix
  | cons a rest ih =>
    by_cases ends : a = stop
    · simpa [lines, ends, cons_prefix_cons] using ih
    · simp only [lines, ends, if_false]
      cases split : lines stop rest with
      | nil => exact nil_prefix
      | cons =>
        rw [split] at ih
        simpa [cons_prefix_cons] using ih

theorem lines_drop (log : List α) (count : Nat) :
    lines stop (log.drop ((lines stop log).take count).flatten.length) =
      (lines stop log).drop count := by
  induction log generalizing count with
  | nil => simp [lines]
  | cons a rest ih =>
    cases count with
    | zero => rfl
    | succ count =>
      by_cases ends : a = stop
      · simpa [lines, ends, Nat.add_comm 1] using ih count
      · have hh := ih (count + 1)
        simp only [lines, ends, if_false]
        cases split : lines stop rest with
        | nil => simp [lines, ends, split]
        | cons =>
          rw [split] at hh
          simpa [Nat.add_right_comm] using hh

end

section

variable {α σ ε ω : Type}

/-- The states a pass saved, each with the position up to which it has read, and how it ended. -/
structure Pass (σ ε ω : Type) where
  commits : List (Nat × σ)
  result : Except ε (List ω)

def Pass.after (this : Pass σ ε ω) (output : ω) : Pass σ ε ω :=
  ⟨this.commits, this.result.map (output :: ·)⟩

variable (opened : σ → σ) (step : Nat → List α → σ → Except ε (σ × ω)) (batch : Nat)

def pass : List (List α) → (pending position : Nat) → σ → Pass σ ε ω
  | [], _, position, state => ⟨[(position, state)], .ok []⟩
  | line :: rest, pending, position, state =>
    match step position line state with
    | .error reason => ⟨[], .error reason⟩
    | .ok (next, output) =>
      if batch ≤ pending + 1 then
        let later := pass rest 0 (position + line.length) (opened next)
        (Pass.mk ((position + line.length, next) :: later.commits) later.result).after output
      else (pass rest (pending + 1) (position + line.length) next).after output

def consume : List (List α) → (position : Nat) → σ → Except ε σ
  | [], _, state => .ok state
  | line :: rest, position, state =>
    match step position line state with
    | .error reason => .error reason
    | .ok (next, _) => consume rest (position + line.length) next

theorem consume_append (first second : List (List α)) (position : Nat) (state : σ) :
    consume step (first ++ second) position state = match consume step first position state with
      | .error reason => .error reason
      | .ok next => consume step second (position + first.flatten.length) next := by
  induction first generalizing position state with
  | nil => simp [consume]
  | cons line _ ih =>
    rw [cons_append, consume, consume]
    cases step position line state with
    | error => rfl
    | ok => simp [ih, Nat.add_assoc]

variable {opened step} {inv : σ → Prop}

variable {read : List (List α)}

theorem consume_keeps (hke : ∀ position line state next output, inv state →
      step position line state = .ok (next, output) → inv next)
    {position : Nat} {state final : σ} (start : inv state)
    (hd : consume step read position state = .ok final) : inv final := by
  induction read generalizing position state with
  | nil => cases hd; exact start
  | cons line _ ih =>
    rw [consume] at hd
    cases taken : step position line state with
    | error => simp [taken] at hd
    | ok =>
      rw [taken] at hd
      exact ih (hke _ _ _ _ _ start taken) hd

theorem pass_congr {other : Nat → List α → σ → Except ε (σ × ω)}
    (agree : ∀ line ∈ read, ∀ position state, step position line state = other position line state)
    (pending position : Nat) (state : σ) :
    pass opened step batch read pending position state =
      pass opened other batch read pending position state := by
  induction read generalizing pending position state with
  | nil => rfl
  | cons line _ ih =>
    have later := ih fun _ hm => agree _ (mem_cons_of_mem _ hm)
    rw [pass, pass, agree _ mem_cons_self]
    cases other position line state with
    | error => rfl
    | ok => simp only [later]

variable {pending position : Nat} {state : σ}

theorem consume_of_pass (idle : ∀ state, inv state → opened state = state)
    (hke : ∀ position line state next output, inv state →
      step position line state = .ok (next, output) → inv next)
    (start : inv state) {outputs : List ω}
    (hen : (pass opened step batch read pending position state).result = .ok outputs) :
    ∃ final, consume step read position state = .ok final := by
  induction read generalizing pending position state outputs with
  | nil => exact ⟨_, rfl⟩
  | cons line rest ih =>
    rw [pass] at hen
    rw [consume]
    cases taken : step position line state with
    | error => simp [taken] at hen
    | ok result =>
      obtain ⟨next, output⟩ := result
      have kept : inv next := hke _ _ _ _ _ start taken
      have ok_of_after : ∀ later : Pass σ ε ω, (later.after output).result = .ok outputs →
          ∃ rest, later.result = .ok rest := by
        intro later hd
        cases result : later.result with
        | error => simp [Pass.after, result, Except.map] at hd
        | ok rest => exact ⟨_, rfl⟩
      simp only [taken, idle next kept] at hen
      split at hen
      · obtain ⟨rest, hd⟩ := ok_of_after _ hen
        exact ih kept hd
      · obtain ⟨rest, hd⟩ := ok_of_after _ hen
        exact ih kept hd

variable (hke : ∀ position line state next output, inv state →
  step position line state = .ok (next, output) → inv next)
  (idle : ∀ state, inv state → opened state = state)
include hke idle

theorem pass_commits (start : inv state) {saved : Nat × σ}
    (hm : saved ∈ (pass opened step batch read pending position state).commits) :
    ∃ count ≤ read.length, saved.1 = position + (read.take count).flatten.length ∧
      consume step (read.take count) position state = .ok saved.2 := by
  induction read generalizing pending position state with
  | nil =>
    have hs : saved = (position, state) := by simpa [pass] using hm
    exact ⟨0, Nat.le_refl 0, by simp [hs], by simp [hs, consume]⟩
  | cons line rest ih =>
    rw [pass] at hm
    cases taken : step position line state with
    | error => simp [taken] at hm
    | ok result =>
      obtain ⟨next, _⟩ := result
      have kept : inv next := hke _ _ _ _ _ start taken
      -- A commit of the rest of the pass has read this line and a number of later ones.
      have later : ∀ pending, saved ∈ (pass opened step batch rest pending
          (position + line.length) next).commits →
          ∃ count ≤ (line :: rest).length,
            saved.1 = position + ((line :: rest).take count).flatten.length ∧
            consume step ((line :: rest).take count) position state = .ok saved.2 := by
        intro pending hm
        obtain ⟨count, bound, place, read⟩ := ih kept hm
        refine ⟨_ + 1, by simpa using bound, ?_, ?_⟩
        · simp [place, Nat.add_assoc]
        · simpa [consume, taken] using read
      simp only [taken] at hm
      split at hm
      · rw [idle next kept] at hm
        rcases mem_cons.mp hm with hh | hm
        · exact ⟨1, by simp, by simp [hh], by simp [consume, taken, hh]⟩
        · exact later 0 hm
      · exact later _ hm

theorem pass_complete (pending : Nat) {position : Nat} {state final : σ}
    (start : inv state) (hd : consume step read position state = .ok final) :
    (∃ outputs, (pass opened step batch read pending position state).result = .ok outputs) ∧
      (pass opened step batch read pending position state).commits.getLast? =
        some (position + read.flatten.length, final) := by
  induction read generalizing pending position state with
  | nil => cases hd; exact ⟨⟨[], rfl⟩, by simp [pass]⟩
  | cons line _ ih =>
    rw [consume] at hd
    cases taken : step position line state with
    | error => simp [taken] at hd
    | ok result =>
      obtain ⟨next, output⟩ := result
      rw [taken] at hd
      have kept : inv next := hke _ _ _ _ _ start taken
      rw [pass]
      simp only [taken]
      split
      · obtain ⟨⟨outputs, hen⟩, last⟩ := ih 0 kept hd
        rw [idle next kept]
        refine ⟨⟨output :: outputs, by simp [Pass.after, hen, Except.map]⟩, ?_⟩
        simp [Pass.after, getLast?_cons, last, Nat.add_assoc]
      · obtain ⟨⟨outputs, hen⟩, last⟩ := ih (pending + 1) kept hd
        refine ⟨⟨output :: outputs, by simp [Pass.after, hen, Except.map]⟩, ?_⟩
        simp [Pass.after, last, Nat.add_assoc]

end

section

variable {α σ ε ω : Type} [DecidableEq α] (stop : α)
  (step : Nat → List α → σ → Except ε (σ × ω)) (init : σ)

/-- A saved state that has read a number of whole lines of the log. -/
def Saved (log : List α) (saved : Nat × σ) : Prop :=
  ∃ count ≤ (lines stop log).length, saved.1 = ((lines stop log).take count).flatten.length ∧
      consume step ((lines stop log).take count) 0 init = .ok saved.2

theorem Saved.start (log : List α) : Saved stop step init log (0, init) :=
  ⟨0, Nat.zero_le _, by simp, rfl⟩

variable {stop step init} {log longer : List α} {saved next : Nat × σ}

theorem Saved.grow (hh : Saved stop step init log saved) (grows : log <+: longer) :
    Saved stop step init longer saved := by
  obtain ⟨count, bound, place, read⟩ := hh
  obtain ⟨_, later⟩ := lines_prefix_of_prefix _ grows
  have hs : (lines stop longer).take count = (lines stop log).take count := by
    rw [← later, take_append_of_le_length bound]
  refine ⟨count, ?_, ?_, ?_⟩
  · rw [← later, length_append]
    omega
  · rw [hs, place]
  · rw [hs, read]

theorem Saved.position_le (hh : Saved stop step init log saved) : saved.1 ≤ log.length := by
  obtain ⟨count, -, _, -⟩ := hh
  have _ := (lines_flatten_initial stop log).length_le
  have _ : ((lines stop log).take count).flatten.length ≤ (lines stop log).flatten.length := by
    nth_rewrite 2 [← take_append_drop count (lines _ log)]
    rw [flatten_append, length_append]
    omega
  omega

variable {opened : σ → σ} {inv : σ → Prop} (hke : ∀ position line state next output, inv state →
    step position line state = .ok (next, output) → inv next)
include hke

theorem Saved.inv_state (start : inv init) (hh : Saved stop step init log saved) : inv saved.2 := by
  obtain ⟨_, -, -, read⟩ := hh
  exact consume_keeps hke start read

variable (idle : ∀ state, inv state → opened state = state) (start : inv init) (batch : Nat)
include idle start

theorem Saved.pass (hh : Saved stop step init log saved)
    (hm : next ∈ (pass opened step batch (lines stop (log.drop saved.1)) 0 saved.1
      saved.2).commits) : Saved stop step init log next := by
  have kept := hh.inv_state hke start
  obtain ⟨count, _, place, read⟩ := hh
  rw [place, lines_drop] at hm
  obtain ⟨more, hwi, moved, also⟩ := pass_commits _ hke idle kept hm
  have joined : (lines stop log).take (count + more) =
      (lines stop log).take count ++ ((lines stop log).drop count).take more := take_add
  rw [length_drop] at hwi
  refine ⟨count + more, by omega, ?_, ?_⟩
  · rw [joined, flatten_append, length_append, moved]
  · rw [joined, consume_append, read]
    simpa using also

/-- A pass over the whole log ends where an uninterrupted reading does. -/
theorem Saved.complete {final : σ} (hh : Saved stop step init log saved)
    (hd : consume step (lines stop log) 0 init = .ok final) :
    (∃ outputs, (LineLog.pass opened step batch (lines stop (log.drop saved.1)) 0 saved.1
        saved.2).result = .ok outputs) ∧
      (LineLog.pass opened step batch (lines stop (log.drop saved.1)) 0 saved.1
        saved.2).commits.getLast? = some ((lines stop log).flatten.length, final) := by
  have kept := hh.inv_state hke start
  obtain ⟨count, _, place, read⟩ := hh
  have joined := take_append_drop count (lines stop log)
  have rest : consume step ((lines stop log).drop count) saved.1 saved.2 = .ok final := by
    rw [← joined, consume_append, read] at hd
    simpa [place] using hd
  have total : saved.1 + ((lines stop log).drop count).flatten.length =
      (lines stop log).flatten.length := by
    nth_rewrite 2 [← joined]
    rw [flatten_append, length_append, place]
  have hs : lines stop (log.drop saved.1) = (lines stop log).drop count := by
    rw [place, lines_drop]
  rw [hs, ← total]
  exact pass_complete _ hke idle 0 kept rest

end

end SessionManager.Foundation.LineLog
