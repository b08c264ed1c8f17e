import Mathlib.Data.List.Basic

/-! The request of a client of the queue authority: one line, whose bytes arrive in any reads. -/
namespace SessionManager.Queue
open List

def maxRequestBytes : Nat := 1024

def newline : UInt8 := 10

def isAsciiWhitespace (byte : UInt8) : Bool := byte ∈ [9, 10, 12, 13, 32]

/-- After the last of `reads` the client has closed. -/
def readRequest (request : List UInt8) : List (List UInt8) → Except String (List UInt8)
  | [] => .error "queue authority request ended before newline"
  | bytes :: reads =>
    if newline ∈ bytes then
      let position := bytes.idxOf newline
      let request := request ++ bytes.take position
      if (bytes.drop (position + 1)).any fun byte => !isAsciiWhitespace byte then
        .error "queue authority accepts exactly one request per connection"
      else if request = [] then .error "queue authority request is empty"
      else if request.length > maxRequestBytes then
        .error s!"queue authority request exceeds {maxRequestBytes} bytes"
      else .ok request
    else if (request ++ bytes).length > maxRequestBytes then
      .error s!"queue authority request exceeds {maxRequestBytes} bytes"
    else readRequest (request ++ bytes) reads

structure Splits (stream : List UInt8) (reads : List (List UInt8)) : Prop where
  whole : reads.flatten = stream
  sizes : ∀ bytes ∈ reads, bytes ≠ [] ∧ bytes.length ≤ 256

/-- `line` is what stands before the first newline and `rest` what follows it. -/
def Frames (stream line rest : List UInt8) : Prop :=
  stream = line ++ newline :: rest ∧ newline ∉ line

def Valid (line : List UInt8) : Prop := line ≠ [] ∧ line.length ≤ maxRequestBytes

variable {request line rest later stream : List UInt8} {reads : List (List UInt8)}

theorem Frames.takeWhile (frames : Frames stream line rest) :
    stream.takeWhile (· ≠ newline) = line := by
  obtain ⟨rfl, hn⟩ := frames
  rw [takeWhile_append_of_pos (by grind)]
  simp

theorem Frames.unique {other tail : List UInt8} (frames : Frames stream line rest)
    (again : Frames stream other tail) : line = other ∧ rest = tail := by
  have lines := frames.takeWhile.symm.trans again.takeWhile
  have texts := frames.1.symm.trans again.1
  rw [lines] at texts
  exact ⟨lines, (cons.inj (append_cancel_left texts)).2⟩

theorem readRequest_newline {result : List UInt8} (hn : newline ∉ line) :
    readRequest request ((line ++ newline :: later) :: reads) = .ok result ↔
      (∀ byte ∈ later, isAsciiWhitespace byte) ∧ Valid (request ++ line) ∧
        request ++ line = result := by
  simp only [readRequest, mem_append, mem_cons, true_or, or_true, if_true, idxOf_append_of_notMem hn,
    idxOf_cons_self, Nat.add_zero, take_left, Valid, ← drop_drop, drop_left, drop_one, tail_cons]
  grind

theorem readRequest_ok (hs : readRequest request reads = .ok line) :
    ∃ tail rest, Frames reads.flatten tail rest ∧ request ++ tail = line ∧ Valid line := by
  induction reads generalizing request with
  | nil => cases hs
  | cons bytes reads ih =>
    by_cases hm : newline ∈ bytes
    · obtain ⟨tail, later, rfl, hn⟩ := eq_append_cons_of_mem hm
      obtain ⟨_, valid, hs⟩ := (readRequest_newline hn).mp hs
      exact ⟨tail, later ++ reads.flatten, ⟨by simp, hn⟩, hs, hs ▸ valid⟩
    · rw [readRequest, if_neg hm] at hs
      split at hs
      · cases hs
      · obtain ⟨tail, rest, ⟨whole, hn⟩, hs, valid⟩ := ih hs
        refine ⟨bytes ++ tail, rest, ⟨by simp [whole], by simp [hm, hn]⟩, ?_, valid⟩
        rw [← append_assoc, hs]

theorem readRequest_quiet (frames : Frames reads.flatten line rest) (valid : Valid (request ++ line))
    (quiet : (∀ byte ∈ rest, isAsciiWhitespace byte) ∨ ∀ bytes ∈ reads, bytes.length = 1) :
    readRequest request reads = .ok (request ++ line) := by
  induction reads generalizing request line with
  | nil => simp [Frames] at frames
  | cons bytes reads ih =>
    obtain ⟨whole, hn⟩ := frames
    by_cases hm : newline ∈ bytes
    · obtain ⟨first, later, rfl, fresh⟩ := eq_append_cons_of_mem hm
      obtain ⟨rfl, rfl⟩ : first = line ∧ later ++ reads.flatten = rest :=
        Frames.unique ⟨by simp, fresh⟩ ⟨whole, hn⟩
      refine (readRequest_newline fresh).mpr ⟨?_, valid, rfl⟩
      intro byte here
      rcases quiet with blank | single
      · exact blank byte (mem_append_left _ here)
      · have size := single _ mem_cons_self
        rw [length_append, length_cons] at size
        rw [length_eq_zero_iff.mp (show later.length = 0 by omega)] at here
        cases here
    · obtain ⟨tail, rfl, more⟩ :
          ∃ tail, line = bytes ++ tail ∧ reads.flatten = tail ++ newline :: rest := by
        rcases append_eq_append_iff.mp whole with found | ⟨tail, rfl, more⟩
        · exact found
        · cases tail with
          | nil => exact ⟨[], by simp, more.symm⟩
          | cons => simp_all
      rw [← append_assoc] at valid
      have short := valid.2
      rw [length_append] at short
      rw [readRequest, if_neg hm, if_neg (by omega), ← append_assoc]
      refine ih ⟨more, fun old => hn (mem_append_right _ old)⟩ valid (quiet.imp_right ?_)
      exact fun single bytes old => single bytes (mem_cons_of_mem _ old)

/-- How a stream is cut into reads makes no difference, and what is to be rejected is, exactly if
nothing but blanks follows the newline after a request that would be accepted alone. -/
theorem framing_ignores_reads_iff (stream : List UInt8) :
    ((∀ one other line, Splits stream one → Splits stream other →
        readRequest [] one = .ok line → readRequest [] other = .ok line) ∧
      ∀ reads, Splits stream reads →
        (∃ line rest, Frames stream line rest ∧ ∃ byte ∈ rest, ¬isAsciiWhitespace byte) ∨
          maxRequestBytes < (stream.takeWhile (· ≠ newline)).length →
        ∀ line, readRequest [] reads ≠ .ok line) ↔
    ∀ line rest, Frames stream line rest → Valid line →
      ∀ byte ∈ rest, isAsciiWhitespace byte := by
  constructor
  · rintro ⟨_, rejects⟩ line rest frames valid byte hm
    by_contra loud
    have single : Splits stream (stream.map fun byte => [byte]) :=
      ⟨flatMap_singleton' stream, by simp⟩
    refine rejects _ single (.inl ⟨line, rest, frames, byte, hm, loud⟩) line ?_
    exact readRequest_quiet (by rwa [single.whole]) valid (.inr (by simp))
  · intro blank
    refine ⟨?_, ?_⟩
    · rintro one other line ⟨rfl, _⟩ ⟨same, _⟩ hs
      obtain ⟨tail, rest, frames, rfl, valid⟩ := readRequest_ok hs
      exact readRequest_quiet (same ▸ frames) valid (.inl (blank _ _ frames valid))
    · rintro reads ⟨rfl, _⟩ wrong line hs
      obtain ⟨tail, rest, frames, rfl, valid⟩ := readRequest_ok hs
      rcases wrong with ⟨_, _, again, byte, hm, loud⟩ | long
      · obtain ⟨rfl, rfl⟩ := again.unique frames
        exact loud (blank _ _ frames valid byte hm)
      · rw [frames.takeWhile] at long
        exact absurd valid.2 (Nat.not_le.mpr long)

/-- `a`, a newline and `b`: rejected in one read and accepted in two. -/
theorem trailing_data_accepted : ∃ one other, Splits [97, 10, 98] one ∧ Splits [97, 10, 98] other ∧
    readRequest [] one = .error "queue authority accepts exactly one request per connection" ∧
    readRequest [] other = .ok [97] := by
  refine ⟨[[97, 10, 98]], [[97, 10], [98]], ⟨rfl, by simp⟩, ⟨rfl, by simp⟩, ?_, ?_⟩
  · decide +kernel
  · decide +kernel

end SessionManager.Queue
