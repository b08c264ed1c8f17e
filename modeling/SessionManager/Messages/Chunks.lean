import Mathlib.Algebra.Order.Ring.Nat

/-! The text sent to a terminal in pieces. Break points are chosen by characters and the text is cut
at byte offsets; a cut that is not between two characters fails. -/
namespace SessionManager.Messages
open List

def byteLength (text : List Char) : Nat := (text.map Char.utf8Size).sum

def charIndices : Nat → List Char → List (Nat × Char)
  | _, [] => []
  | start, character :: text => (start, character) :: charIndices (start + character.utf8Size) text

def byteIndexAfterChars (value : List Char) (charCount : Nat) : Nat :=
  ((charIndices 0 value)[charCount]?.map Prod.fst).getD (byteLength value)

/-- The text before a byte offset and the text from it on. -/
def cutAt : List Char → Nat → Option (List Char × List Char)
  | text, 0 => some ([], text)
  | [], _ + 1 => none
  | character :: text, offset =>
    if character.utf8Size ≤ offset then
      (cutAt text (offset - character.utf8Size)).map fun cut => (character :: cut.1, cut.2)
    else none

/-- The byte offset of the last occurrence. -/
def rfind (mark : Char) : List Char → Option Nat
  | [] => none
  | character :: text =>
    match rfind mark text with
    | some offset => some (character.utf8Size + offset)
    | none => if character = mark then some 0 else none

/-- One turn of the loop: the piece cut off and what remains. -/
def nextChunk (limit : Nat) (remaining : List Char) : Option (List Char × List Char) := do
  let boundary := byteIndexAfterChars remaining limit
  let window ← cutAt remaining boundary
  let newlineSplit ← match rfind '\n' window.1 with
    | none => some none
    | some offset => (cutAt remaining offset).map fun cut =>
      if limit / 2 ≤ cut.1.length then some (offset + '\n'.utf8Size) else none
  cutAt remaining (newlineSplit.getD boundary)

def chunkLoop (limit : Nat) : Nat → List Char → Option (List (List Char))
  | 0, _ => none
  | turns + 1, remaining =>
    if remaining = [] then some []
    else if remaining.length ≤ limit then some [remaining]
    else do
      let cut ← nextChunk limit remaining
      let chunks ← chunkLoop limit turns cut.2
      return cut.1 :: chunks

/-- No result where a cut fails, or where the loop does not end within a turn for each character and
one more. -/
def splitSendTextChunks (text : List Char) (maxChunkChars : Nat) : Option (List (List Char)) :=
  if text.length ≤ max maxChunkChars 1 then some [text]
  else chunkLoop (max maxChunkChars 1) (text.length + 1) text

theorem cutAt_eq {text head rest : List Char} (hs : text = head ++ rest) :
    cutAt text (byteLength head) = some (head, rest) := by
  subst hs
  induction head with
  | nil => cases rest <;> rfl
  | cons character head ih =>
    have positive := character.utf8Size_pos
    have size : byteLength (character :: head) = character.utf8Size + byteLength head := by
      simp [byteLength]
    obtain ⟨offset, hs⟩ : ∃ offset, character.utf8Size + byteLength head = offset + 1 :=
      Nat.exists_eq_add_one.mpr (by omega)
    rw [size, hs, cons_append, cutAt, if_pos (by omega), ← hs, Nat.add_sub_cancel_left, ih]
    · rfl
    · simp

theorem charIndices_getD (text : List Char) (start count : Nat) :
    ((charIndices start text)[count]?.map Prod.fst).getD (start + byteLength text) =
      start + byteLength (text.take count) := by
  induction text generalizing start count with
  | nil => simp [charIndices, byteLength]
  | cons character text ih =>
    cases count with
    | zero => simp [charIndices, byteLength]
    | succ count =>
      have later := ih (start + character.utf8Size) count
      simpa [charIndices, byteLength, Nat.add_assoc] using later

theorem rfind_spec {mark : Char} {text : List Char} {offset : Nat}
    (hf : rfind mark text = some offset) :
    ∃ head rest, text = head ++ mark :: rest ∧ offset = byteLength head := by
  induction text generalizing offset with
  | nil => cases hf
  | cons character text ih =>
    rw [rfind] at hf
    split at hf
    · next later found =>
        obtain ⟨head, rest, rfl, rfl⟩ := ih found
        refine ⟨character :: head, rest, rfl, ?_⟩
        simpa [byteLength] using hf.symm
    · split at hf
      · next hs => exact ⟨[], text, by rw [hs]; rfl, by simpa [byteLength] using hf.symm⟩
      · cases hf

/-- A turn with more than the limit left cuts off a piece that is neither empty nor too long. -/
theorem nextChunk_spec {limit : Nat} {remaining : List Char} (positive : 0 < limit)
    (long : limit < remaining.length) : ∃ chunk rest, nextChunk limit remaining = some (chunk, rest) ∧
      remaining = chunk ++ rest ∧ chunk ≠ [] ∧ chunk.length ≤ limit := by
  have boundary := charIndices_getD remaining 0 limit
  rw [Nat.zero_add, Nat.zero_add] at boundary
  have halves := (take_append_drop limit remaining).symm
  have whole := cutAt_eq halves
  have size : (remaining.take limit).length = limit := by
    rw [length_take]
    omega
  have kept : ∃ chunk rest, cutAt remaining (byteLength (remaining.take limit)) =
      some (chunk, rest) ∧ remaining = chunk ++ rest ∧ chunk ≠ [] ∧ chunk.length ≤ limit := by
    refine ⟨_, _, whole, halves, ?_, size.le⟩
    rw [← length_pos_iff]
    omega
  unfold nextChunk byteIndexAfterChars
  simp only [boundary, whole, Option.bind_eq_bind, Option.bind_some]
  cases found : rfind '\n' (remaining.take limit) with
  | none => exact kept
  | some offset =>
    obtain ⟨head, after, hs, rfl⟩ := rfind_spec found
    rw [hs] at halves size
    rw [append_assoc, cons_append] at halves
    have through : remaining = (head ++ ['\n']) ++ (after ++ remaining.drop limit) := by
      rwa [append_assoc]
    simp only [cutAt_eq halves, Option.map_some, Option.bind_some]
    split
    · refine ⟨_, _, ?_, through, by simp, ?_⟩
      · rw [← cutAt_eq through]
        simp [byteLength]
      · simp only [length_append, length_cons, length_nil] at size ⊢
        omega
    · exact kept

theorem chunkLoop_spec {limit turns : Nat} {remaining : List Char} (positive : 0 < limit)
    (enough : remaining.length < turns) : ∃ chunks, chunkLoop limit turns remaining = some chunks ∧
      chunks.flatten = remaining ∧ ∀ chunk ∈ chunks, chunk ≠ [] ∧ chunk.length ≤ limit := by
  induction turns generalizing remaining with
  | zero => omega
  | succ turns ih =>
    rw [chunkLoop]
    split
    · next empty => exact ⟨[], rfl, empty.symm, by simp⟩
    split
    · next some short => exact ⟨[remaining], rfl, by simp, by simp [some, short]⟩
    rename_i long
    obtain ⟨chunk, rest, cut, rfl, some, size⟩ := nextChunk_spec positive (Nat.lt_of_not_le long)
    have shorter := length_pos_iff.mpr some
    rw [length_append] at enough
    obtain ⟨chunks, ends, joined, each⟩ := ih (show rest.length < turns by omega)
    refine ⟨chunk :: chunks, ?_, by rw [flatten_cons, joined], ?_⟩
    · rw [cut, Option.bind_eq_bind, Option.bind_some, ends]
      rfl
    · rintro other (_ | ⟨_, hm⟩)
      · exact ⟨some, size⟩
      · exact each other hm

theorem chunks_lose_nothing (text : List Char) (maximum : Nat) :
    ∃ chunks, splitSendTextChunks text maximum = some chunks ∧ chunks.flatten = text ∧
      (∀ chunk ∈ chunks, chunk.length ≤ max 1 maximum) ∧ (text ≠ [] → [] ∉ chunks) := by
  unfold splitSendTextChunks
  rw [Nat.max_comm 1]
  split
  · next short => exact ⟨[text], rfl, by simp, by simpa using short, by simp [eq_comm]⟩
  · obtain ⟨chunks, ends, joined, each⟩ :=
      chunkLoop_spec (le_max_right maximum 1) (Nat.lt_succ_self text.length)
    refine ⟨chunks, ends, joined, fun chunk hm => (each chunk hm).2, fun _ hm => ?_⟩
    exact (each _ hm).1 rfl

end SessionManager.Messages
