import Mathlib.Logic.Function.Basic
import SessionManager.Foundation.Transcripts

/-! Uploads of one app. A call replaces three files one after the other, without a lock; each
replacement takes effect as a whole or fails, and then the call is over. -/
namespace SessionManager.Mobile
open Foundation Function

/-- `details` stands for the uploader, the version and the time. -/
structure Upload (δ : Type) where
  bytes : List UInt8
  details : δ

structure AppArtifactMetadata (δ : Type) where
  artifactHash : String
  sizeBytes : Nat
  details : δ

structure AppFiles (δ : Type) where
  latest : Option (List UInt8)
  hashed : String → Option (List UInt8)
  metadata : Option (AppArtifactMetadata δ)

inductive StorePc
  | latest | exists_ | copy | metadata

/-- The calls in progress, and the uploads whose calls have returned. -/
structure Publishing (δ : Type) where
  files : AppFiles δ
  calls : Nat → Option (Upload δ × StorePc)
  returned : List (Upload δ)

inductive PublishEvent (δ : Type)
  | call (thread : Nat) (upload : Upload δ)
  | advance (thread : Nat)
  | fail (thread : Nat)
  | crash

variable {δ : Type} (digest : List UInt8 → String)

/-- The next statement of a call, and where it goes from there. -/
def storeArtifact (files : AppFiles δ) (upload : Upload δ) : StorePc → AppFiles δ × Option StorePc
  | .latest => ({ files with latest := some upload.bytes }, some .exists_)
  | .exists_ =>
    (files, some (if (files.hashed (digest upload.bytes)).isSome then .metadata else .copy))
  | .copy => ({ files with
      hashed := update files.hashed (digest upload.bytes) (some upload.bytes) }, some .metadata)
  | .metadata => ({ files with
      metadata := some ⟨digest upload.bytes, upload.bytes.length, upload.details⟩ }, none)

def Publishing.step (state : Publishing δ) : PublishEvent δ → Publishing δ × Unit
  | .call thread upload =>
    if upload.bytes = [] ∨ 100 * 1024 * 1024 < upload.bytes.length ∨
        (state.calls thread).isSome then (state, ())
    else ({ state with calls := update state.calls thread (some (upload, .latest)) }, ())
  | .advance thread =>
    match state.calls thread with
    | none => (state, ())
    | some (upload, pc) =>
      let (files, next) := storeArtifact digest state.files upload pc
      (⟨files, update state.calls thread (next.map (upload, ·)),
        if next.isNone then upload :: state.returned else state.returned⟩, ())
  | .fail thread =>
    -- the test for the copy cannot fail
    match state.calls thread with
    | none | some (_, .exists_) => (state, ())
    | some _ => ({ state with calls := update state.calls thread none }, ())
  | .crash => ({ state with calls := fun _ => none }, ())

/-- The latest file is the one that the metadata describe. -/
def AppFiles.Agree (files : AppFiles δ) : Prop :=
  ∀ metadata, files.metadata = some metadata → ∃ bytes, files.latest = some bytes ∧
    bytes.length = metadata.sizeBytes ∧ digest bytes = metadata.artifactHash

def AppFiles.Holds (files : AppFiles δ) (upload : Upload δ) : Prop :=
  files.hashed (digest upload.bytes) = some upload.bytes

/-- A call starts alone and with a prefix of its own, and no crash or failure comes after its first
file. -/
def Undivided (state : Publishing δ) : PublishEvent δ → Prop
  | .call _ upload => (∀ thread, state.calls thread = none) ∧
      ∀ bytes, state.files.hashed (digest upload.bytes) = some bytes → bytes = upload.bytes
  | .advance _ => True
  | .fail thread => ∀ upload pc, state.calls thread = some (upload, pc) → pc = .latest
  | .crash => ∀ thread upload pc, state.calls thread = some (upload, pc) → pc = .latest

/-- What the files are at each point of a call, and when it has returned. -/
def StorePc.Fits (files : AppFiles δ) (upload : Upload δ) : Option StorePc → Prop
  | some .latest => files.Agree digest
  | some .exists_ => files.latest = some upload.bytes
  | some .copy => files.latest = some upload.bytes ∧ files.hashed (digest upload.bytes) = none
  | some .metadata => files.latest = some upload.bytes ∧ files.Holds digest upload
  | none => files.Agree digest ∧ files.Holds digest upload

/-- At most one call is in progress. -/
inductive Serial : Publishing δ → Prop
  | idle {files returned} (agree : files.Agree digest)
      (holds : ∀ upload ∈ returned, files.Holds digest upload) :
      Serial ⟨files, fun _ => none, returned⟩
  | busy {files returned} {thread upload pc} (fits : StorePc.Fits digest files upload (some pc))
      (own : ∀ bytes, files.hashed (digest upload.bytes) = some bytes → bytes = upload.bytes)
      (holds : ∀ upload ∈ returned, files.Holds digest upload) :
      Serial ⟨files, update (fun _ => none) thread (some (upload, pc)), returned⟩

variable {digest}

section

variable {files : AppFiles δ} {upload : Upload δ} {pc : StorePc}
  (fits : StorePc.Fits digest files upload (some pc))
  (own : ∀ bytes, files.hashed (digest upload.bytes) = some bytes → bytes = upload.bytes)
include fits own

theorem storeArtifact_fits : StorePc.Fits digest (storeArtifact digest files upload pc).1 upload
    (storeArtifact digest files upload pc).2 := by
  cases pc with
  | latest => rfl
  | exists_ =>
    unfold storeArtifact
    cases found : files.hashed (digest upload.bytes) with
    | none => exact ⟨fits, found⟩
    | some bytes => exact ⟨fits, by rw [AppFiles.Holds, found, own bytes found]⟩
  | copy => exact ⟨fits.1, update_self ..⟩
  | metadata =>
    refine ⟨?_, fits.2⟩
    rintro _ ⟨⟩
    exact ⟨_, fits.1, rfl, rfl⟩

theorem storeArtifact_own {bytes : List UInt8} (there : (storeArtifact digest files upload
    pc).1.hashed (digest upload.bytes) = some bytes) : bytes = upload.bytes := by
  cases pc with
  | copy => simpa [storeArtifact, eq_comm] using there
  | _ => exact own bytes there

omit own in
theorem storeArtifact_holds {earlier : Upload δ} (holds : files.Holds digest earlier) :
    (storeArtifact digest files upload pc).1.Holds digest earlier := by
  cases pc with
  | copy =>
    have hap : digest earlier.bytes ≠ digest upload.bytes := by
      intro hs
      have gone := fits.2
      rw [← hs, holds] at gone
      cases gone
    exact (update_of_ne hap ..).trans holds
  | _ => exact holds

end

theorem Serial.step {state : Publishing δ} {event : PublishEvent δ} (serial : Serial digest state)
    (undivided : Undivided digest state event) : Serial digest (state.step digest event).1 := by
  cases serial with
  | idle agree holds =>
    cases event with
    | call =>
      simp only [Publishing.step]
      split
      · exact .idle agree holds
      · exact .busy agree undivided.2 holds
    | _ => exact .idle agree holds
  | @busy files returned thread upload pc fits own holds =>
    cases event with
    | call => exact absurd (undivided.1 thread) (by simp)
    | crash =>
      obtain rfl := undivided thread upload pc (by simp)
      exact .idle fits holds
    | fail other =>
      by_cases hs : other = thread
      · subst hs
        obtain rfl := undivided upload pc (by simp)
        simpa [Publishing.step] using Serial.idle fits holds
      · simpa [Publishing.step, hs] using Serial.busy fits own holds
    | advance other =>
      by_cases hs : other = thread
      · subst hs
        have next := storeArtifact_fits fits own
        have kept := fun earlier hm => storeArtifact_holds fits (holds earlier hm)
        simp only [Publishing.step, update_self, update_idem]
        cases goes : (storeArtifact digest files upload pc).2 with
        | none =>
          rw [goes] at next
          simpa using Serial.idle next.1 (List.forall_mem_cons.mpr ⟨next.2, kept⟩)
        | some => exact .busy (goes ▸ next) (fun _ => storeArtifact_own fits own) kept
      · simpa [Publishing.step, hs] using Serial.busy fits own holds

def Publishing.empty : Publishing δ := ⟨⟨none, fun _ => none, none⟩, fun _ => none, []⟩

/-- Whenever no call is in progress, the latest file is the one of the metadata, and what has been
uploaded is found under its prefix, provided that no call was divided. -/
theorem artifacts_agree {events : List (PublishEvent δ)}
    (undivided : Throughout (Undivided digest) (Publishing.step digest) .empty events)
    (quiet : ∀ thread, (reached (Publishing.step digest) .empty events).calls thread = none) :
    (reached (Publishing.step digest) .empty events).files.Agree digest ∧
      ∀ upload ∈ (reached (Publishing.step digest) .empty events).returned,
        (reached (Publishing.step digest) .empty events).files.Holds digest upload := by
  have serial : Serial digest (reached (Publishing.step digest) .empty events) :=
    reached_of_allowed (fun _ _ serial => serial.step)
      (.idle (fun _ there => by cases there) (fun _ hm => by cases hm)) undivided
  generalize reached (Publishing.step digest) .empty events = state at serial quiet
  cases serial with
  | idle agree holds => exact ⟨agree, holds⟩
  | @busy _ _ thread => exact absurd (quiet thread) (by simp)

def lengthPrefix (bytes : List UInt8) : String := if bytes.length = 1 then "01" else "02"

/-- One upload, another that fails at once, and a third. -/
def serialUploads : List (PublishEvent Unit) :=
  [.call 0 ⟨[7], ()⟩, .advance 0, .advance 0, .advance 0, .advance 0, .call 0 ⟨[5, 6], ()⟩, .fail 0,
    .call 0 ⟨[8, 9], ()⟩, .advance 0, .advance 0, .advance 0, .advance 0]

theorem artifacts_agree_of_uploads :
    (reached (Publishing.step lengthPrefix) .empty serialUploads).files.Agree lengthPrefix ∧
      ∀ upload ∈ [(⟨[8, 9], ()⟩ : Upload Unit), ⟨[7], ()⟩],
        (reached (Publishing.step lengthPrefix) .empty serialUploads).files.Holds lengthPrefix
          upload := by
  refine artifacts_agree ?_ ?_
  · refine ⟨⟨fun _ => rfl, ?_⟩, trivial, trivial, trivial, trivial, ⟨?_, ?_⟩, ?_, ⟨?_, ?_⟩, trivial,
      trivial, trivial, trivial, trivial⟩
    · rintro _ ⟨⟩
    · intro thread
      cases thread <;> rfl
    · rintro _ ⟨⟩
    · rintro _ _ ⟨⟩
      rfl
    · intro thread
      cases thread <;> rfl
    · rintro _ ⟨⟩
  · intro thread
    cases thread <;> rfl

/-- The second call is faster: the first one then describes a file that is not the latest. -/
theorem divided_uploads_disagree :
    let state := reached (Publishing.step lengthPrefix) .empty
      [.call 0 ⟨[7], ()⟩, .call 1 ⟨[8, 9], ()⟩, .advance 0, .advance 1, .advance 1, .advance 1,
        .advance 1, .advance 0, .advance 0, .advance 0]
    state.calls 0 = none ∧ state.calls 1 = none ∧ state.files.latest = some [8, 9] ∧
      state.files.metadata = some ⟨"01", 1, ()⟩ := ⟨rfl, rfl, rfl, rfl⟩

end SessionManager.Mobile
