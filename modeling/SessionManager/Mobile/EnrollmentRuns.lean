import SessionManager.Mobile.Enrollments

/-! Pairing tokens over every interleaving of enrolment requests. Every step is one of a few moves that
say what they have found. From them: a token leads to one stored enrolment and one certificate at most,
to none after five failures and to none for a user without interactive access. A rejected request has
changed no enrolment unless the access policy refused the device after its enrolment had been stored:
then the enrolment is revoked and not taken back. -/
namespace SessionManager.Mobile
open Foundation List Option KeyedTable

variable {registration : PairingRegistration} {index : Nat} {entrant : Entrant} {pairing : Pairing}

section

def PairingSystem.acts (system : PairingSystem) : PairingEvent → Option Nat
  | .create _ _ _ _ | .revoke _ _ _ => none
  | .post _ _ => some system.requests.length
  | .lookup index _ | .refuse index | .inspect index _ | .record index _ | .count index _ _
  | .complete index _ | .publish index _ | .undo index _ => some index

/-- The access policy refuses the device of the request. -/
def PairingEvent.failsPublishing (event : PairingEvent) (index : Nat) : Prop :=
  ∃ error, event = .publish index (.error error)

/-- The stages in which nothing was stored and nothing is answered. -/
def Stage.isEarly : Stage → Bool
  | .completed _ _ _ | .undoing _ _ _ _ | .rejected _ | .certified _ _ => false
  | _ => true

def Stage.isFirst : Stage → Bool
  | .opened _ | .rejected _ => true
  | _ => false

inductive Link (allowedUsers : String → Option Bool) (pairings : KeyedTable Pairing.token)
    (refused : Prop) : Stage → Stage → Prop
  | rejected {old : Stage} (error : ApiError) (early : old.isEarly = true) :
      Link allowedUsers pairings refused old (.rejected error)
  | unknown {entrant : Entrant} : Link allowedUsers pairings refused (.opened entrant) .unknown
  | registered {entrant : Entrant} {pairing : Pairing}
      (found : pairings.find entrant.token = some pairing)
      (allowed : allowedUsers pairing.userId = some true) :
      Link allowedUsers pairings refused (.opened entrant)
        (.registered entrant pairing.registration)
  | faulty {entrant : Entrant} {registration : PairingRegistration} (detail : String) :
      Link allowedUsers pairings refused (.registered entrant registration)
        (.faulty entrant.token detail)
  | signed {entrant : Entrant} {registration : PairingRegistration} (chain : String) :
      Link allowedUsers pairings refused (.registered entrant registration)
        (.signed entrant registration chain)
  | certified {entrant : Entrant} {registration : PairingRegistration} {chain : String}
      (response : DeviceEnrollmentResponse) :
      Link allowedUsers pairings refused (.completed entrant registration chain)
        (.certified entrant.token response)
  | undoing {entrant : Entrant} {registration : PairingRegistration} {chain : String}
      (failed : refused) (error : String) :
      Link allowedUsers pairings refused (.completed entrant registration chain)
        (.undoing entrant.token registration.userId entrant.deviceId error)
  | abandoned {token userId deviceId error : String} :
      Link allowedUsers pairings refused (.undoing token userId deviceId error)
        (.rejected ⟨500, error⟩)

inductive PairingMove (allowedUsers : String → Option Bool) (before : PairingSystem)
    (event : PairingEvent) : PairingSystem → Prop
  | still : PairingMove allowedUsers before event before
  | created {pairing : Pairing} (nobody : before.acts event = none)
      (fresh : before.pairings.find pairing.token = none) :
      PairingMove allowedUsers before event
        { before with pairings := before.pairings.insert pairing fresh }
  | revoked (userId deviceId now : String) (nobody : before.acts event = none) :
      PairingMove allowedUsers before event
        { before with enrollments := revokeDevice before.enrollments userId deviceId now }
  | opened {stage : Stage} (own : before.acts event = some before.requests.length)
      (first : stage.isFirst = true) :
      PairingMove allowedUsers before event
        { before with requests := before.requests ++ [stage] }
  | carried {index : Nat} {old next : Stage} (unknownAttempts : Nat)
      (own : before.acts event = some index) (there : before.requests[index]? = some old)
      (link : Link allowedUsers before.pairings (event.failsPublishing index) old next) :
      PairingMove allowedUsers before event { before.carry index next with unknownAttempts }
  | recorded {index : Nat} {token detail : String} (changed : Bool) (now : String)
      (own : before.acts event = some index)
      (there : before.requests[index]? = some (.faulty token detail)) :
      PairingMove allowedUsers before event
        { before.carry index (.counted token detail changed) with
          pairings := addFailure before.pairings token now }
  | completed {index : Nat} {entrant : Entrant} {registration : PairingRegistration}
      {pairing : Pairing} {chain now : String} (own : before.acts event = some index)
      (there : before.requests[index]? = some (.signed entrant registration chain))
      (found : before.pairings.find entrant.token = some pairing)
      (live : pairing.isLive now = true) (few : pairing.failedAttempts < 5) :
      PairingMove allowedUsers before event
        { before.carry index (.completed entrant pairing.registration chain) with
          pairings := markPaired before.pairings entrant.token now
          enrollments :=
            upsertEnrollment before.enrollments (entrant.enrollment pairing.userId now)
          stored :=
            before.stored ++ [(entrant.token, entrant.enrollment pairing.userId now)] }
  | undone {index : Nat} {token userId deviceId error : String} (now : String)
      (own : before.acts event = some index)
      (there : before.requests[index]? = some (.undoing token userId deviceId error)) :
      PairingMove allowedUsers before event
        { before.carry index (.rejected ⟨500, error⟩) with
          enrollments := revokeDevice before.enrollments userId deviceId now }

variable {allowedUsers : String → Option Bool} {system : PairingSystem}

theorem pendingPairingRegistration_some {pairings : KeyedTable Pairing.token} {token now : String}
    (hpe : pendingPairingRegistration pairings token now = some registration) :
    ∃ pairing, pairings.find token = some pairing ∧ pairing.isLive now ∧
      pairing.failedAttempts < 5 ∧ pairing.registration = registration := by
  obtain ⟨pairing, kept, hs⟩ := map_eq_some_iff.mp hpe
  obtain ⟨hf, such⟩ := filter_eq_some_iff.mp kept
  rw [Bool.and_eq_true, decide_eq_true_eq] at such
  exact ⟨_, hf, such.1, such.2, hs⟩

theorem link_lookupStage (outcome : Except String String) (refused : Prop) :
    Link allowedUsers system.pairings refused (.opened entrant)
      (system.lookupStage allowedUsers entrant outcome) := by
  unfold PairingSystem.lookupStage
  split
  · exact .rejected _ rfl
  split
  · exact .unknown
  rename_i hpe
  obtain ⟨_, hf, -, -, rfl⟩ := pendingPairingRegistration_some hpe
  split
  · exact .rejected _ rfl
  · exact .rejected _ rfl
  · next allowed => exact .registered hf allowed

theorem link_inspectStage (verdict : Verdict) (refused : Prop) :
    Link allowedUsers system.pairings refused (.registered entrant registration)
      (PairingSystem.inspectStage entrant registration verdict) := by
  cases verdict with
  | invalidCsr | invalidPublicKey => exact .faulty _
  | unsigned => exact .rejected _ rfl
  | signed => exact .signed _

theorem link_countStage {token detail : String} {changed : Bool} (read audited : Bool)
    (refused : Prop) :
    Link allowedUsers system.pairings refused (.counted token detail changed)
      (system.countStage token detail changed read audited) := by
  unfold PairingSystem.countStage
  generalize (if read then _ else 0) = attempts
  dsimp only
  split
  · exact .rejected _ rfl
  · exact .rejected _ rfl

theorem move_stepPairing (event : PairingEvent) :
    PairingMove allowedUsers system event (stepPairing allowedUsers system event) := by
  cases event with
  | create =>
    rw [stepPairing]
    split
    · exact .still
    · split
      · next hfr => exact .created rfl hfr
      · exact .still
  | revoke _ _ now => exact .revoked _ _ now rfl
  | post =>
    refine .opened rfl ?_
    unfold PairingSystem.opening
    split
    · rfl
    · split <;> rfl
  | lookup _ outcome =>
    rw [stepPairing]
    split
    · next ht => exact .carried _ rfl ht (link_lookupStage outcome _)
    · exact .still
  | refuse =>
    rw [stepPairing]
    split
    · next ht => exact .carried _ rfl ht (.rejected _ rfl)
    · exact .still
  | inspect _ verdict =>
    rw [stepPairing]
    split
    · next ht => exact .carried _ rfl ht (link_inspectStage verdict _)
    · exact .still
  | record =>
    rw [stepPairing]
    split
    · next ht =>
        split
        · exact .carried _ rfl ht (.rejected _ rfl)
        · exact .recorded _ _ rfl ht
    · exact .still
  | count _ read audited =>
    rw [stepPairing]
    split
    · next ht => exact .carried _ rfl ht (link_countStage read audited _)
    · exact .still
  | complete =>
    rw [stepPairing]
    split
    · next ht =>
        split
        · exact .carried _ rfl ht (.rejected _ rfl)
        unfold PairingSystem.completing
        split
        · exact .carried _ rfl ht (.rejected _ rfl)
        · next hpe =>
            obtain ⟨_, hf, live, few, rfl⟩ := pendingPairingRegistration_some hpe
            exact .completed rfl ht hf live few
    · exact .still
  | publish =>
    rw [stepPairing]
    split
    · next ht =>
        split
        · exact .carried _ rfl ht (.undoing ⟨_, rfl⟩ _)
        · exact .carried _ rfl ht (.certified _)
    · exact .still
  | undo =>
    rw [stepPairing]
    split
    · next ht =>
        split
        · exact .carried _ rfl ht .abandoned
        · exact .undone _ rfl ht
    · exact .still

theorem getElem?_carry {old : Stage} (ht : system.requests[index]? = some old)
    (next : Stage) (other : Nat) :
    (system.carry index next).requests[other]? =
      if index = other then some next else system.requests[other]? := by
  have hi := (List.getElem?_eq_some_iff.mp ht).1
  unfold PairingSystem.carry
  rw [getElem?_set, if_pos hi]

end

section

/-- Pairings stay, with their users; failures are only added, and none to a pairing that was used. -/
def Lasting (before after : KeyedTable Pairing.token) : Prop :=
  ∀ pairing ∈ before.rows, ∃ later ∈ after.rows, later.token = pairing.token ∧
    later.userId = pairing.userId ∧ pairing.failedAttempts ≤ later.failedAttempts ∧
    (pairing.pairedAt.isSome = true →
      later.pairedAt.isSome = true ∧ later.failedAttempts = pairing.failedAttempts)

variable (pairings : KeyedTable Pairing.token)

theorem Lasting.refl : Lasting pairings pairings :=
  fun pairing hm => ⟨pairing, hm, rfl, rfl, le_rfl, fun paired => ⟨paired, rfl⟩⟩

theorem Lasting.trans {one two three : KeyedTable Pairing.token} (first : Lasting one two)
    (second : Lasting two three) : Lasting one three := by
  intro _ hm
  obtain ⟨_, ht, token, userId, more, paired⟩ := first _ hm
  obtain ⟨_, hi, token', userId', more', paired'⟩ := second _ ht
  refine ⟨_, hi, token'.trans token, userId'.trans userId, more.trans more', ?_⟩
  intro used
  obtain ⟨still, hs⟩ := paired used
  obtain ⟨yet, same'⟩ := paired' still
  exact ⟨yet, same'.trans hs⟩

theorem lasting_markPaired (token now : String) :
    Lasting pairings (markPaired pairings token now) := by
  intro _ hm
  refine ⟨_, mem_map_of_mem hm, ?_⟩
  split
  · exact ⟨rfl, rfl, le_rfl, fun _ => ⟨rfl, rfl⟩⟩
  · exact ⟨rfl, rfl, le_rfl, fun paired => ⟨paired, rfl⟩⟩

theorem lasting_addFailure (token now : String) :
    Lasting pairings (addFailure pairings token now) := by
  intro pairing hm
  refine ⟨_, mem_map_of_mem hm, ?_⟩
  split
  · next fails =>
      refine ⟨rfl, rfl, Nat.le_succ _, ?_⟩
      intro paired
      -- a failure is added to a pairing that is not used
      have unused := fails.2
      rw [Pairing.isLive, Bool.and_eq_true, isNone_iff_eq_none] at unused
      rw [unused.1] at paired
      cases paired
  · exact ⟨rfl, rfl, le_rfl, fun paired => ⟨paired, rfl⟩⟩

variable {allowedUsers : String → Option Bool} {before after : PairingSystem} {event : PairingEvent}

theorem PairingMove.lasting (move : PairingMove allowedUsers before event after) :
    Lasting before.pairings after.pairings := by
  cases move with
  | still | revoked | opened | carried | undone => exact .refl _
  | created =>
    intro _ hm
    obtain ⟨_, hi, facts⟩ := Lasting.refl _ _ hm
    exact ⟨_, mem_append_left _ hi, facts⟩
  | recorded => exact lasting_addFailure _ _ _
  | completed => exact lasting_markPaired _ _ _

def Stage.used : Stage → Option String
  | .completed entrant _ _ => some entrant.token
  | .undoing token _ _ _ | .certified token _ => some token
  | _ => none

def Stage.admitted : Stage → Option (String × String)
  | .registered entrant registration | .signed entrant registration _ =>
    some (entrant.token, registration.userId)
  | _ => none

structure SingleUse (allowedUsers : String → Option Bool) (system : PairingSystem) : Prop where
  stored : ∀ token enrollment, (token, enrollment) ∈ system.stored →
    allowedUsers enrollment.userId = some true ∧
      ∃ pairing ∈ system.pairings.rows, pairing.token = token ∧
        pairing.userId = enrollment.userId ∧ pairing.pairedAt.isSome = true ∧
        pairing.failedAttempts < 5
  once : (system.stored.map Prod.fst).Nodup
  used : ∀ (index : Nat) (stage : Stage) token, system.requests[index]? = some stage →
    stage.used = some token → token ∈ system.stored.map Prod.fst
  alone : ∀ (one two : Nat) (former latter : Stage) token, system.requests[one]? = some former →
    system.requests[two]? = some latter → former.used = some token → latter.used = some token →
      one = two
  admitted : ∀ (index : Nat) (stage : Stage) token userId, system.requests[index]? = some stage →
    stage.admitted = some (token, userId) → allowedUsers userId = some true ∧
      ∃ pairing ∈ system.pairings.rows, pairing.token = token ∧ pairing.userId = userId

section

variable (single : SingleUse allowedUsers before) (lasting : Lasting before.pairings after.pairings)
include single lasting

theorem SingleUse.stored_lasts {token : String} {enrollment : DeviceEnrollment}
    (hm : (token, enrollment) ∈ before.stored) :
    allowedUsers enrollment.userId = some true ∧
      ∃ pairing ∈ after.pairings.rows, pairing.token = token ∧
        pairing.userId = enrollment.userId ∧ pairing.pairedAt.isSome ∧
        pairing.failedAttempts < 5 := by
  obtain ⟨allowed, pairing, hi, hna, owner, paired, few⟩ :=
    single.stored _ _ hm
  obtain ⟨_, ht, hs, user, -, kept⟩ := lasting _ hi
  obtain ⟨still, count⟩ := kept paired
  exact ⟨allowed, _, ht, hs.trans hna, user.trans owner, still, count ▸ few⟩

/-- A step that stores nothing: what requests have used they had used before, and they are admitted
with what they have found. -/
theorem SingleUse.step (hst : after.stored = before.stored)
    (used : ∀ (index : Nat) (stage : Stage) token, after.requests[index]? = some stage →
      stage.used = some token →
        ∃ old : Stage, before.requests[index]? = some old ∧ old.used = some token)
    (admitted : ∀ (index : Nat) (stage : Stage) token userId,
      after.requests[index]? = some stage → stage.admitted = some (token, userId) →
        (∃ old : Stage, before.requests[index]? = some old ∧ old.admitted = some (token, userId)) ∨
          allowedUsers userId = some true ∧
            ∃ pairing ∈ before.pairings.rows, pairing.token = token ∧ pairing.userId = userId) :
    SingleUse allowedUsers after where
  stored := by
    intro token _ hm
    rw [hst] at hm
    exact single.stored_lasts lasting hm
  once := by
    rw [hst]
    exact single.once
  used := by
    intro index stage token ht uses
    obtain ⟨old, earlier, hs⟩ := used _ _ _ ht uses
    rw [hst]
    exact single.used _ old _ earlier hs
  alone := by
    intro one two _ _ token ht there' uses uses'
    obtain ⟨old, earlier, hs⟩ := used one _ _ ht uses
    obtain ⟨old', earlier', same'⟩ := used two _ _ there' uses'
    exact single.alone one two old old' _ earlier earlier' hs same'
  admitted := by
    intro index stage token userId ht admits
    have hk : allowedUsers userId = some true ∧
        ∃ pairing ∈ before.pairings.rows, pairing.token = token ∧ pairing.userId = userId := by
      rcases admitted index stage token userId ht admits with ⟨old, earlier, hs⟩ | new
      · exact single.admitted _ old _ _ earlier hs
      · exact new
    obtain ⟨allowed, pairing, hi, hna, owner⟩ := hk
    obtain ⟨_, there', hs, user, -⟩ := lasting _ hi
    exact ⟨allowed, _, there', hs.trans hna, user.trans owner⟩

theorem SingleUse.carried (hst : after.stored = before.stored)
    {old next : Stage} (ht : before.requests[index]? = some old)
    (requests : after.requests = (before.carry index next).requests)
    (used : ∀ token, next.used = some token → old.used = some token)
    (admitted : ∀ token userId, next.admitted = some (token, userId) →
      old.admitted = some (token, userId) ∨ allowedUsers userId = some true ∧
        ∃ pairing ∈ before.pairings.rows, pairing.token = token ∧ pairing.userId = userId) :
    SingleUse allowedUsers after := by
  refine single.step lasting hst ?_ ?_
  · intro other stage token hh uses
    rw [requests, getElem?_carry ht] at hh
    split at hh
    · next hs =>
        cases hh
        exact ⟨old, hs ▸ ht, used _ uses⟩
    · exact ⟨_, hh, uses⟩
  · intro other stage token userId hh admits
    rw [requests, getElem?_carry ht] at hh
    split at hh
    · next hs =>
        cases hh
        exact (admitted _ _ admits).imp_left fun had => ⟨old, hs ▸ ht, had⟩
    · exact .inl ⟨_, hh, admits⟩

omit lasting

theorem SingleUse.link {old next : Stage} {refused : Prop} (ht : before.requests[index]? = some old)
    (link : Link allowedUsers before.pairings refused old next) (unknownAttempts : Nat) :
    SingleUse allowedUsers { before.carry index next with unknownAttempts } := by
  refine single.carried (.refl _) rfl ht rfl ?_ ?_
  · intro token uses
    cases link with
    | rejected | unknown | registered | faulty | signed | abandoned => cases uses
    | certified | undoing => exact uses
  · intro token _ admits
    cases link with
    | rejected | unknown | faulty | certified | undoing | abandoned => cases admits
    | registered hf allowed =>
      cases admits
      obtain ⟨hi, hna⟩ := find_some hf
      exact .inr ⟨allowed, _, hi, hna, rfl⟩
    | signed => exact .inl admits

theorem SingleUse.completed {chain now : String}
    (ht : before.requests[index]? = some (.signed entrant registration chain))
    (hf : before.pairings.find entrant.token = some pairing) (live : pairing.isLive now)
    (few : pairing.failedAttempts < 5) (enrollments : KeyedTable DeviceEnrollment.owner) :
    SingleUse allowedUsers { before.carry index (.completed entrant pairing.registration chain) with
        pairings := markPaired before.pairings entrant.token now
        enrollments
        stored :=
          before.stored ++ [(entrant.token, entrant.enrollment pairing.userId now)] } := by
  obtain ⟨inTable, hna⟩ := find_some hf
  rw [Pairing.isLive, Bool.and_eq_true, isNone_iff_eq_none] at live
  have unused : entrant.token ∉ before.stored.map Prod.fst := by
    intro hm
    obtain ⟨⟨token, enrollment⟩, hi, hh⟩ := mem_map.mp hm
    obtain ⟨-, other, row, hs, -, paired, -⟩ := single.stored _ _ hi
    change token = entrant.token at hh
    rw [hh] at hs
    rw [eq_of_key_eq row inTable (hs.trans hna.symm), live.1] at paired
    cases paired
  have lasting := lasting_markPaired before.pairings entrant.token now
  refine ⟨?_, ?_, ?_, ?_, ?_⟩
  · intro token enrollment hm
    rcases mem_snoc.mp hm with old | new
    · exact single.stored_lasts lasting old
    · cases new
      obtain ⟨allowed, first, hi, hs, owner⟩ :=
        single.admitted _ _ entrant.token registration.userId ht rfl
      have one := eq_of_key_eq hi inTable (hs.trans hna.symm)
      refine ⟨?_, { pairing with pairedAt := some now }, ?_, hna, rfl, rfl, few⟩
      · rw [← owner, one] at allowed
        exact allowed
      · refine mem_map.mpr ⟨_, inTable, ?_⟩
        rw [if_pos hna]
  · exact nodup_map_snoc single.once fun old hi hs =>
      unused (mem_map.mpr ⟨old, hi, hs⟩)
  · intro other stage token hh uses
    rw [map_append]
    rw [getElem?_carry ht] at hh
    split at hh
    · cases hh
      cases uses
      exact mem_append_right _ (mem_singleton_self _)
    · exact mem_append_left _ (single.used _ _ _ hh uses)
  · intro one two _ _ token hh here' uses uses'
    rw [getElem?_carry ht] at hh here'
    split at hh
    · next first =>
        split at here'
        · next second => exact first.symm.trans second
        · cases hh
          cases uses
          exact absurd (single.used two _ _ here' uses') unused
    · split at here'
      · cases here'
        cases uses'
        exact absurd (single.used one _ _ hh uses) unused
      · exact single.alone one two _ _ _ hh here' uses uses'
  · intro other stage token _ hh admits
    rw [getElem?_carry ht] at hh
    split at hh
    · cases hh
      cases admits
    · obtain ⟨allowed, _, hi, hs, owner⟩ :=
        single.admitted _ _ _ _ hh admits
      obtain ⟨_, row, token', user, -⟩ := lasting _ hi
      exact ⟨allowed, _, row, token'.trans hs, user.trans owner⟩

theorem SingleUse.move
    (move : PairingMove allowedUsers before event after) : SingleUse allowedUsers after := by
  have lasting := move.lasting
  cases move with
  | still => exact single
  | created =>
    exact single.step lasting rfl (fun _ _ _ hh uses => ⟨_, hh, uses⟩)
      fun _ _ _ _ hh admits => .inl ⟨_, hh, admits⟩
  | revoked =>
    exact ⟨single.stored, single.once, single.used, single.alone, single.admitted⟩
  | @opened stage _ first =>
    have nothing : stage.used = none ∧ stage.admitted = none := by
      unfold Stage.isFirst at first
      split at first
      · exact ⟨rfl, rfl⟩
      · exact ⟨rfl, rfl⟩
      · cases first
    have earlier : ∀ (index : Nat) one, (before.requests ++ [stage])[index]? = some one →
        before.requests[index]? = some one ∨ one = stage := by
      intro index one hh
      rw [getElem?_append] at hh
      split at hh
      · exact .inl hh
      · exact .inr (mem_singleton.mp (mem_of_getElem? hh))
    refine single.step lasting rfl ?_ ?_
    · intro index one token hh uses
      rcases earlier index one hh with old | rfl
      · exact ⟨one, old, uses⟩
      · rw [nothing.1] at uses
        cases uses
    · intro index one token _ hh admits
      rcases earlier index one hh with old | rfl
      · exact .inl ⟨one, old, admits⟩
      · rw [nothing.2] at admits
        cases admits
  | carried _ _ ht link => exact single.link ht link _
  | recorded _ _ _ ht | undone _ _ ht =>
    exact single.carried lasting rfl ht rfl (fun _ uses => nomatch uses)
      fun _ _ admits => nomatch admits
  | completed _ ht hf live few => exact single.completed ht hf live few _

end

theorem singleUse_noDevices : SingleUse allowedUsers noDevices where
  stored := by
    intro _ _ hm
    cases hm
  once := nodup_nil
  used := by
    intro index _ _ ht
    cases ht
  alone := by
    intro _ _ _ _ _ ht
    cases ht
  admitted := by
    intro index _ _ _ ht
    cases ht

/-- Where the enrolments in the table come from, apart from their revocation. -/
def Traced (system : PairingSystem) : Prop :=
  ∀ enrollment ∈ system.enrollments.rows,
    ∃ token, (token, { enrollment with revokedAt := none }) ∈ system.stored

theorem mem_upsertEnrollment {enrollments : KeyedTable DeviceEnrollment.owner}
    {enrollment other : DeviceEnrollment}
    (hm : other ∈ (upsertEnrollment enrollments enrollment).rows) :
    other ∈ enrollments.rows ∨ other = enrollment := by
  unfold upsertEnrollment at hm
  split at hm
  · exact (mem_append.mp hm).imp_right mem_singleton.mp
  · obtain ⟨_, hi, hs⟩ := mem_map.mp hm
    split at hs
    · exact .inr hs.symm
    · exact .inl (hs ▸ hi)

theorem traced_revokeDevice (traced : Traced before) (userId deviceId now : String)
    (hst : after.stored = before.stored)
    (enrollments : after.enrollments = revokeDevice before.enrollments userId deviceId now) :
    Traced after := by
  intro _ hm
  rw [enrollments] at hm
  obtain ⟨old, hi, hs⟩ := mem_map.mp hm
  rw [hst]
  obtain ⟨token, hk⟩ := traced old hi
  refine ⟨token, ?_⟩
  split at hs
  · rw [← hs]
    exact hk
  · rw [← hs]
    exact hk

theorem Traced.move (traced : Traced before)
    (move : PairingMove allowedUsers before event after) : Traced after := by
  cases move with
  | still | created | opened | carried | recorded => exact traced
  | revoked | undone => exact traced_revokeDevice traced _ _ _ rfl rfl
  | completed =>
    intro _ hm
    rcases mem_upsertEnrollment hm with old | rfl
    · obtain ⟨_, hk⟩ := traced _ old
      exact ⟨_, mem_append_left _ hk⟩
    · exact ⟨_, mem_append_right _ (mem_singleton_self _)⟩

end

section

def Stage.isUndoing : Stage → Bool
  | .undoing _ _ _ _ => true
  | _ => false

/-- The stages of a request that has stored its enrolment and is not refused. -/
def Stage.isDone : Stage → Bool
  | .completed _ _ _ | .certified _ _ => true
  | _ => false

variable {allowedUsers : String → Option Bool} {before after : PairingSystem} {event : PairingEvent}
  {index : Nat}

theorem not_early_of_done {stage : Stage} (hd : stage.isDone) : stage.isEarly = false := by
  cases stage with
  | completed | certified => rfl
  | opened | unknown | registered | faulty | counted | signed | undoing | rejected => cases hd

theorem PairingMove.requests_of_other (move : PairingMove allowedUsers before event after)
    (other : before.acts event ≠ some index) :
    after.requests[index]? = before.requests[index]? := by
  have hap : ∀ {place : Nat}, before.acts event = some place → place ≠ index := by
    rintro place own rfl
    exact other own
  cases move with
  | still | created | revoked => rfl
  | opened own =>
    have hne := hap own
    rw [getElem?_append]
    split
    · rfl
    · rw [getElem?_eq_none (by simp; omega), getElem?_eq_none (by omega)]
  | carried _ own ht | recorded _ _ own ht | completed own ht | undone _ own ht =>
    exact (getElem?_carry ht _ _).trans (if_neg (hap own))

/-- The request is not being undone. -/
def PairingSystem.Calm (system : PairingSystem) (index : Nat) : Prop :=
  ∀ stage : Stage, system.requests[index]? = some stage → stage.isUndoing = false

def PairingSystem.Done (system : PairingSystem) (index : Nat) : Prop :=
  ∃ stage : Stage, system.requests[index]? = some stage ∧ stage.isDone = true

theorem PairingMove.own_stage (move : PairingMove allowedUsers before event after)
    (own : before.acts event = some index) (published : ¬event.failsPublishing index)
    (calm : before.Calm index) :
    after.Calm index ∧ (before.Done index → after.Done index) ∧
      (after.enrollments = before.enrollments ∨ after.Done index) := by
  have hh : ∀ {place : Nat}, before.acts event = some place → place = index := by
    intro place hs
    rw [own] at hs
    exact (Option.some.inj hs).symm
  have carries : ∀ {old : Stage} (next : Stage), before.requests[index]? = some old →
      (before.carry index next).requests[index]? = some next :=
    fun next ht => (getElem?_carry ht next _).trans (if_pos rfl)
  cases move with
  | still => exact ⟨calm, id, .inl rfl⟩
  | created nobody | revoked _ _ _ nobody =>
    rw [own] at nobody
    cases nobody
  | @opened stage own' first =>
    cases hh own'
    have last : (before.requests ++ [stage])[before.requests.length]? = some stage := by simp
    refine ⟨?_, ?_, .inl rfl⟩
    · intro other ht
      rw [last] at ht
      cases ht
      unfold Stage.isFirst at first
      split at first
      · rfl
      · rfl
      · cases first
    · rintro ⟨other, ht, _⟩
      rw [getElem?_eq_none le_rfl] at ht
      cases ht
  | @carried _ _ next _ own' ht link =>
    cases hh own'
    have stage := carries next ht
    refine ⟨?_, ?_, .inl rfl⟩
    · intro other there'
      cases stage.symm.trans there'
      cases link with
      | undoing failed => exact absurd failed published
      | rejected | unknown | registered | faulty | signed | certified | abandoned => rfl
    · rintro ⟨other, there', hd⟩
      cases ht.symm.trans there'
      refine ⟨next, stage, ?_⟩
      cases link with
      | undoing failed => exact absurd failed published
      | certified => rfl
      | unknown | registered | faulty | signed | abandoned => cases hd
      | rejected _ early =>
        rw [not_early_of_done hd] at early
        cases early
  | @recorded _ token detail changed _ own' ht =>
    cases hh own'
    have stage := carries (.counted token detail changed) ht
    refine ⟨?_, ?_, .inl rfl⟩
    · intro other there'
      cases stage.symm.trans there'
      rfl
    · rintro ⟨other, there', hd⟩
      cases ht.symm.trans there'
      cases hd
  | @completed _ entrant _ pairing chain _ own' ht =>
    cases hh own'
    have stage := carries (.completed entrant pairing.registration chain) ht
    refine ⟨?_, ?_, .inr ⟨_, stage, rfl⟩⟩
    · intro other there'
      cases stage.symm.trans there'
      rfl
    · rintro ⟨other, there', hd⟩
      cases ht.symm.trans there'
      cases hd
  | undone _ own' ht =>
    cases hh own'
    cases calm _ ht

theorem calm_runPairing {system : PairingSystem} {events : List PairingEvent}
    (published : ∀ event ∈ events, ¬event.failsPublishing index) (calm : system.Calm index) :
    (runPairing allowedUsers system events).Calm index ∧
      (system.Done index → (runPairing allowedUsers system events).Done index) := by
  induction events generalizing system with
  | nil => exact ⟨calm, id⟩
  | cons event _ ih =>
    have move := @move_stepPairing allowedUsers system event
    have step : (stepPairing allowedUsers system event).Calm index ∧
        (system.Done index → (stepPairing allowedUsers system event).Done index) := by
      by_cases own : system.acts event = some index
      · obtain ⟨still, hd, -⟩ :=
          move.own_stage own (published _ mem_cons_self) calm
        exact ⟨still, hd⟩
      · unfold PairingSystem.Calm PairingSystem.Done
        rw [move.requests_of_other own]
        exact ⟨calm, id⟩
    obtain ⟨still, hd⟩ :=
      ih (fun _ hm => published _ (mem_cons_of_mem _ hm)) step.1
    exact ⟨still, hd ∘ step.2⟩

end

section

variable {allowedUsers : String → Option Bool} {earlier later : List PairingEvent}

theorem runPairing_of_moves {invariant : PairingSystem → Prop} {system : PairingSystem}
    (hke : ∀ before event after, PairingMove allowedUsers before event after →
      invariant before → invariant after)
    (holds : invariant system) (events : List PairingEvent) :
    invariant (runPairing allowedUsers system events) := by
  induction events generalizing system with
  | nil => exact holds
  | cons event _ ih => exact ih (hke _ _ _ (move_stepPairing _) holds)

variable (system : PairingSystem)

theorem runPairing_append (earlier later : List PairingEvent) :
    runPairing allowedUsers system (earlier ++ later) =
      runPairing allowedUsers (runPairing allowedUsers system earlier) later :=
  foldl_append

variable (events : List PairingEvent)

theorem singleUse_runPairing : SingleUse allowedUsers (runPairing allowedUsers noDevices events) :=
  @runPairing_of_moves allowedUsers (SingleUse allowedUsers) noDevices
    (fun _ _ _ move single => single.move move) singleUse_noDevices events

theorem traced_runPairing : Traced (runPairing allowedUsers noDevices events) := by
  refine @runPairing_of_moves _ Traced noDevices
    (fun _ _ _ move traced => traced.move move) ?_ _
  intro _ hm
  cases hm

theorem lasting_runPairing (events : List PairingEvent) :
    Lasting system.pairings (runPairing allowedUsers system events).pairings :=
  @runPairing_of_moves allowedUsers (fun later => Lasting system.pairings later.pairings) system
    (fun _ _ _ move lasting => lasting.trans move.lasting) (.refl _) events

theorem locked_out (hm : pairing ∈ (runPairing allowedUsers noDevices earlier).pairings.rows)
    (failed : 5 ≤ pairing.failedAttempts) :
    pairing.token ∉ (runPairing allowedUsers noDevices (earlier ++ later)).stored.map Prod.fst := by
  rw [runPairing_append]
  obtain ⟨_, hi, hna, -, _, -⟩ :=
    @lasting_runPairing _ _ _ _ hm
  intro used
  obtain ⟨⟨_, _⟩, hst, hs⟩ := mem_map.mp used
  rw [← runPairing_append] at hst hi
  obtain ⟨-, _, row, token', -, -, few⟩ :=
    (@singleUse_runPairing _ (_ ++ _)).stored _ _ hst
  rw [eq_of_key_eq row hi (token'.trans (hs.trans hna.symm))] at few
  omega

/-- The steps of a request that ends rejected leave the enrolments, unless the policy refuses it. -/
theorem unchanged_of_rejected {event : PairingEvent} {error : ApiError}
    (own : (runPairing allowedUsers noDevices earlier).acts event = some index)
    (rejected : (runPairing allowedUsers noDevices
      (earlier ++ event :: later)).requests[index]? = some (.rejected error))
    (published : ∀ other ∈ earlier ++ event :: later, ¬other.failsPublishing index) :
    (runPairing allowedUsers noDevices (earlier ++ [event])).enrollments =
      (runPairing allowedUsers noDevices earlier).enrollments := by
  have start : noDevices.Calm index := by
    intro _ h
    cases h
  have calm := (@calm_runPairing allowedUsers _ noDevices _
    (fun _ hm => published _ (mem_append_left _ hm)) start).1
  obtain ⟨still, -, hun | hd⟩ :=
    (@move_stepPairing _ _ _).own_stage own
      (published _ (mem_append_right _ mem_cons_self)) calm
  · rw [runPairing_append]
    exact hun
  · -- the request has stored its enrolment and is on its way to a certificate
    rw [runPairing_append] at rejected
    obtain ⟨_, end_, certified⟩ := (@calm_runPairing _ _ _ _ (fun _ hm =>
        published _ (mem_append_right _ (mem_cons_of_mem _ hm)))
      still).2 hd
    cases end_.symm.trans rejected
    cases certified

/-- Tokens are used once, locked out and only for users with interactive access; the enrolments in the
table are those that tokens have led to. A request that ends rejected has left the enrolments as they
were if the access policy has not refused its device. -/
theorem pairing_tokens_single_use (allowedUsers : String → Option Bool)
    (events : List PairingEvent) :
    Traced (runPairing allowedUsers noDevices events) ∧
    ((runPairing allowedUsers noDevices events).stored.map Prod.fst).Nodup ∧
    (∀ token enrollment, (token, enrollment) ∈ (runPairing allowedUsers noDevices events).stored →
      allowedUsers enrollment.userId = some true) ∧
    (∀ (index : Nat) token response,
      (runPairing allowedUsers noDevices events).requests[index]? =
        some (.certified token response) →
      token ∈ (runPairing allowedUsers noDevices events).stored.map Prod.fst) ∧
    (∀ (one two : Nat) token first second,
      (runPairing allowedUsers noDevices events).requests[one]? = some (.certified token first) →
      (runPairing allowedUsers noDevices events).requests[two]? = some (.certified token second) →
      one = two) ∧
    (∀ earlier later, events = earlier ++ later →
      ∀ pairing ∈ (runPairing allowedUsers noDevices earlier).pairings.rows,
        5 ≤ pairing.failedAttempts →
        pairing.token ∉ (runPairing allowedUsers noDevices events).stored.map Prod.fst) ∧
    ∀ earlier event later (index : Nat) error, events = earlier ++ event :: later →
      (runPairing allowedUsers noDevices earlier).acts event = some index →
      (runPairing allowedUsers noDevices events).requests[index]? = some (.rejected error) →
      (∀ other ∈ events, ¬other.failsPublishing index) →
      (runPairing allowedUsers noDevices (earlier ++ [event])).enrollments =
        (runPairing allowedUsers noDevices earlier).enrollments := by
  have single := @singleUse_runPairing allowedUsers events
  refine ⟨traced_runPairing events, single.once, ?_, ?_, ?_, ?_, ?_⟩
  · intro token enrollment member
    exact (single.stored token enrollment member).1
  · intro index token response there
    exact single.used index _ token there rfl
  · intro one two token first second there there'
    exact single.alone one two _ _ token there there' rfl rfl
  · rintro earlier later rfl pairing member failed
    exact locked_out member failed
  · rintro earlier event later index error rfl own rejected published
    exact unchanged_of_rejected own rejected published

theorem pairings_last (allowedUsers : String → Option Bool) (earlier later : List PairingEvent) :
    Lasting (runPairing allowedUsers noDevices earlier).pairings
      (runPairing allowedUsers noDevices (earlier ++ later)).pairings := by
  rw [runPairing_append]
  exact lasting_runPairing _ later

def ownerOnly (userId : String) : Option Bool := if userId = "owner" then some true else none

def enrollPhone : List PairingEvent :=
  [.create "t1" "owner" "10:00" "11:00", .post "t1" ⟨"phone", "My phone", "key1"⟩,
    .lookup 0 (.ok "10:01"), .inspect 0 (.signed "chain1"), .complete 0 (.ok "10:02"),
    .publish 0 (.ok ())]

/-- The phone enrols again with another key, and the policy refuses it. -/
def enrollPhoneAgain : List PairingEvent :=
  [.create "t2" "owner" "10:10" "11:10", .post "t2" ⟨"phone", "My phone", "key2"⟩,
    .lookup 1 (.ok "10:11"), .inspect 1 (.signed "chain2"), .complete 1 (.ok "10:12"),
    .publish 1 (.error "policy update failed"), .undo 1 (.ok "10:13")]

/-- A second request with a token that was used is rejected and leaves the enrolment. -/
theorem pairing_tokens_single_use_of_phone :
    (runPairing ownerOnly noDevices (enrollPhone ++
        [.post "t1" ⟨"tablet", "", "key2"⟩, .lookup 1 (.ok "10:03"), .refuse 1])).requests[1]? =
      some (.rejected tokenRejected) ∧
    (runPairing ownerOnly noDevices (enrollPhone ++
        [.post "t1" ⟨"tablet", "", "key2"⟩, .lookup 1 (.ok "10:03"), .refuse 1])).enrollments =
      (runPairing ownerOnly noDevices (enrollPhone ++
        [.post "t1" ⟨"tablet", "", "key2"⟩, .lookup 1 (.ok "10:03")])).enrollments := by
  have rejected : (runPairing ownerOnly noDevices (enrollPhone ++
      [.post "t1" ⟨"tablet", "", "key2"⟩, .lookup 1 (.ok "10:03"), .refuse 1])).requests[1]? =
        some (.rejected tokenRejected) := by
    decide +kernel
  have split : enrollPhone ++
      [.post "t1" ⟨"tablet", "", "key2"⟩, .lookup 1 (.ok "10:03"), .refuse 1] =
        (enrollPhone ++ [.post "t1" ⟨"tablet", "", "key2"⟩, .lookup 1 (.ok "10:03")]) ++
          [.refuse 1] := rfl
  have published : ∀ other ∈ enrollPhone ++
      [.post "t1" ⟨"tablet", "", "key2"⟩, .lookup 1 (.ok "10:03"), .refuse 1],
        ¬other.failsPublishing 1 := by
    rintro _ member ⟨error, rfl⟩
    simp [enrollPhone] at member
  have unchanged := (pairing_tokens_single_use ownerOnly _).2.2.2.2.2.2 _ _ _ 1 _ split rfl
    rejected published
  exact ⟨rejected, split ▸ unchanged⟩

/-- The second request is answered with an error, and the phone, which was enrolled before, is left
with the key of the rejected request and revoked. -/
theorem enrollment_lost_by_rejected_request :
    (runPairing ownerOnly noDevices enrollPhone).enrollments.rows =
        [⟨"owner", "phone", "My phone", "key1", "phone", "10:02", none⟩] ∧
      (runPairing ownerOnly noDevices (enrollPhone ++ enrollPhoneAgain)).requests[1]? =
        some (.rejected ⟨500, "policy update failed"⟩) ∧
      (runPairing ownerOnly noDevices (enrollPhone ++ enrollPhoneAgain)).enrollments.rows =
        [⟨"owner", "phone", "My phone", "key2", "phone", "10:12", some "10:13"⟩] := by
  decide +kernel

end

end SessionManager.Mobile
