import SessionManager.Foundation.Transcripts
import SessionManager.Mobile.Enrollments

/-! What follows from an enrolment and from a revocation: the row of the device, the set of revoked keys
that the server holds in memory, and the names that the policy of the edge allows. The two gates read
the row, the set and the configured keys, each in its own way; the policy knows only names. -/
namespace SessionManager.Mobile
open Foundation List KeyedTable

structure AccessRule where
  certificate : Bool
  commonName : Option String
  deriving DecidableEq

inductive DevicePolicyAction
  | allow
  | revoke
  deriving DecidableEq

def emptyDeviceCommonName : String := "__sm_no_enrolled_mobile_devices__"

def mutatePolicyCommonNameAllowlist (rules : List AccessRule) (commonName : String)
    (action : DevicePolicyAction) : List AccessRule :=
  let kept := rules.filter fun rule => !rule.certificate && rule.commonName.all fun value =>
    value ≠ commonName && value ≠ emptyDeviceCommonName
  let named := if action = .allow then kept ++ [⟨false, some commonName⟩] else kept
  if named.any fun rule => rule.commonName.isSome then named
  else named ++ [⟨false, some emptyDeviceCommonName⟩]

structure DeviceState where
  enrollments : KeyedTable DeviceEnrollment.owner
  revokedKeys : List (String × String)
  rules : List AccessRule

inductive DeviceEvent
  | enroll (userId : String) (entrant : Entrant) (now : String)
  | revoke (userId deviceId now : String)

def DeviceEvent.owner : DeviceEvent → String × String
  | enroll userId entrant _ => (userId, entrant.deviceId)
  | revoke userId deviceId _ => (userId, deviceId)

def DeviceEvent.isEnroll : DeviceEvent → Bool
  | enroll .. => true
  | revoke .. => false

def stepDevices (state : DeviceState) : DeviceEvent → DeviceState
  | .enroll userId entrant now =>
    { state with
      enrollments := upsertEnrollment state.enrollments (entrant.enrollment userId now)
      rules := mutatePolicyCommonNameAllowlist state.rules entrant.deviceId .allow }
  | .revoke userId deviceId now =>
    { enrollments := revokeDevice state.enrollments userId deviceId now
      revokedKeys := state.revokedKeys.insert (userId, deviceId)
      rules := mutatePolicyCommonNameAllowlist state.rules deviceId .revoke }

def devicesAfter (rules : List AccessRule) (events : List DeviceEvent) : DeviceState :=
  events.foldl stepDevices ⟨.empty, [], rules⟩

def activeDevicePublicKey (enrollments : KeyedTable DeviceEnrollment.owner)
    (owner : String × String) : Option String :=
  ((enrollments.find owner).filter fun row => row.revokedAt.isNone).map DeviceEnrollment.publicKeyPem

structure RegisteredDeviceKey where
  id : String
  publicKey : String
  enabled : Bool

def RegisteredDeviceKey.names (key : RegisteredDeviceKey) (deviceId : String) : Bool :=
  key.enabled && trim key.id = deviceId && trim key.publicKey ≠ ""

def mobileTerminalDevicePublicKey (state : DeviceState) (keys : List RegisteredDeviceKey)
    (userId deviceKeyId : String) : Option String :=
  if (userId, deviceKeyId) ∈ state.revokedKeys then none
  else match keys.find? fun key => key.names deviceKeyId with
    | some key => some key.publicKey
    | none => activeDevicePublicKey state.enrollments (userId, deviceKeyId)

def mobileCloudflareAccessDeviceEnrolledForUser (state : DeviceState)
    (keys : List RegisteredDeviceKey) (userId deviceCommonName : String) : Bool :=
  let name := trim deviceCommonName
  if name = "" then false
  else if keys.any fun key => key.names name && (userId, name) ∉ state.revokedKeys then true
  else (activeDevicePublicKey state.enrollments (userId, name)).isSome

def LatestEnrolls (events : List DeviceEvent) (owner : String × String) : Prop :=
  ((events.filter fun event => event.owner = owner).getLast?).any DeviceEvent.isEnroll = true

def allowedNames (rules : List AccessRule) : List String := rules.filterMap AccessRule.commonName

def DeviceState.Enrolled (state : DeviceState) (deviceId : String) : Prop :=
  ∃ userId, (activeDevicePublicKey state.enrollments (userId, deviceId)).isSome = true

/-- The policy allows the enrolled devices, or only the placeholder, and no certificate as such. -/
structure Allowlisted (state : DeviceState) : Prop where
  named : ∀ rule ∈ state.rules, rule.certificate = false
  names : ∀ name, name ∈ allowedNames state.rules ↔ state.Enrolled name ∨
    name = emptyDeviceCommonName ∧ ∀ other, ¬state.Enrolled other

/-- No other user has an enrolment of the device that is revoked. -/
def DeviceEvent.Alone (state : DeviceState) (event : DeviceEvent) : Prop :=
  event.isEnroll = false → ∀ userId, userId ≠ event.owner.1 →
    ¬(activeDevicePublicKey state.enrollments (userId, event.owner.2)).isSome = true

structure Listed (state : DeviceState) : Prop where
  named : ∀ rule ∈ state.rules, rule.certificate = false
  names : ∀ name, name ≠ emptyDeviceCommonName →
    (name ∈ allowedNames state.rules ↔ state.Enrolled name)
  impossible : ¬state.Enrolled emptyDeviceCommonName

variable (state : DeviceState) (event : DeviceEvent)

theorem activeDevicePublicKey_step (owner : String × String) :
    (activeDevicePublicKey (stepDevices state event).enrollments owner).isSome =
      if event.owner = owner then event.isEnroll
      else (activeDevicePublicKey state.enrollments owner).isSome := by
  unfold activeDevicePublicKey
  cases event with
  | enroll userId entrant now =>
    have own : (entrant.enrollment userId now).owner = (userId, entrant.deviceId) := rfl
    change _ = if (userId, entrant.deviceId) = owner then true else _
    simp only [stepDevices, upsertEnrollment]
    by_cases hh : (userId, entrant.deviceId) = owner
    · split
      · next hfr =>
        rw [own, hh] at hfr
        rw [find_insert, hfr, own, if_pos hh]
        rfl
      rename_i taken
      rw [own, hh] at taken
      obtain ⟨row, hf⟩ := Option.ne_none_iff_exists'.mp taken
      rw [find_update, hf, Option.map_some, (find_some hf).2, own, if_pos hh.symm]
      rfl
    · split
      · simp [find_insert, own, hh]
      · rw [find_update]
        cases hf : state.enrollments.find owner with
        | none => rfl
        | some row => simp [(find_some hf).2, own, Ne.symm hh]
  | revoke userId deviceId now =>
    simp only [stepDevices, revokeDevice, DeviceEvent.owner, DeviceEvent.isEnroll]
    rw [find_update]
    cases hf : state.enrollments.find owner with
    | none => exact (ite_self (c := (_, _) = _) false).symm
    | some row =>
      have hna : row.owner = owner := (find_some hf).2
      have hs : (row.userId = userId ∧ row.deviceId = deviceId) ↔ (userId, deviceId) = owner := by
        rw [← hna, Prod.mk.injEq]
        exact and_congr eq_comm eq_comm
      by_cases hh : (userId, deviceId) = owner
      · obtain ⟨user, device⟩ := hs.mpr hh
        cases revoked : row.revokedAt <;> simp [hh, user, device, revoked]
      · have hap : ¬(row.userId = userId ∧ row.deviceId = deviceId ∧ row.revokedAt = none) :=
          fun ⟨user, device, _⟩ => hh (hs.mp ⟨user, device⟩)
        simp [hh, hap]

theorem mem_allowedNames_mutated {rules : List AccessRule}
    (hna : ∀ rule ∈ rules, rule.certificate = false) (commonName : String)
    (action : DevicePolicyAction) :
    let kept other := other ∈ allowedNames rules ∧ other ≠ commonName ∧
      other ≠ emptyDeviceCommonName ∨ action = .allow ∧ other = commonName
    (∀ rule ∈ mutatePolicyCommonNameAllowlist rules commonName action, rule.certificate = false) ∧
    ∀ name, name ∈ allowedNames (mutatePolicyCommonNameAllowlist rules commonName action) ↔
      kept name ∨ name = emptyDeviceCommonName ∧ ∀ other, ¬kept other := by
  intro kept
  unfold mutatePolicyCommonNameAllowlist
  extract_lets rest middle
  have hi : ∀ rule, rule ∈ middle ↔ (rule ∈ rules ∧ ∀ value, rule.commonName = some value →
      value ≠ commonName ∧ value ≠ emptyDeviceCommonName) ∨
      action = .allow ∧ rule = ⟨false, some commonName⟩ := by
    intro rule
    have filtered : rule ∈ rest ↔ rule ∈ rules ∧ ∀ value, rule.commonName = some value →
        value ≠ commonName ∧ value ≠ emptyDeviceCommonName := by
      simp only [rest, mem_filter, Bool.and_eq_true, Option.all_eq_true]
      grind
    by_cases allows : action = .allow <;> simp [middle, allows, filtered]
  have names : ∀ name, name ∈ allowedNames middle ↔ kept name := by
    simp only [allowedNames, mem_filterMap, kept, hi]
    grind
  have some_named : (middle.any fun rule => rule.commonName.isSome) ↔ ∃ other, kept other := by
    simp only [← names, allowedNames, mem_filterMap, any_eq_true, Option.isSome_iff_exists]
    grind
  split
  · grind
  · simp only [allowedNames, filterMap_append, mem_append] at names ⊢
    grind

theorem enrolled_step (deviceId : String) :
    (stepDevices state event).Enrolled deviceId ↔ if deviceId = event.owner.2 then
      event.isEnroll ∨ ∃ userId, userId ≠ event.owner.1 ∧
        (activeDevicePublicKey state.enrollments (userId, deviceId)).isSome
      else state.Enrolled deviceId := by
  rcases hna : event.owner with ⟨user, device⟩
  simp only [DeviceState.Enrolled, activeDevicePublicKey_step, hna, Prod.mk.injEq]
  by_cases hh : deviceId = device
  · rw [if_pos hh]
    constructor
    · grind
    · rintro (enrolls | ⟨userId, other, active⟩)
      · exact ⟨user, by simp [hh, enrolls]⟩
      · exact ⟨userId, by simp [other.symm, active]⟩
  · simp [hh, Ne.symm hh]

theorem Listed.step {state : DeviceState} (hli : Listed state) {event : DeviceEvent}
    (possible : event.owner.2 ≠ emptyDeviceCommonName) :
    (Allowlisted (stepDevices state event) ↔ event.Alone state) ∧
      (event.Alone state → Listed (stepDevices state event)) := by
  obtain ⟨hna, names, h⟩ := hli
  have enrolled := enrolled_step state event
  have edited : (stepDevices state event).rules = mutatePolicyCommonNameAllowlist state.rules
      event.owner.2 (if event.isEnroll then .allow else .revoke) := by
    cases event <;> rfl
  obtain ⟨certificates, allowed⟩ := mem_allowedNames_mutated hna event.owner.2
    (if event.isEnroll then .allow else .revoke)
  rw [← edited] at certificates allowed
  have kept : ∀ name, (name ∈ allowedNames state.rules ∧ name ≠ event.owner.2 ∧
      name ≠ emptyDeviceCommonName ∨ (if event.isEnroll then DevicePolicyAction.allow else .revoke) =
        .allow ∧ name = event.owner.2) ↔
      if name = event.owner.2 then event.isEnroll = true else state.Enrolled name := by
    cases event.isEnroll <;> grind
  simp only [kept] at allowed
  by_cases alone : event.Alone state
  · have hs : ∀ name, (stepDevices state event).Enrolled name ↔
        if name = event.owner.2 then event.isEnroll = true else state.Enrolled name := by
      unfold DeviceEvent.Alone at alone
      grind
    exact ⟨iff_of_true ⟨certificates, by simpa only [hs] using allowed⟩ alone,
      fun _ => ⟨certificates, by grind, by grind⟩⟩
  · refine ⟨iff_of_false (fun all => ?_) alone, fun h => absurd h alone⟩
    have names := all.names event.owner.2
    unfold DeviceEvent.Alone at alone
    grind

variable (rules : List AccessRule) (events : List DeviceEvent) (owner : String × String)

theorem devicesAfter_append :
    devicesAfter rules (events ++ [event]) = stepDevices (devicesAfter rules events) event := by
  rw [devicesAfter, foldl_append]
  rfl

theorem active_iff_latest :
    (activeDevicePublicKey (devicesAfter rules events).enrollments owner).isSome ↔
      LatestEnrolls events owner := by
  induction events using List.reverseRecOn with
  | nil => simp [devicesAfter, activeDevicePublicKey, KeyedTable.find, LatestEnrolls]
  | append_singleton events event ih =>
    rw [devicesAfter_append, activeDevicePublicKey_step, LatestEnrolls]
    by_cases hh : event.owner = owner
    · simp [hh]
    · simpa [hh, LatestEnrolls] using ih

theorem mem_revokedKeys : owner ∈ (devicesAfter rules events).revokedKeys ↔
    ∃ event ∈ events, event.owner = owner ∧ event.isEnroll = false := by
  induction events using List.reverseRecOn with
  | nil => simp [devicesAfter]
  | append_singleton events event ih =>
    rw [devicesAfter_append]
    cases event with
    | enroll => simp [stepDevices, ih, DeviceEvent.isEnroll]
    | revoke =>
      simp only [stepDevices, mem_insert_iff, ih, mem_append, mem_singleton,
        or_and_right, exists_or, exists_eq_left, DeviceEvent.owner, DeviceEvent.isEnroll, and_true]
      rw [or_comm, eq_comm]

variable (keys : List RegisteredDeviceKey) (userId deviceId : String)

theorem isSome_mobileTerminalDevicePublicKey :
    (mobileTerminalDevicePublicKey state keys userId deviceId).isSome ↔
      (userId, deviceId) ∉ state.revokedKeys ∧ ((∃ key ∈ keys, key.names deviceId) ∨
        (activeDevicePublicKey state.enrollments (userId, deviceId)).isSome) := by
  unfold mobileTerminalDevicePublicKey
  split
  · next gone => simp [gone]
  rename_i kept
  split
  · next key hf =>
    simp only [Option.isSome_some, true_iff]
    have hna := find?_some hf
    exact ⟨kept, .inl ⟨key, mem_of_find?_eq_some hf, hna⟩⟩
  · next hab => simp_all

theorem mobileCloudflareAccessDeviceEnrolledForUser_iff (trimmed : trim deviceId = deviceId)
    (nonempty : deviceId ≠ "") :
    mobileCloudflareAccessDeviceEnrolledForUser state keys userId deviceId ↔
      ((userId, deviceId) ∉ state.revokedKeys ∧ ∃ key ∈ keys, key.names deviceId) ∨
        (activeDevicePublicKey state.enrollments (userId, deviceId)).isSome := by
  by_cases gone : (userId, deviceId) ∈ state.revokedKeys <;>
    simp [mobileCloudflareAccessDeviceEnrolledForUser, trimmed, nonempty, gone]

/-- Both gates follow the latest event of a pair exactly if it is not an enrolment after a revocation,
and a configured key of a pair that was never revoked is an enrolled one. -/
theorem gates_follow_latest_iff (keys : List RegisteredDeviceKey) (userId deviceId : String)
    (trimmed : trim deviceId = deviceId) (nonempty : deviceId ≠ "") :
    ((mobileTerminalDevicePublicKey (devicesAfter rules events) keys userId deviceId).isSome =
        mobileCloudflareAccessDeviceEnrolledForUser (devicesAfter rules events) keys userId
          deviceId ∧
      (mobileCloudflareAccessDeviceEnrolledForUser (devicesAfter rules events) keys userId
        deviceId = true ↔ LatestEnrolls events (userId, deviceId))) ↔
    ((∃ event ∈ events, event.owner = (userId, deviceId) ∧ event.isEnroll = false) →
        ¬LatestEnrolls events (userId, deviceId)) ∧
      ((¬∃ event ∈ events, event.owner = (userId, deviceId) ∧ event.isEnroll = false) →
        (∃ key ∈ keys, key.names deviceId = true) → LatestEnrolls events (userId, deviceId)) := by
  rw [Bool.eq_iff_iff, isSome_mobileTerminalDevicePublicKey,
    mobileCloudflareAccessDeviceEnrolledForUser_iff _ _ _ _ trimmed nonempty, active_iff_latest,
    mem_revokedKeys]
  grind

def phone : DeviceEvent := .enroll "ann" ⟨"t1", "phone", "", "key"⟩ "10:00"

def tablet : DeviceEvent := .enroll "bob" ⟨"t2", "tablet", "", "other"⟩ "10:01"

/-- Two users enrol a device each, and the first one is revoked. -/
def phoneRevoked : List DeviceEvent := [phone, tablet, .revoke "ann" "phone" "10:02"]

/-- The revoked device and, with a configured key, the one that is still enrolled. -/
theorem devices_follow_latest : let state := devicesAfter [] phoneRevoked
    ((mobileTerminalDevicePublicKey state [⟨"tablet", "other", true⟩] "ann" "phone").isSome =
        mobileCloudflareAccessDeviceEnrolledForUser state [⟨"tablet", "other", true⟩] "ann" "phone" ∧
      (mobileCloudflareAccessDeviceEnrolledForUser state [⟨"tablet", "other", true⟩] "ann" "phone" =
        true ↔ LatestEnrolls phoneRevoked ("ann", "phone"))) ∧
    (mobileTerminalDevicePublicKey state [⟨"tablet", "other", true⟩] "bob" "tablet").isSome =
        mobileCloudflareAccessDeviceEnrolledForUser state [⟨"tablet", "other", true⟩] "bob"
          "tablet" ∧
      (mobileCloudflareAccessDeviceEnrolledForUser state [⟨"tablet", "other", true⟩] "bob" "tablet" =
        true ↔ LatestEnrolls phoneRevoked ("bob", "tablet")) := by
  have gone : ¬LatestEnrolls phoneRevoked ("ann", "phone") := by
    unfold LatestEnrolls
    decide
  have left : LatestEnrolls phoneRevoked ("bob", "tablet") := by
    unfold LatestEnrolls
    decide
  have never : ¬∃ event ∈ phoneRevoked, event.owner = ("bob", "tablet") ∧
      event.isEnroll = false := by decide
  have unkeyed : ¬∃ key ∈ [(⟨"tablet", "other", true⟩ : RegisteredDeviceKey)],
      key.names "phone" = true := by decide
  exact ⟨(gates_follow_latest_iff [] phoneRevoked _ "ann" "phone" (by decide) (by decide)).mpr
      ⟨fun _ => gone, fun _ keyed => absurd keyed unkeyed⟩,
    (gates_follow_latest_iff [] phoneRevoked _ "bob" "tablet" (by decide) (by decide)).mpr
      ⟨fun revoked => absurd revoked never, fun _ _ => left⟩⟩

/-- A device that is enrolled again after its revocation. -/
theorem returned_device_gates_differ :
    let state := devicesAfter [] [phone, .revoke "ann" "phone" "10:01", phone]
    mobileTerminalDevicePublicKey state [] "ann" "phone" = none ∧
      mobileCloudflareAccessDeviceEnrolledForUser state [] "ann" "phone" = true := by
  decide +kernel

/-- After every event the policy allows the enrolled devices and nothing else exactly if no device is
revoked while another user has it enrolled. -/
theorem allowlist_matches_iff
    (unnamed : ∀ rule ∈ rules, rule.certificate = false ∧ rule.commonName = none)
    (possible : ∀ event ∈ events, event.owner.2 ≠ emptyDeviceCommonName) :
    (∀ earlier event, earlier ++ [event] <+: events →
      Allowlisted (devicesAfter rules (earlier ++ [event]))) ↔
    ∀ earlier event, earlier ++ [event] <+: events →
      event.Alone (devicesAfter rules earlier) := by
  have nobody (deviceId : String) : ¬(devicesAfter rules []).Enrolled deviceId := by
    simp [DeviceState.Enrolled, devicesAfter, activeDevicePublicKey, KeyedTable.find]
  have empty : allowedNames rules = [] :=
    filterMap_eq_nil_iff.mpr fun rule member => (unnamed rule member).2
  have start : Listed (devicesAfter rules []) :=
    ⟨fun rule member => (unnamed rule member).1,
      fun name _ => iff_of_false (by simp [devicesAfter, empty]) (nobody name), nobody _⟩
  exact foldl_good_iff (fun _ listed event member => listed.step (possible event member)) start

/-- A policy with a rule for addresses, two users with a device each, and a revocation. -/
theorem phoneRevoked_allowlisted : Allowlisted (devicesAfter [⟨false, none⟩] phoneRevoked) := by
  have apart : DeviceEvent.Alone (devicesAfter [⟨false, none⟩] [phone, tablet])
      (.revoke "ann" "phone" "10:02") := by
    intro _ userId other
    have hap : ("ann", "phone") ≠ (userId, "phone") := fun hs => other (Prod.mk.inj hs).1.symm
    rw [active_iff_latest]
    simp [LatestEnrolls, phone, tablet, DeviceEvent.owner, hap]
  refine (allowlist_matches_iff [⟨false, none⟩] phoneRevoked (by simp) (by decide)).mpr ?_
    [phone, tablet] (.revoke "ann" "phone" "10:02") prefix_rfl
  refine forall_prefix_cons.mpr ⟨nofun, forall_prefix_cons.mpr ⟨nofun, ?_⟩⟩
  exact forall_prefix_cons.mpr ⟨apart, by simp⟩

/-- Two users enrol one device, and one of them revokes it. -/
theorem revocation_bars_both :
    let state := devicesAfter [] [phone, .enroll "bob" ⟨"t1", "phone", "", "key"⟩ "10:01",
      .revoke "ann" "phone" "10:02"]
    (activeDevicePublicKey state.enrollments ("bob", "phone")).isSome = true ∧
      allowedNames state.rules = [emptyDeviceCommonName] := by
  decide +kernel

end SessionManager.Mobile
