import SessionManager.Mobile.Terminals

/-! Enrolment of mobile devices. A pairing token is created for a user; a device presents it with a
certificate request and is given a certificate. A request is a series of transactions on the device
database with work outside of it in between, and the transactions of any number of requests interleave.
A transaction that fails changes nothing. What OpenSSL and the access policy answer, and the local time,
are given with the step that asks. -/
namespace SessionManager.Mobile
open Foundation

structure Pairing where
  token : String
  userId : String
  createdAt : String
  expiresAt : String
  pairedAt : Option String
  failedAttempts : Nat
  lastFailedAttemptAt : Option String
  deriving DecidableEq, Repr

structure DeviceEnrollment where
  userId : String
  deviceId : String
  deviceName : String
  publicKeyPem : String
  commonName : String
  pairedAt : String
  revokedAt : Option String
  deriving DecidableEq, Repr

def DeviceEnrollment.owner (enrollment : DeviceEnrollment) : String × String :=
  (enrollment.userId, enrollment.deviceId)

structure PairingRegistration where
  token : String
  userId : String
  expiresAt : String
  deriving DecidableEq, Repr

structure DeviceEnrollmentRequest where
  deviceId : String
  deviceName : String
  publicKeyPem : String
  deriving DecidableEq, Repr

structure DeviceEnrollmentResponse where
  deviceId : String
  deviceName : String
  certificateChainPem : String
  expiresAt : String
  deriving DecidableEq, Repr

structure Entrant where
  token : String
  deviceId : String
  deviceName : String
  publicKeyPem : String
  deriving DecidableEq, Repr

inductive Stage
  | opened (entrant : Entrant)
  | unknown
  | registered (entrant : Entrant) (registration : PairingRegistration)
  | faulty (token detail : String)
  | counted (token detail : String) (changed : Bool)
  | signed (entrant : Entrant) (registration : PairingRegistration) (chain : String)
  | completed (entrant : Entrant) (registration : PairingRegistration) (chain : String)
  | undoing (token userId deviceId error : String)
  | rejected (error : ApiError)
  | certified (token : String) (response : DeviceEnrollmentResponse)
  deriving DecidableEq, Repr

/-- The enrolments that were stored are noted with the token that led to them. -/
structure PairingSystem where
  pairings : KeyedTable Pairing.token
  enrollments : KeyedTable DeviceEnrollment.owner
  unknownAttempts : Nat
  requests : List Stage
  stored : List (String × DeviceEnrollment)

section

def validDeviceId (value : String) : Bool :=
  decide (3 ≤ value.utf8ByteSize) && decide (value.utf8ByteSize ≤ 128) &&
    value.toList.all fun letter =>
      letter.isAlphanum || letter = '-' || letter = '_' || letter = '.'

def splitWhitespace (text : String) : List (List Char) :=
  (text.toList.splitOnP isWhitespace).filter fun word => !word.isEmpty

def deviceNameOr (deviceName deviceId : String) : String :=
  let words := ([' '].intercalate (splitWhitespace deviceName)).take 120
  if words.isEmpty then deviceId else String.ofList words

def tokenRejected : ApiError := ⟨404, "Unknown, expired, or already used enrollment token"⟩

def tooManyAttempts : ApiError := ⟨429, "Too many invalid enrollment attempts"⟩

def maxUnknownPairingAttempts : Nat := 25

end

section

def Pairing.registration (pairing : Pairing) : PairingRegistration :=
  ⟨pairing.token, pairing.userId, pairing.expiresAt⟩

def Pairing.isLive (pairing : Pairing) (now : String) : Bool :=
  pairing.pairedAt.isNone && decide (now < pairing.expiresAt)

def pendingPairingRegistration (pairings : KeyedTable Pairing.token) (token now : String) :
    Option PairingRegistration :=
  ((pairings.find token).filter fun pairing =>
    pairing.isLive now && decide (pairing.failedAttempts < 5)).map Pairing.registration

def markPaired (pairings : KeyedTable Pairing.token) (token now : String) :
    KeyedTable Pairing.token :=
  pairings.update (fun pairing =>
      if pairing.token = token then { pairing with pairedAt := some now } else pairing)
    fun pairing => by split <;> rfl

def addFailure (pairings : KeyedTable Pairing.token) (token now : String) :
    KeyedTable Pairing.token :=
  pairings.update (fun pairing =>
      if pairing.token = token ∧ pairing.isLive now = true then
        { pairing with
          failedAttempts := pairing.failedAttempts + 1, lastFailedAttemptAt := some now }
      else pairing)
    fun pairing => by split <;> rfl

/-- An insertion that takes the place of a row under its key. -/
def upsertEnrollment (enrollments : KeyedTable DeviceEnrollment.owner)
    (enrollment : DeviceEnrollment) : KeyedTable DeviceEnrollment.owner :=
  if fresh : enrollments.find enrollment.owner = none then enrollments.insert enrollment fresh
  else
    enrollments.update (fun old => if old.owner = enrollment.owner then enrollment else old)
      fun old => by
        split
        · next same => exact same.symm
        · rfl

def revokeDevice (enrollments : KeyedTable DeviceEnrollment.owner) (userId deviceId now : String) :
    KeyedTable DeviceEnrollment.owner :=
  enrollments.update (fun enrollment =>
      if enrollment.userId = userId ∧ enrollment.deviceId = deviceId ∧
          enrollment.revokedAt = none then
        { enrollment with revokedAt := some now }
      else enrollment)
    fun enrollment => by split <;> rfl

def Entrant.enrollment (entrant : Entrant) (userId now : String) : DeviceEnrollment where
  userId := userId
  deviceId := entrant.deviceId
  deviceName := entrant.deviceName
  publicKeyPem := trim entrant.publicKeyPem
  commonName := entrant.deviceId
  pairedAt := now
  revokedAt := none

end

inductive Verdict
  | invalidCsr
  | invalidPublicKey
  | unsigned (error : String)
  | signed (chain : String)

/-- A transaction is given the local time, or the error that it fails with. -/
inductive PairingEvent
  | create (token userId now expiresAt : String)
  | revoke (userId deviceId now : String)
  | post (token : String) (request : DeviceEnrollmentRequest)
  | lookup (index : Nat) (outcome : Except String String)
  | refuse (index : Nat)
  | inspect (index : Nat) (verdict : Verdict)
  | record (index : Nat) (outcome : Except String String)
  | count (index : Nat) (read audited : Bool)
  | complete (index : Nat) (outcome : Except String String)
  | publish (index : Nat) (outcome : Except String Unit)
  | undo (index : Nat) (outcome : Except String String)

namespace PairingSystem

variable (system : PairingSystem)

def carry (index : Nat) (stage : Stage) : PairingSystem :=
  { system with requests := system.requests.set index stage }

def opening (token : String) (request : DeviceEnrollmentRequest) : Stage :=
  if trim token = "" then .rejected ⟨400, "Enrollment token is required"⟩
  else if !validDeviceId (trim request.deviceId) then .rejected ⟨400, "Invalid device_id"⟩
  else
    .opened {
      token := trim token
      deviceId := trim request.deviceId
      deviceName := deviceNameOr request.deviceName (trim request.deviceId)
      publicKeyPem := request.publicKeyPem }

/-- The first transaction, and the checks of the user that it names. -/
def lookupStage (allowedUsers : String → Option Bool) (entrant : Entrant) :
    Except String String → Stage
  | .error error => .rejected ⟨500, error⟩
  | .ok now =>
    match pendingPairingRegistration system.pairings entrant.token now with
    | none => .unknown
    | some registration =>
      match allowedUsers registration.userId with
      | none => .rejected ⟨403, "Enrollment user is no longer configured"⟩
      | some false =>
        .rejected ⟨403, "Enrollment user is not allowed to use mobile terminal attach"⟩
      | some true => .registered entrant registration

def inspectStage (entrant : Entrant) (registration : PairingRegistration) : Verdict → Stage
  | .invalidCsr => .faulty entrant.token "Invalid device CSR"
  | .invalidPublicKey => .faulty entrant.token "Invalid device public key"
  | .unsigned error => .rejected ⟨500, error⟩
  | .signed chain => .signed entrant registration chain

/-- The answer to a failure: the attempts are read back if the update has found the pairing. -/
def countStage (token detail : String) (changed read audited : Bool) : Stage :=
  let attempts :=
    if read then ((system.pairings.find token).map Pairing.failedAttempts).getD 0 else 0
  if changed && decide (5 ≤ attempts) && audited then .rejected tooManyAttempts
  else .rejected ⟨400, detail⟩

/-- `complete_pairing_registration`. -/
def completing (index : Nat) (entrant : Entrant) (chain now : String) : PairingSystem :=
  match pendingPairingRegistration system.pairings entrant.token now with
  | none => system.carry index (.rejected tokenRejected)
  | some registration =>
    { system.carry index (.completed entrant registration chain) with
      pairings := markPaired system.pairings entrant.token now
      enrollments :=
        upsertEnrollment system.enrollments (entrant.enrollment registration.userId now)
      stored :=
        system.stored ++ [(entrant.token, entrant.enrollment registration.userId now)] }

end PairingSystem

open PairingSystem in
def stepPairing (allowedUsers : String → Option Bool) (system : PairingSystem) :
    PairingEvent → PairingSystem
  | .create token userId now expiresAt =>
    if trim userId = "" then system
    else if fresh : system.pairings.find token = none then
      { system with
        pairings :=
          system.pairings.insert ⟨token, trim userId, now, expiresAt, none, 0, none⟩ fresh }
    else system
  | .revoke userId deviceId now =>
    { system with enrollments := revokeDevice system.enrollments userId deviceId now }
  | .post token request => { system with requests := system.requests ++ [opening token request] }
  | .lookup index outcome =>
    match system.requests[index]? with
    | some (.opened entrant) =>
      system.carry index (system.lookupStage allowedUsers entrant outcome)
    | _ => system
  | .refuse index =>
    match system.requests[index]? with
    | some .unknown =>
      let attempts := system.unknownAttempts + 1
      { system with unknownAttempts := attempts }.carry index (.rejected
        (if maxUnknownPairingAttempts < attempts then tooManyAttempts else tokenRejected))
    | _ => system
  | .inspect index verdict =>
    match system.requests[index]? with
    | some (.registered entrant registration) =>
      system.carry index (inspectStage entrant registration verdict)
    | _ => system
  | .record index outcome =>
    match system.requests[index]? with
    | some (.faulty token detail) =>
      match outcome with
      | .error _ => system.carry index (.rejected ⟨400, detail⟩)
      | .ok now =>
        let changed := system.pairings.rows.any fun pairing =>
          decide (pairing.token = token) && pairing.isLive now
        { system.carry index (.counted token detail changed) with
          pairings := addFailure system.pairings token now }
    | _ => system
  | .count index read audited =>
    match system.requests[index]? with
    | some (.counted token detail changed) =>
      system.carry index (system.countStage token detail changed read audited)
    | _ => system
  | .complete index outcome =>
    match system.requests[index]? with
    | some (.signed entrant _ chain) =>
      match outcome with
      | .error error => system.carry index (.rejected ⟨500, error⟩)
      | .ok now => system.completing index entrant chain now
    | _ => system
  | .publish index outcome =>
    match system.requests[index]? with
    | some (.completed entrant registration chain) =>
      match outcome with
      | .error error =>
        system.carry index (.undoing entrant.token registration.userId entrant.deviceId error)
      | .ok () =>
        system.carry index (.certified entrant.token
          ⟨entrant.deviceId, entrant.deviceName, chain, registration.expiresAt⟩)
    | _ => system
  | .undo index outcome =>
    match system.requests[index]? with
    | some (.undoing _ userId deviceId error) =>
      match outcome with
      | .error _ => system.carry index (.rejected ⟨500, error⟩)
      | .ok now =>
        { system.carry index (.rejected ⟨500, error⟩) with
          enrollments := revokeDevice system.enrollments userId deviceId now }
    | _ => system

def noDevices : PairingSystem where
  pairings := ⟨[], List.nodup_nil⟩
  enrollments := ⟨[], List.nodup_nil⟩
  unknownAttempts := 0
  requests := []
  stored := []

def runPairing (allowedUsers : String → Option Bool) (system : PairingSystem)
    (events : List PairingEvent) : PairingSystem :=
  events.foldl (stepPairing allowedUsers) system

end SessionManager.Mobile
