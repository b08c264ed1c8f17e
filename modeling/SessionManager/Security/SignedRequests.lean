import Mathlib.Algebra.Order.Floor.Ring
import Mathlib.Data.Rat.Floor
import SessionManager.Foundation.ExpiringKeys

/-! The two signed entry points of the HTTP server: public-edge assertions and mobile-terminal
device proofs. Timestamps are read as exact rationals by a parser that is a parameter, as are the
signature primitives; the clock is read twice for each request, once for the timestamp window and
once for the nonce store. Poisoned locks and the ticket limits applied after a proof has been
recorded are left out. -/
namespace SessionManager.Security
open Foundation Foundation.ExpiringKeys

inductive StatusCode
  | unauthorized
  | forbidden
  | serviceUnavailable
  deriving DecidableEq, Repr

structure ApiError where
  status : StatusCode
  detail : String
  deriving DecidableEq, Repr

def clampU64 (value minimum maximum fallback : Nat) : Nat :=
  if value = 0 then max minimum (min fallback maximum) else max minimum (min value maximum)

/-- The shared body of the two timestamp checks: the window is closed at both ends, and the
result is the first whole second at or after its end. -/
def validateTimestamp (status : StatusCode) (invalid expired : String)
    (parse : String → Option ℚ) (timestamp : String) (maxSkewSeconds : Nat) (now : Int) :
    Except ApiError Int :=
  match parse timestamp with
  | none => .error ⟨status, invalid⟩
  | some time =>
    let maxSkew : ℚ := clampU64 maxSkewSeconds 5 600 60
    if maxSkew < |(now : ℚ) - time| then .error ⟨status, expired⟩
    else .ok ⌈time + maxSkew⌉

def validatePublicEdgeTimestamp (parse : String → Option ℚ) (timestamp : String)
    (maxSkewSeconds : Nat) (now : Int) : Except ApiError Int :=
  validateTimestamp .forbidden "Invalid public edge timestamp" "Expired public edge assertion"
    parse timestamp maxSkewSeconds now

def validateMobileTerminalTimestamp (parse : String → Option ℚ) (timestamp : String)
    (maxSkewSeconds : Nat) (now : Int) : Except ApiError Int :=
  validateTimestamp .unauthorized "Invalid device timestamp" "Expired device signature"
    parse timestamp maxSkewSeconds now

def windowEnd (parse : String → Option ℚ) (maxSkewSeconds : Nat) (timestamp : String) : Int :=
  ((parse timestamp).map fun time => ⌈time + (clampU64 maxSkewSeconds 5 600 60 : ℚ)⌉).getD 0

variable {parse : String → Option ℚ} {maxSkewSeconds : Nat} {expiresAt : Int}

theorem validateTimestamp_ok {status : StatusCode} {invalid expired timestamp : String}
    {now expiresAt : Int}
    (ok : validateTimestamp status invalid expired parse timestamp maxSkewSeconds now =
      .ok expiresAt) :
    expiresAt = windowEnd parse maxSkewSeconds timestamp := by
  unfold validateTimestamp at ok
  unfold windowEnd
  cases parsed : parse timestamp with
  | none => simp [parsed] at ok
  | some =>
    simp only [parsed] at ok
    split at ok
    · cases ok
    · cases ok
      rfl

def recordNonce (status : StatusCode) (used : String) (key : String)
    (expiresAtUnix nowUnix : Int) (nonces : Store String) : Store String × Except ApiError Unit :=
  let result := record key expiresAtUnix nowUnix nonces
  (result.1, if result.2 then .ok () else .error ⟨status, used⟩)

def publicEdgeAssertionNonceKey (method path nonce : String) : String :=
  String.intercalate "\x1f" [method.toUpper, path, nonce]

def recordPublicEdgeAssertionNonce (method path nonce : String) (expiresAtUnix nowUnix : Int)
    (nonces : Store String) : Store String × Except ApiError Unit :=
  recordNonce .forbidden "Public edge assertion nonce was already used"
    (publicEdgeAssertionNonceKey method path nonce) expiresAtUnix nowUnix nonces

def mobileTerminalProofNonceKey (userId deviceKeyId sessionId nonce : String) : String :=
  String.intercalate "\x1f" [userId, deviceKeyId, sessionId, nonce]

def recordMobileTerminalProofNonce (userId deviceKeyId sessionId nonce : String)
    (expiresAtUnix nowUnix : Int) (nonces : Store String) :
    Store String × Except ApiError Unit :=
  recordNonce .unauthorized "Device signature nonce was already used"
    (mobileTerminalProofNonceKey userId deviceKeyId sessionId nonce) expiresAtUnix nowUnix nonces

section

variable {ρ α : Type}

/-- The items that passed every check and were recorded, in the order of the requests. -/
def recordedItems (presents : ρ → Option α)
    (handle : ρ → Store String → Store String × Except ApiError Unit) (nonces : Store String) :
    List ρ → List α
  | [] => []
  | request :: rest =>
    let after := handle request nonces
    match presents request, after.2 with
    | some item, .ok () => item :: recordedItems presents handle after.1 rest
    | _, _ => recordedItems presents handle after.1 rest

theorem recordedItems_eq (endpoint : Endpoint ρ α String) (status : StatusCode) (used : String)
    (handle : ρ → Store String → Store String × Except ApiError Unit)
    (idle : ∀ request nonces, endpoint.presents request = none → (handle request nonces).1 = nonces)
    (acts : ∀ request nonces item, endpoint.presents request = some item →
      handle request nonces = recordNonce status used (endpoint.gate.key item)
        (endpoint.gate.deadline item) (endpoint.recordedAt request) nonces)
    (requests : List ρ) (nonces : Store String) :
    recordedItems endpoint.presents handle nonces requests = endpoint.admitted nonces requests := by
  induction requests generalizing nonces with
  | nil => rfl
  | cons request _ ih =>
    rw [recordedItems, ih]
    cases presented : endpoint.presents request with
    | none => simp [Endpoint.admitted, Endpoint.offer, presented, idle request nonces presented]
    | some item =>
      rw [acts _ _ _ presented]
      simp only [recordNonce, Endpoint.admitted, Endpoint.offer, presented,
        List.filterMap_cons, Option.map_some, admitted, step]
      by_cases hfr : (record (endpoint.gate.key item) (endpoint.gate.deadline item)
          (endpoint.recordedAt request) nonces).2 <;>
        simp [hfr]

end

section

structure PublicEdgeConfig where
  enabled : Bool
  assertionSecret : Option String
  assertionMaxSkewSeconds : Nat

/-- Base64 decoding and the keyed hash, which come from other crates. -/
structure EdgeCrypto where
  decodeStandard : String → Option (List UInt8)
  decodeUrlSafe : String → Option (List UInt8)
  hmacSha256 : String → String → Option (List UInt8)

structure EdgeAssertion where
  method : String
  path : String
  timestamp : String
  nonce : String
  signature : String
  deriving DecidableEq, Repr

structure EdgeRequest where
  localBypass : Bool
  method : String
  path : String
  timestamp : Option String
  nonce : Option String
  signature : Option String
  validatedAt : Int
  recordedAt : Int

def publicEdgeAssertionRequired : ApiError :=
  ⟨.forbidden, "Public edge assertion is required"⟩

def publicEdgeAssertionMessage (method path timestamp nonce : String) : String :=
  String.intercalate "\n" ["SM-PUBLIC-EDGE-V1", method.toUpper, path, timestamp, nonce]

def verifyPublicEdgeAssertion (crypto : EdgeCrypto) (secret : String)
    (assertion : EdgeAssertion) : Except ApiError Unit :=
  match (crypto.decodeStandard assertion.signature).or
      (crypto.decodeUrlSafe assertion.signature) with
  | none => .error ⟨.forbidden, "Invalid public edge assertion"⟩
  | some signature =>
    match crypto.hmacSha256 secret (publicEdgeAssertionMessage assertion.method assertion.path
        assertion.timestamp assertion.nonce) with
    | none => .error ⟨.serviceUnavailable, "Public edge assertion signer is unavailable"⟩
    | some expected =>
      if signature = expected then .ok ()
      else .error ⟨.forbidden, "Invalid public edge assertion"⟩

/-- Everything before the nonce store: `none` when no assertion is asked for. -/
def checkPublicEdgeAssertion (crypto : EdgeCrypto) (parse : String → Option ℚ)
    (config : PublicEdgeConfig) (request : EdgeRequest) :
    Except ApiError (Option (EdgeAssertion × Int)) :=
  if !config.enabled then .ok none
  else if request.localBypass then .ok none
  else
    match config.assertionSecret with
    | none => .error ⟨.serviceUnavailable, "Public edge assertion is enabled but incomplete"⟩
    | some secret =>
      match request.timestamp, request.nonce, request.signature with
      | some timestamp, some nonce, some signature => do
        let expiresAt ← validatePublicEdgeTimestamp parse timestamp
          config.assertionMaxSkewSeconds request.validatedAt
        let assertion : EdgeAssertion :=
          ⟨request.method, request.path, timestamp, nonce, signature⟩
        verifyPublicEdgeAssertion crypto secret assertion
        pure (some (assertion, expiresAt))
      | _, _, _ => .error publicEdgeAssertionRequired

def ensurePublicEdgeAssertionFromParts (crypto : EdgeCrypto) (parse : String → Option ℚ)
    (config : PublicEdgeConfig) (request : EdgeRequest) (nonces : Store String) :
    Store String × Except ApiError Unit :=
  match checkPublicEdgeAssertion crypto parse config request with
  | .error error => (nonces, .error error)
  | .ok none => (nonces, .ok ())
  | .ok (some (assertion, expiresAt)) =>
    recordPublicEdgeAssertionNonce assertion.method assertion.path assertion.nonce expiresAt
      request.recordedAt nonces

def publicEdgeEndpoint (crypto : EdgeCrypto) (parse : String → Option ℚ)
    (config : PublicEdgeConfig) : Endpoint EdgeRequest EdgeAssertion String where
  gate :=
    { key := fun assertion =>
        publicEdgeAssertionNonceKey assertion.method assertion.path assertion.nonce
      deadline := fun assertion =>
        windowEnd parse config.assertionMaxSkewSeconds assertion.timestamp }
  presents := fun request =>
    match checkPublicEdgeAssertion crypto parse config request with
    | .ok (some (assertion, _)) => some assertion
    | _ => none
  recordedAt := EdgeRequest.recordedAt

theorem checkPublicEdgeAssertion_deadline {crypto : EdgeCrypto}
    {config : PublicEdgeConfig} {request : EdgeRequest} {assertion : EdgeAssertion}
    (ok : checkPublicEdgeAssertion crypto parse config request = .ok (some (assertion, expiresAt))) :
    expiresAt = windowEnd parse config.assertionMaxSkewSeconds assertion.timestamp := by
  unfold checkPublicEdgeAssertion at ok
  split_ifs at ok with disabled bypass
  · cases ok
  · cases ok
  split at ok
  · cases ok
  split at ok
  · rename_i timestamp _ _ _ _ _
    cases window : validatePublicEdgeTimestamp parse timestamp config.assertionMaxSkewSeconds
        request.validatedAt with
    | error => simp [window, bind, Except.bind] at ok
    | ok =>
      simp only [window, bind, Except.bind, pure, Except.pure] at ok
      split at ok
      · cases ok
      · cases ok
        exact validateTimestamp_ok window
  · cases ok

/-- The assertions recorded by a run of requests on a server that just started. -/
def recordedEdgeAssertions (crypto : EdgeCrypto) (parse : String → Option ℚ)
    (config : PublicEdgeConfig) (requests : List EdgeRequest) : List EdgeAssertion :=
  recordedItems (publicEdgeEndpoint crypto parse config).presents
    (ensurePublicEdgeAssertionFromParts crypto parse config) empty requests

theorem recordedEdgeAssertions_eq (crypto : EdgeCrypto) (parse : String → Option ℚ)
    (config : PublicEdgeConfig) (requests : List EdgeRequest) :
    recordedEdgeAssertions crypto parse config requests =
      (publicEdgeEndpoint crypto parse config).admitted empty requests := by
  refine recordedItems_eq (publicEdgeEndpoint _ _ _) .forbidden
    "Public edge assertion nonce was already used" _ ?_ ?_ requests empty
  · intro request nonces silent
    simp only [publicEdgeEndpoint] at silent
    unfold ensurePublicEdgeAssertionFromParts
    split at silent
    · cases silent
    · split <;> simp_all
  · intro request nonces _ presented
    simp only [publicEdgeEndpoint] at presented
    split at presented
    · rename_i assertion _ checked
      cases presented
      rw [ensurePublicEdgeAssertionFromParts, checked, checkPublicEdgeAssertion_deadline checked]
      rfl
    · cases presented

end

section

structure DeviceProof where
  userId : String
  deviceKeyId : String
  sessionId : String
  timestamp : String
  nonce : String
  signature : String
  deriving DecidableEq, Repr

/-- A ticket request as the handler sees it. `preflight` is the outcome of the checks made before
the device headers are read, `devicePublicKey` what the registry answers for the device then. -/
structure TicketRequest where
  preflight : Except ApiError Unit
  userId : String
  actorEmail : String
  sessionId : String
  path : String
  deviceKeyId : Option String
  timestamp : Option String
  nonce : Option String
  signature : Option String
  devicePublicKey : Except ApiError (Option String)
  validatedAt : Int
  recordedAt : Int

def mobileTerminalTicketMessage (method path sessionId actorEmail deviceKeyId timestamp
    nonce : String) : String :=
  String.intercalate "\n" ["SM-MOBILE-TERMINAL-TICKET-V1", method.toUpper, path, sessionId,
    actorEmail.toLower, deviceKeyId, timestamp, nonce]

/-- `verify` is the P-256 check of a signature text under a public key text. -/
def authorizeMobileTerminalTicketRequest
    (verify : String → String → String → Except ApiError Unit) (parse : String → Option ℚ)
    (maxSkewSeconds : Nat) (request : TicketRequest) : Except ApiError (DeviceProof × Int) := do
  request.preflight
  match request.deviceKeyId, request.timestamp, request.nonce, request.signature with
  | some deviceKeyId, some timestamp, some nonce, some signature =>
    let expiresAt ← validateMobileTerminalTimestamp parse timestamp maxSkewSeconds
      request.validatedAt
    match ← request.devicePublicKey with
    | none => .error ⟨.unauthorized, "Device key is not registered"⟩
    | some publicKey =>
      verify publicKey signature (mobileTerminalTicketMessage "POST" request.path
        request.sessionId request.actorEmail deviceKeyId timestamp nonce)
      pure (⟨request.userId, deviceKeyId, request.sessionId, timestamp, nonce, signature⟩, expiresAt)
  | _, _, _, _ => .error ⟨.unauthorized, "Device key proof is required"⟩

/-- The part of `create_mobile_attach_ticket` that decides whether a proof is accepted. -/
def acceptMobileTerminalProof (verify : String → String → String → Except ApiError Unit)
    (parse : String → Option ℚ) (maxSkewSeconds : Nat) (request : TicketRequest)
    (nonces : Store String) : Store String × Except ApiError Unit :=
  match authorizeMobileTerminalTicketRequest verify parse maxSkewSeconds request with
  | .error error => (nonces, .error error)
  | .ok (proof, expiresAt) =>
    recordMobileTerminalProofNonce proof.userId proof.deviceKeyId proof.sessionId proof.nonce
      expiresAt request.recordedAt nonces

def mobileTerminalEndpoint (verify : String → String → String → Except ApiError Unit)
    (parse : String → Option ℚ) (maxSkewSeconds : Nat) :
    Endpoint TicketRequest DeviceProof String where
  gate :=
    { key := fun proof => mobileTerminalProofNonceKey proof.userId proof.deviceKeyId
        proof.sessionId proof.nonce
      deadline := fun proof => windowEnd parse maxSkewSeconds proof.timestamp }
  presents := fun request =>
    (authorizeMobileTerminalTicketRequest verify parse maxSkewSeconds request).toOption.map Prod.fst
  recordedAt := TicketRequest.recordedAt

theorem authorizeMobileTerminalTicketRequest_deadline
    {verify : String → String → String → Except ApiError Unit}
    {request : TicketRequest} {proof : DeviceProof}
    (ok : authorizeMobileTerminalTicketRequest verify parse maxSkewSeconds request =
      .ok (proof, expiresAt)) :
    expiresAt = windowEnd parse maxSkewSeconds proof.timestamp := by
  unfold authorizeMobileTerminalTicketRequest at ok
  cases hpa : request.preflight with
  | error => simp [hpa, bind, Except.bind] at ok
  | ok =>
    simp only [hpa, bind, Except.bind] at ok
    split at ok
    · rename_i timestamp _ _ _ _ _ _
      cases window : validateMobileTerminalTimestamp parse timestamp maxSkewSeconds
          request.validatedAt with
      | error => simp [window] at ok
      | ok =>
        simp only [window] at ok
        split at ok
        · cases ok
        split at ok
        · cases ok
        · split at ok
          · cases ok
          · cases ok
            exact validateTimestamp_ok window
    · cases ok

/-- The proofs recorded by a run of ticket requests on a server that just started. -/
def recordedDeviceProofs (verify : String → String → String → Except ApiError Unit)
    (parse : String → Option ℚ) (maxSkewSeconds : Nat) (requests : List TicketRequest) :
    List DeviceProof :=
  recordedItems (mobileTerminalEndpoint verify parse maxSkewSeconds).presents
    (acceptMobileTerminalProof verify parse maxSkewSeconds) empty requests

theorem recordedDeviceProofs_eq (verify : String → String → String → Except ApiError Unit)
    (parse : String → Option ℚ) (maxSkewSeconds : Nat) (requests : List TicketRequest) :
    recordedDeviceProofs verify parse maxSkewSeconds requests =
      (mobileTerminalEndpoint verify parse maxSkewSeconds).admitted empty requests := by
  refine recordedItems_eq (mobileTerminalEndpoint _ _ _) .unauthorized
    "Device signature nonce was already used" _ ?_ ?_ requests empty
  · intro request nonces silent
    unfold acceptMobileTerminalProof
    cases checked : authorizeMobileTerminalTicketRequest verify parse maxSkewSeconds request with
    | error => rfl
    | ok => simp [mobileTerminalEndpoint, checked, Except.toOption] at silent
  · intro request nonces _ presented
    unfold acceptMobileTerminalProof
    cases checked : authorizeMobileTerminalTicketRequest verify parse maxSkewSeconds request with
    | error => simp [mobileTerminalEndpoint, checked, Except.toOption] at presented
    | ok hf =>
      obtain ⟨_, _⟩ := hf
      simp only [mobileTerminalEndpoint, checked, Except.toOption, Option.map_some,
        Option.some.injEq] at presented
      subst presented
      rw [authorizeMobileTerminalTicketRequest_deadline checked]
      rfl

end

/-- No run of requests, with any of them left out, records one assertion or one device proof
twice, exactly when each presentation that passes its checks is recorded before the window end of
its timestamp or within the same second as every earlier one. -/
theorem signed_requests_recorded_once_iff (crypto : EdgeCrypto) (parse : String → Option ℚ)
    (config : PublicEdgeConfig) (verify : String → String → String → Except ApiError Unit)
    (maxSkewSeconds : Nat) (edge : List EdgeRequest) (mobile : List TicketRequest)
    (edgeClock : edge.Pairwise fun first second => first.recordedAt ≤ second.recordedAt)
    (mobileClock : mobile.Pairwise fun first second => first.recordedAt ≤ second.recordedAt) :
    ((∀ part, part.Sublist edge → (recordedEdgeAssertions crypto parse config part).Nodup) ↔
      edge.Pairwise fun first second => ∀ assertion,
        (publicEdgeEndpoint crypto parse config).presents first = some assertion →
        (publicEdgeEndpoint crypto parse config).presents second = some assertion →
        second.recordedAt <
          max (windowEnd parse config.assertionMaxSkewSeconds assertion.timestamp)
            (first.recordedAt + 1)) ∧
    ((∀ part, part.Sublist mobile → (recordedDeviceProofs verify parse maxSkewSeconds part).Nodup) ↔
      mobile.Pairwise fun first second => ∀ proof,
        (mobileTerminalEndpoint verify parse maxSkewSeconds).presents first = some proof →
        (mobileTerminalEndpoint verify parse maxSkewSeconds).presents second = some proof →
        second.recordedAt <
          max (windowEnd parse maxSkewSeconds proof.timestamp) (first.recordedAt + 1)) := by
  simp only [recordedEdgeAssertions_eq, recordedDeviceProofs_eq]
  exact ⟨(publicEdgeEndpoint crypto parse config).forall_sublist_nodup_iff edgeClock,
    (mobileTerminalEndpoint verify parse maxSkewSeconds).forall_sublist_nodup_iff mobileClock⟩

section

def centuryParse (text : String) : Option ℚ := if text = "100" then some 100 else none

def openCrypto : EdgeCrypto := ⟨fun _ => some [], fun _ => none, fun _ _ => some []⟩

def edgeAt (second : Int) : EdgeRequest :=
  ⟨false, "POST", "/client/sessions", some "100", some "n", some "sig", second, second⟩

def proofAt (second : Int) : TicketRequest :=
  ⟨.ok (), "user", "user@host", "s", "/client/sessions/s/attach-ticket", some "device",
    some "100", some "n", some "sig", .ok (some "key"), second, second⟩

theorem signed_requests_recorded_once_early :
    (∀ part, part.Sublist [edgeAt 100, edgeAt 104] →
      (recordedEdgeAssertions openCrypto centuryParse ⟨true, some "secret", 5⟩ part).Nodup) ∧
    (∀ part, part.Sublist [proofAt 100, proofAt 104] →
      (recordedDeviceProofs (fun _ _ _ => .ok ()) centuryParse 5 part).Nodup) := by
  have exact := signed_requests_recorded_once_iff openCrypto centuryParse
    ⟨true, some "secret", 5⟩ (fun _ _ _ => .ok ()) 5 [edgeAt 100, edgeAt 104]
    [proofAt 100, proofAt 104] (by simp [edgeAt]) (by simp [proofAt])
  refine ⟨exact.1.mpr (List.pairwise_pair.mpr ?_), exact.2.mpr (List.pairwise_pair.mpr ?_)⟩
  · intro assertion presented _
    have found : (publicEdgeEndpoint openCrypto centuryParse ⟨true, some "secret", 5⟩).presents
        (edgeAt 100) = some ⟨"POST", "/client/sessions", "100", "n", "sig"⟩ := by decide +kernel
    obtain rfl := Option.some.inj (found.symm.trans presented)
    decide +kernel
  · intro proof presented _
    have found : (mobileTerminalEndpoint (fun _ _ _ => .ok ()) centuryParse 5).presents
        (proofAt 100) = some ⟨"user", "device", "s", "100", "n", "sig"⟩ := by decide +kernel
    obtain rfl := Option.some.inj (found.symm.trans presented)
    decide +kernel

/-- Both requests lie in the closed window of timestamp 100 with a skew of 5 seconds, the second
at its last second, when the nonce of the first is already forgotten. -/
theorem signed_requests_recorded_twice :
    ¬ (recordedEdgeAssertions openCrypto centuryParse ⟨true, some "secret", 5⟩
        [edgeAt 100, edgeAt 105]).Nodup ∧
    ¬ (recordedDeviceProofs (fun _ _ _ => .ok ()) centuryParse 5 [proofAt 100, proofAt 105]).Nodup := by
  constructor <;> decide +kernel

end

end SessionManager.Security
