import FluxPurr.Lan.Access

/-!
# The HTTP gate

Every request of the LAN passes `gate` (or `gateLightRead`, for the small reads) before
the firmware sees it.  The gate checks CORS, the pairing window, the bearer token, the
lease and the revision, and either answers itself or passes a command on.

`pairingClaimCode` reads the code out of the body of a claim.  The source leaves that to
a JSON library, so it is a parameter here.
-/

namespace FluxPurr.Lan

inductive HttpMethod where
  | get
  | post
  | put
  | delete
  | options
deriving DecidableEq, Repr

structure HttpRequest where
  method : HttpMethod
  path : String
  origin : Option String := none
  authorization : Option String := none
  leaseId : Option String := none
  expectedRevision : Option ℕ := none
  afterSample : Option ℕ := none
  afterSequence : Option ℕ := none
  requestPrivateNetwork : Bool := false
  body : String := ""
  /-- Random bytes: a token is all of them, a lease identifier the first twelve. -/
  entropy : List UInt8
deriving DecidableEq, Repr

/-- What is passed on to the firmware. -/
structure ControlMailboxCommand where
  endpoint : LanEndpoint
  method : HttpMethod
  leaseId : Option LeaseId
  expectedRevision : Option ℕ
  afterSample : Option ℕ
  afterSequence : Option ℕ
  body : String
deriving DecidableEq, Repr

/-- The bodies of the answers, by what they are made of. -/
inductive HttpBody where
  | empty
  | error (code : String)
  | detailedError (code message : String)
  | health (mode : LanPairingMode) (active : Bool) (attemptsRemaining : ℕ)
  | pairing (mode : LanPairingMode) (active : Bool) (attemptsRemaining : ℕ)
  | token (token : LanToken)
  | lease (lease : LanLease)
  | released
deriving DecidableEq, Repr

structure HttpResponse where
  status : ℕ
  body : HttpBody
  allowOrigin : Option String := none
  allowPrivateNetwork : Bool := false
deriving DecidableEq, Repr

inductive HttpGate where
  | respond (response : HttpResponse)
  | dispatch (command : ControlMailboxCommand) (allowOrigin : Option String)
deriving DecidableEq, Repr

inductive HttpReadGate where
  | respond (response : HttpResponse)
  | snapshot (endpoint : LanEndpoint) (allowOrigin : Option String)
  | defer
deriving DecidableEq, Repr

structure NetHttpState where
  token : Option LanToken := none
  pairing : PairingWindow := {}
  pairingMode : LanPairingMode := .required
  leases : LanLeaseState := {}
  tokenDirty : Bool := false
deriving DecidableEq, Repr

/-! ## Origins -/

/-- `char::is_whitespace`. -/
def isWhitespace (c : Char) : Bool :=
  let n := c.toNat
  (9 ≤ n ∧ n ≤ 13) ∨ n = 0x20 ∨ n = 0x85 ∨ n = 0xA0 ∨ n = 0x1680 ∨
    (0x2000 ≤ n ∧ n ≤ 0x200A) ∨ n = 0x2028 ∨ n = 0x2029 ∨ n = 0x202F ∨ n = 0x205F ∨ n = 0x3000

def trim (text : List Char) : List Char :=
  ((text.dropWhile isWhitespace).reverse.dropWhile isWhitespace).reverse

def prodAllowedOrigin : String := "https://flux-purr.ivanli.cc"

def corsAllowOrigin (origin : Option String) : Option String :=
  origin.bind fun origin =>
    let origin := trim origin.toList
    if origin = prodAllowedOrigin.toList ∨ origin = "http://localhost".toList ∨
        "http://localhost:".toList.isPrefixOf origin ∨ origin = "http://127.0.0.1".toList ∨
        "http://127.0.0.1:".toList.isPrefixOf origin then
      some (String.ofList origin)
    else none

structure PrivateNetworkPreflight where
  allowOrigin : Bool
  allowPrivateNetwork : Bool
deriving DecidableEq, Repr

def privateNetworkPreflight (origin : Option String) (requestedPrivateNetwork : Bool) :
    PrivateNetworkPreflight :=
  let allowOrigin := (corsAllowOrigin origin).isSome
  ⟨allowOrigin, allowOrigin && requestedPrivateNetwork⟩

/-! ## Routes -/

def endpointForPath (path : String) : Option LanEndpoint :=
  if path = "/health" then some .health
  else if path = "/api/v1/pairing" then some .pairing
  else if path = "/api/v1/pairing/claim" then some .pairingClaim
  else if path = "/api/v1/leases" then some .lease
  else if path = "/api/v1/identity" then some .identity
  else if path = "/api/v1/network" then some .network
  else if path = "/api/v1/status" then some .status
  else if path = "/api/v1/events" then some .events
  else if path = "/api/v1/runtime" then some .runtime
  else if path = "/api/v1/calibration" then some .calibration
  else if path = "/api/v1/calibration/job" then some .calibrationJob
  else if path = "/api/v1/calibration/thermal-plant/run" then some .thermalPlantRun
  else if path = "/api/v1/thermal-tuning" then some .thermalTuning
  else if path = "/api/v1/heater-curve" then some .heaterCurve
  else if path = "/api/v1/heater-curve/save" then some .heaterCurveSave
  else if path = "/api/v1/thermal-profile" then some .thermalProfile
  else none

def endpointAllowsMethod : LanEndpoint → HttpMethod → Bool
  | .health, .get => true
  | .pairing, .get => true
  | .pairingClaim, .post => true
  | .lease, .post | .lease, .put | .lease, .delete => true
  | .identity, .get | .network, .get | .status, .get | .events, .get => true
  | .runtime, .put | .thermalProfile, .put => true
  | .calibration, .get | .calibration, .put | .heaterCurve, .get | .heaterCurve, .put => true
  | .calibrationJob, .get | .calibrationJob, .post => true
  | .thermalPlantRun, .get => true
  | .thermalTuning, .get | .thermalTuning, .post => true
  | .heaterCurveSave, .post => true
  | _, _ => false

def isWrite : HttpMethod → Bool
  | .post | .put | .delete => true
  | _ => false

def isControlWrite (method : HttpMethod) (endpoint : LanEndpoint) : Bool :=
  isWrite method && endpoint ≠ .lease && endpoint ≠ .pairingClaim

/-! ## Answers -/

def HttpResponse.new (status : ℕ) (body : HttpBody) : HttpResponse :=
  { status := status, body := body }

def accessErrorResponse : LanAccessError → HttpResponse
  | .pairingInactive => .new 403 (.detailedError "pairing_inactive"
      "Pairing is only available while WiFi Info is visible.")
  | .pairingLocked => .new 429 (.detailedError "pairing_locked"
      "Pairing has reached the failed-attempt limit.")
  | .pairingCodeInvalid => .new 400 (.detailedError "pairing_code_invalid"
      "The pairing code is invalid.")
  | .pairingUnavailable => .new 403 (.detailedError "pairing_unavailable"
      "This device does not support LAN pairing codes.")
  | .unauthorized => .new 401 (.detailedError "unauthorized" "Bearer token required.")
  | .leaseBusy => .new 409 (.detailedError "lease_busy" "Another LAN client owns the lease.")
  | .leaseRequired => .new 409 (.detailedError "lease_required" "An active LAN lease is required.")
  | .leaseExpired => .new 409 (.detailedError "lease_expired" "The LAN lease has expired.")

def notFoundResponse : HttpResponse := .new 404 (.detailedError "not_found" "Unknown API path.")

def methodNotAllowedResponse : HttpResponse := .new 405 (.error "method_not_allowed")

def unauthorizedResponse : HttpResponse :=
  .new 401 (.detailedError "unauthorized" "Bearer token required.")

def leaseRequiredResponse : HttpResponse :=
  .new 409 (.detailedError "lease_required" "An active LAN lease is required for writes.")

def revisionRequiredResponse : HttpResponse :=
  .new 428 (.detailedError "revision_required"
    "A current control revision is required for writes.")

/-! ## Reading the headers -/

def leaseEntropy (entropy : List UInt8) : LeaseId := entropy.take lanLeaseIdBytes

/-- Pairs of hexadecimal digits. -/
def parseHexPairs : List UInt8 → Option (List UInt8)
  | high :: low :: rest => do
      let high ← hexNibble high
      let low ← hexNibble low
      let bytes ← parseHexPairs rest
      return ((high <<< 4) ||| low) :: bytes
  | _ => some []

def parseLeaseId (value : String) : Option LeaseId :=
  if (asBytes value).length ≠ 2 * lanLeaseIdBytes then none else parseHexPairs (asBytes value)

/-- `value.strip_prefix("Bearer ")`. -/
def stripBearer (value : String) : Option String :=
  if "Bearer ".toList.isPrefixOf value.toList then
    some (String.ofList (value.toList.drop "Bearer ".toList.length))
  else none

namespace NetHttpState

/-- `NetHttpState::new`. -/
def new (persistedToken : Option LanToken) : NetHttpState := { token := persistedToken }

/-! ## What the firmware does -/

def pairingCode (random : ℕ) : List UInt8 :=
  [1000, 100, 10, 1].map fun weight => 0x30 + UInt8.ofNat (random / weight % 10)

variable (state : NetHttpState)

def pairingCodeFromRandom (random : ℕ) : NetHttpState × Option (List UInt8) :=
  if state.pairingMode ≠ .required then ({ state with pairing := state.pairing.leave }, none)
  else
    ({ state with pairing := state.pairing.enter (pairingCode random) }, some (pairingCode random))

def leavePairing : NetHttpState := { state with pairing := state.pairing.leave }

def setPairingMode (mode : LanPairingMode) : NetHttpState :=
  { state with
    pairingMode := mode
    pairing := if mode ≠ .required then state.pairing.leave else state.pairing }

def clearTokenFromUsb : NetHttpState :=
  { state with token := none, leases := {}, tokenDirty := true }

/-- The change of the token that has still to be stored, once. -/
def takePersistedTokenChange : NetHttpState × Option (Option LanToken) :=
  if ¬ state.tokenDirty then (state, none)
  else ({ state with tokenDirty := false }, some state.token)

def commandLeaseIsActive (nowMs : ℕ) (leaseId : LeaseId) : NetHttpState × Bool :=
  let (leases, result) := state.leases.require nowMs leaseId
  ({ state with leases := leases }, result.isOk)

/-! ## The gate -/

def authorized (header : Option String) : Bool :=
  match state.token, header.bind stripBearer with
  | some token, some bearer => matchesBearer token bearer
  | _, _ => false

def requireLease (nowMs : ℕ) (value : Option String) :
    NetHttpState × Except LanAccessError LeaseId :=
  match value.bind parseLeaseId with
  | none => (state, .error .leaseRequired)
  | some id =>
      let (leases, result) := state.leases.require nowMs id
      ({ state with leases := leases }, result.map fun _ => id)

def leaseResponse : Except LanAccessError LanLease → HttpResponse
  | .ok lease => .new 200 (.lease lease)
  | .error error => accessErrorResponse error

def leaseRoute (nowMs : ℕ) (request : HttpRequest) : NetHttpState × HttpResponse :=
  match request.method with
  | .post =>
      let (leases, result) := state.leases.create nowMs (leaseEntropy request.entropy)
      ({ state with leases := leases }, leaseResponse result)
  | .put =>
      match request.leaseId.bind parseLeaseId with
      | none => (state, leaseResponse (.error .leaseRequired))
      | some id =>
          let (leases, result) := state.leases.heartbeat nowMs id
          ({ state with leases := leases }, leaseResponse result)
  | .delete =>
      match request.leaseId.bind parseLeaseId with
      | none => (state, accessErrorResponse .leaseRequired)
      | some id =>
          match state.leases.release id with
          | (leases, .ok ()) => ({ state with leases := leases }, .new 200 .released)
          | (leases, .error error) => ({ state with leases := leases }, accessErrorResponse error)
  | _ => (state, methodNotAllowedResponse)

def attemptsRemaining : ℕ := 5 - state.pairing.failedAttempts

def publicHealthResponse : HttpResponse :=
  .new 200 (.health state.pairingMode state.pairing.isActive state.attemptsRemaining)

def pairingMetadataResponse : HttpResponse :=
  .new 200 (.pairing state.pairingMode (state.pairingMode = .required && state.pairing.isActive)
    state.attemptsRemaining)

/-- The token is made when it is first asked for. -/
def grantToken (entropy : List UInt8) : NetHttpState × HttpResponse :=
  match state.token with
  | some token => (state, .new 200 (.token token))
  | none =>
      ({ state with token := some entropy, tokenDirty := true }, .new 200 (.token entropy))

section

variable (pairingClaimCode : String → Option String)

def claimPairing (state : NetHttpState) (request : HttpRequest) : NetHttpState × HttpResponse :=
  match state.pairingMode with
  | .required =>
      match pairingClaimCode request.body with
      | none => (state, accessErrorResponse .pairingCodeInvalid)
      | some code =>
          match state.pairing.claim code with
          | (pairing, .error error) =>
              ({ state with pairing := pairing }, accessErrorResponse error)
          | (pairing, .ok ()) => { state with pairing := pairing }.grantToken request.entropy
  | .optional => state.grantToken request.entropy
  | .unavailable => (state, accessErrorResponse .pairingUnavailable)

/-- The last checks of a request with a valid token. -/
def passOn (state : NetHttpState) (endpoint : LanEndpoint) (request : HttpRequest)
    (leaseId : Option LeaseId) : NetHttpState × HttpGate :=
  if isControlWrite request.method endpoint ∧ request.expectedRevision = none then
    (state, .respond revisionRequiredResponse)
  else
    (state, .dispatch
      { endpoint := endpoint
        method := request.method
        leaseId := leaseId
        expectedRevision := request.expectedRevision
        afterSample := request.afterSample
        afterSequence := request.afterSequence
        body := request.body } none)

def dispatchGate (state : NetHttpState) (nowMs : ℕ) (request : HttpRequest) :
    NetHttpState × HttpGate :=
  match endpointForPath request.path with
  | none => (state, .respond notFoundResponse)
  | some endpoint =>
      if ¬ endpointAllowsMethod endpoint request.method then
        (state, .respond methodNotAllowedResponse)
      else if endpoint = .health then (state, .respond state.publicHealthResponse)
      else if endpoint = .pairing ∧ request.method = .get then
        (state, .respond state.pairingMetadataResponse)
      else if endpoint = .pairingClaim ∧ request.method = .post then
        let (state, response) := state.claimPairing pairingClaimCode request
        (state, .respond response)
      else if ¬ state.authorized request.authorization then
        (state, .respond unauthorizedResponse)
      else if endpoint = .lease then
        let (state, response) := state.leaseRoute nowMs request
        (state, .respond response)
      else if isWrite request.method then
        match state.requireLease nowMs request.leaseId with
        | (state, .ok id) => state.passOn endpoint request (some id)
        | (state, .error _) => (state, .respond leaseRequiredResponse)
      else state.passOn endpoint request none

def withCors (origin : Option String) (response : HttpResponse) : HttpResponse :=
  { response with allowOrigin := corsAllowOrigin origin }

def preflight (request : HttpRequest) : HttpResponse :=
  let policy := privateNetworkPreflight request.origin request.requestPrivateNetwork
  if ¬ policy.allowOrigin then .new 403 (.error "origin_not_allowed")
  else
    { HttpResponse.new 204 .empty with
      allowOrigin := request.origin
      allowPrivateNetwork := policy.allowPrivateNetwork }

/-- The gate of every request. -/
def gate (state : NetHttpState) (nowMs : ℕ) (request : HttpRequest) : NetHttpState × HttpGate :=
  if request.method = .options then
    (state, .respond (withCors request.origin (preflight request)))
  else
    match state.dispatchGate pairingClaimCode nowMs request with
    | (state, .respond response) => (state, .respond (withCors request.origin response))
    | (state, .dispatch command _) => (state, .dispatch command (corsAllowOrigin request.origin))

end

/-- The small reads, which change nothing. -/
def gateLightRead (request : HttpRequest) : HttpReadGate :=
  if request.method = .options then
    let policy := privateNetworkPreflight request.origin request.requestPrivateNetwork
    if ¬ policy.allowOrigin then
      .respond (withCors request.origin (.new 403 (.error "origin_not_allowed")))
    else
      .respond
        { withCors request.origin (.new 204 .empty) with
          allowPrivateNetwork := policy.allowPrivateNetwork }
  else if request.method ≠ .get then .defer
  else
    match endpointForPath request.path with
    | none => .defer
    | some endpoint =>
        if endpoint = .health then .respond (withCors request.origin state.publicHealthResponse)
        else if endpoint = .pairing then
          .respond (withCors request.origin state.pairingMetadataResponse)
        else if endpoint = .identity ∨ endpoint = .network then
          if state.authorized request.authorization then
            .snapshot endpoint (corsAllowOrigin request.origin)
          else .respond (withCors request.origin unauthorizedResponse)
        else .defer

end NetHttpState

end FluxPurr.Lan
