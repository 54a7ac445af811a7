import FluxPurr.Devd.Leases
import Mathlib.Order.Lattice

/-!
# A firmware operation of the daemon

A firmware operation loads its bundle and its target under a lease, refreshes the facts of
the device, probes its ROM, and then either leaves an approval (a dry run) or takes one and
flashes (an execution).  What the operation learns from outside, the bundle on disk, the USB
identity of the port, the answers of the device and of its ROM, are arguments.

The functions that run under the lock of the state take the state; between them other
requests run.
-/

namespace FluxPurr.Devd

open FluxPurr.Wire (Json)

/-! ## Versions -/

/-- `str::trim_start_matches`: the pattern is taken away as often as the text starts with it.
The number bounds the repetitions. -/
def trimStartMatches (pattern : List Char) : ℕ → List Char → List Char
  | 0, text => text
  | bound + 1, text =>
      if pattern.isPrefixOf text then
        trimStartMatches pattern bound (text.drop pattern.length)
      else text

/-- The version that a device reports may be tagged. -/
def currentVersionText (currentVersion : String) : String :=
  let text := trimStartMatches "fw/".toList currentVersion.length currentVersion.toList
  String.ofList (trimStartMatches ['v'] text.length text)

def targetVersionText (version : String) : String :=
  String.ofList (trimStartMatches ['v'] version.length version.toList)

/-! ## Requests and what is prepared for them -/

structure FirmwareOperationRequest where
  leaseId : String
  artifactId : String
  operation : FirmwareOperation
  dryRun : Bool
  approvalToken : Option String
  confirm : Option String
  allowDowngrade : Bool

structure FirmwareBundle where
  bundleSha256 : String
  version : String

structure RomSecurityInfo where
  romMac : String
  secureBootEnabled : Bool
  flashEncryptionEnabled : Bool
  secureDownloadModeEnabled : Bool
  responseKnown : Bool
  chipIsEsp32s3 : Bool
  flashSizeBytes : ℕ
  packageMatches : Bool

def flashSize : ℕ := 4 * 1024 * 1024

def RomSecurityInfo.validateForFlash (security : RomSecurityInfo) : Except Refusal Unit :=
  if !security.responseKnown then
    .error (.forbidden "security_info_unknown"
      "The ROM security response is unknown; flashing is blocked.")
  else if security.secureBootEnabled || security.flashEncryptionEnabled ||
      security.secureDownloadModeEnabled then
    .error (.forbidden "security_features_enabled"
      "Secure Boot, Flash Encryption, or Secure Download Mode blocks this installer.")
  else if !security.chipIsEsp32s3 || security.flashSizeBytes ≠ flashSize ||
      !security.packageMatches then
    .error (.forbidden "target_mismatch"
      "The target must be an ESP32-S3 with exactly 4 MiB Flash.")
  else .ok ()

structure PreparedFirmwareOperation where
  bundle : FirmwareBundle
  target : DeviceRecord
  portPath : String
  transport : DeviceTransport
  currentVersion : String
  status : ControlPlaneStatus
  romMac : String
  usbIdentity : Option UsbSerialIdentity

/-! ## Loading -/

variable (payload : FirmwareOperationRequest) (deviceId : String)

/-- `bundle` is what `read_bundle` makes of the stored file. -/
def loadOperationBundle (bundle : Except String FirmwareBundle) : Except Refusal FirmwareBundle :=
  match bundle with
  | .error error => .error (.badRequest "firmware_bundle_unavailable"
      ("The imported firmware bundle is unavailable: " ++ error))
  | .ok bundle =>
      if bundle.bundleSha256 ≠ payload.artifactId then
        .error (.badRequest "artifact_id_mismatch"
          "artifactId does not match the imported bundle content.")
      else .ok bundle

def loadOperationTarget (payload : FirmwareOperationRequest)
    (now : Instant) (state : DevdState) : DevdState × Except Refusal DeviceRecord :=
  let (state, required) := state.requireLease deviceId (some payload.leaseId) now
  (state, match required with
    | .error refusal => .error refusal
    | .ok () =>
        match state.devices.lookup deviceId with
        | none => .error (.notFound "device_not_found" "Device not found.")
        | some device =>
            if device.transport = .lan then .error (.badRequest "lan_flash_unsupported"
              "Firmware flashing is unavailable through the DEVD LAN bridge.")
            else .ok device)

/-- `capture_native_serial_identity`, from what `serial_port_usb_identity` answers. -/
def captureNativeSerialIdentity (usbIdentity : Except String UsbSerialIdentity) :
    Except Refusal UsbSerialIdentity :=
  usbIdentity.mapError fun error => .forbidden "authorized_port_identity_required"
    ("Firmware operation requires a stable USB target identity: " ++ error)

def mockPortPath : String := "mock://esp32s3"

def preparedTarget (bundle : FirmwareBundle) (target : DeviceRecord) :
    PreparedFirmwareOperation where
  bundle := bundle
  target := target
  portPath := target.portPath.getD mockPortPath
  transport := target.transport
  currentVersion := target.identity.firmwareVersion
  status := target.status
  romMac := ""
  usbIdentity := none

/-- `prepare_firmware_operation` up to the USB identity.  The lease is required here. -/
def loadOperation (payload : FirmwareOperationRequest)
    (bundle : Except String FirmwareBundle) (usbIdentity : Except String UsbSerialIdentity)
    (now : Instant) (state : DevdState) :
    DevdState × Except Refusal PreparedFirmwareOperation :=
  match loadOperationBundle payload bundle with
  | .error refusal => (state, .error refusal)
  | .ok bundle =>
      let (state, target) := loadOperationTarget deviceId payload now state
      (state, do
        let prepared := preparedTarget bundle (← target)
        if prepared.transport = .nativeSerial then
          let usbIdentity ← captureNativeSerialIdentity usbIdentity
          return { prepared with usbIdentity := some usbIdentity }
        else return prepared)

/-! ## Runtime facts -/

/-- `40.0` -/
def updateTemperatureLimit : F32 := ⟨0x42200000⟩

def validateUpdateRuntimeFacts (transport : DeviceTransport) (currentVersion : String)
    (status : ControlPlaneStatus) : Except Refusal Unit :=
  if transport = .nativeSerial &&
      (currentVersion = "unknown" || (Lan.trim currentVersion.toList).isEmpty) then
    .error (.forbidden "update_identity_required"
      "Update requires a verified Flux Purr runtime identity.")
  else if status.heaterEnabled || !status.currentTempC.isFinite ||
      updateTemperatureLimit.lt status.currentTempC then
    .error (.forbidden "update_temperature_gate"
      "Update requires heater off and a valid temperature at or below 40 C.")
  else .ok ()

def validateUpdateRuntimeIdentity (transport : DeviceTransport) (identity : Identity) :
    Except Refusal Unit :=
  if transport = .nativeSerial && identity.firmwareKind ≠ some .product then
    .error (.forbidden "update_identity_required"
      "Update requires a verified Flux Purr product runtime identity.")
  else .ok ()

/-- The record of the device takes the new facts over, unless its port has changed. -/
def updateOperationDevice (prepared : PreparedFirmwareOperation)
    (identity : Option Identity) (state : DevdState) : DevdState :=
  { state with
    devices := state.devices.modify deviceId fun device =>
      if device.portPath ≠ prepared.target.portPath then device
      else { device with
        identity := identity.getD device.identity
        status := prepared.status
        connection := .connected } }

/-- The facts that an update needs: on a serial target, what the device answered.  The
device record takes them over before they are validated. -/
def refreshOperationFacts (payload : FirmwareOperationRequest)
    (facts : Except Refusal (Identity × ControlPlaneStatus))
    (prepared : PreparedFirmwareOperation) (state : DevdState) :
    DevdState × Except Refusal PreparedFirmwareOperation :=
  if payload.operation ≠ .update then (state, .ok prepared)
  else
    match prepared.transport with
    | .lan => (state, .error (.internal "internal error: entered unreachable code"))
    | .mock =>
        let prepared := { prepared with
          status := { prepared.status with heaterEnabled := false } }
        (updateOperationDevice deviceId prepared none state, do
          validateUpdateRuntimeFacts prepared.transport prepared.currentVersion prepared.status
          return prepared)
    | .nativeSerial =>
        if prepared.usbIdentity.isNone then
          (state, .error (.internal "native update is missing USB identity"))
        else
          match facts with
          | .error refusal => (state, .error refusal)
          | .ok (identity, status) =>
              let prepared := { prepared with
                status := status
                currentVersion := identity.firmwareVersion }
              match validateUpdateRuntimeIdentity prepared.transport identity with
              | .error refusal => (state, .error refusal)
              | .ok () =>
                  (updateOperationDevice deviceId prepared (some identity) state, do
                    validateUpdateRuntimeFacts prepared.transport prepared.currentVersion
                      prepared.status
                    return prepared)

/-! ## The ROM -/

def mockRomSecurity (target : DeviceRecord) : RomSecurityInfo where
  romMac := target.identity.deviceId
  secureBootEnabled := false
  flashEncryptionEnabled := false
  secureDownloadModeEnabled := false
  responseKnown := true
  chipIsEsp32s3 := true
  flashSizeBytes := flashSize
  packageMatches := true

/-- `probe` is what comes of the locks of the serial port, of the check that it is still the
same one, and of the probe. -/
def operationRomSecurity (prepared : PreparedFirmwareOperation)
    (probe : Except Refusal RomSecurityInfo) : Except Refusal RomSecurityInfo := do
  match prepared.transport with
  | .mock =>
      (mockRomSecurity prepared.target).validateForFlash
      return mockRomSecurity prepared.target
  | .nativeSerial =>
      let security ← probe
      security.validateForFlash
      return security
  | .lan => .error (.internal "internal error: entered unreachable code")

section Version

variable {Version : Type} [LinearOrder Version] (parse : String → Option Version)

/-- The target is known to be older. -/
def isDowngrade (currentVersion version : String) : Bool :=
  match parse (currentVersionText currentVersion), parse (targetVersionText version) with
  | some current, some target => target < current
  | _, _ => false

def validateOperationDowngrade (prepared : PreparedFirmwareOperation)
    (payload : FirmwareOperationRequest) : Except Refusal Unit :=
  if payload.operation ≠ .update || payload.allowDowngrade then .ok ()
  else if isDowngrade parse prepared.currentVersion prepared.bundle.version then
    .error (.forbidden "downgrade_confirmation_required"
      "The target firmware is older; explicit allowDowngrade is required.")
  else .ok ()

/-- `prepare_firmware_operation` from the ROM on. -/
def probeOperation (payload : FirmwareOperationRequest) (probe : Except Refusal RomSecurityInfo)
    (prepared : PreparedFirmwareOperation) : Except Refusal PreparedFirmwareOperation := do
  let security ← operationRomSecurity prepared probe
  let prepared := { prepared with romMac := security.romMac }
  validateOperationDowngrade parse prepared payload
  return prepared

end Version

/-! ## Approvals -/

def FirmwareOperation.text : FirmwareOperation → String
  | .update => "update"
  | .installRecovery => "install_recovery"

def preflightFacts (deviceId portPath romMac
    bundleSha256 : String) (usbIdentity : Option UsbSerialIdentity) : Json :=
  .object [
    ("leaseId", .string payload.leaseId),
    ("deviceId", .string deviceId),
    ("portPath", .string portPath),
    ("romMac", .string romMac),
    ("bundleSha256", .string bundleSha256),
    ("operation", .string payload.operation.text),
    ("allowDowngrade", .bool payload.allowDowngrade),
    ("usbIdentity", match usbIdentity with
      | some identity => .object [
          ("vid", .number identity.vid.toNat.repr),
          ("pid", .number identity.pid.toNat.repr),
          ("serialNumber", .string identity.serialNumber)]
      | none => .null)]

/-- `sha256Hex` is the digest of the serialized value. -/
def firmwarePreflightDigest (sha256Hex : Json → String) (payload : FirmwareOperationRequest)
    (deviceId : String) (prepared : PreparedFirmwareOperation) : String :=
  "sha256:" ++ sha256Hex (preflightFacts payload deviceId prepared.portPath prepared.romMac
    prepared.bundle.bundleSha256 prepared.usbIdentity)

def approvalTtlMs : ℕ := 5 * 60 * 1000

def firmwareApproval (payload : FirmwareOperationRequest)
    (prepared : PreparedFirmwareOperation) (preflightDigest : String) (now : Instant) :
    FirmwareApproval where
  leaseId := payload.leaseId
  deviceId := deviceId
  portPath := prepared.portPath
  usbIdentity := prepared.usbIdentity
  romMac := prepared.romMac
  bundleSha256 := prepared.bundle.bundleSha256
  operation := payload.operation
  allowDowngrade := payload.allowDowngrade
  preflightDigest := preflightDigest
  expiresAt := now + approvalTtlMs * nanosPerMilli

def createFirmwareApproval (payload : FirmwareOperationRequest)
    (prepared : PreparedFirmwareOperation) (preflightDigest : String) (nowMillis : ℕ)
    (now : Instant) (state : DevdState) : DevdState × String :=
  let (state, token) := state.nextId "firmware-approval" nowMillis
  ({ state with
      firmwareApprovals := state.firmwareApprovals.insert token
        (firmwareApproval deviceId payload prepared preflightDigest now) }, token)

/-- The first half of `authorize_firmware_operation`: the token is taken out of the store. -/
def takeFirmwareApproval (state : DevdState) :
    DevdState × Except Refusal (String × FirmwareApproval) :=
  match payload.approvalToken with
  | none => (state, .error (.forbidden "approval_required"
      "Execution requires a current single-use approval token."))
  | some token =>
      ({ state with firmwareApprovals := state.firmwareApprovals.erase token },
        match state.firmwareApprovals.lookup token with
        | none => .error (.forbidden "approval_invalid"
            "The approval token is invalid or already used.")
        | some approval => .ok (token, approval))

def FirmwareApproval.covers (approval : FirmwareApproval) (deviceId : String)
    (payload : FirmwareOperationRequest) (prepared : PreparedFirmwareOperation)
    (preflightDigest : String) (now : Instant) : Bool :=
  now < approval.expiresAt &&
    approval.leaseId = payload.leaseId &&
    approval.deviceId = deviceId &&
    approval.portPath = prepared.portPath &&
    approval.usbIdentity = prepared.usbIdentity &&
    approval.romMac = prepared.romMac &&
    approval.bundleSha256 = prepared.bundle.bundleSha256 &&
    approval.operation = payload.operation &&
    approval.allowDowngrade = payload.allowDowngrade &&
    approval.preflightDigest = preflightDigest

def expectedConfirm : FirmwareOperation → String
  | .update => "FLASH"
  | .installRecovery => "ERASE_INSTALL"

/-- The second half of `authorize_firmware_operation`, at the time of the comparison. -/
def checkFirmwareApproval (allowRealFlash : Bool) (deviceId : String)
    (payload : FirmwareOperationRequest) (prepared : PreparedFirmwareOperation)
    (preflightDigest : String) (approval : FirmwareApproval) (now : Instant) :
    Except Refusal Unit :=
  if !approval.covers deviceId payload prepared preflightDigest now then
    .error (.forbidden "approval_mismatch"
      "The target or preflight facts changed; run preflight again.")
  else if payload.confirm ≠ some (expectedConfirm payload.operation) then
    .error (.forbidden "confirmation_required"
      ("Execution requires confirm=" ++ expectedConfirm payload.operation ++ "."))
  else if !allowRealFlash then
    .error (.forbidden "real_flash_disabled"
      "Real flashing is disabled unless FLUX_PURR_DEVD_ALLOW_REAL_FLASH=1.")
  else if prepared.transport ≠ .nativeSerial then
    .error (.badRequest "real_flash_requires_native_serial"
      "Real flash requires a native serial target.")
  else .ok ()

end FluxPurr.Devd
