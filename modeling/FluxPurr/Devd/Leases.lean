import FluxPurr.Arith.F32
import FluxPurr.Collections.HashMap
import FluxPurr.Devd.SerialPort

/-!
# Devices and leases of the daemon

The daemon keeps a record of every device it knows and at most one lease for each of them.
An enumeration of the serial ports replaces the serial devices by those that it found; the
leases of the others go with them.  Every function here runs under the lock of the state.

Instants are in nanoseconds.
-/

namespace FluxPurr.Devd

open FluxPurr.Collections
open FluxPurr.Wire (Json)

/-! ## Errors of a handler -/

/-- `HttpError`, with its status and the details for the client. -/
structure Refusal where
  status : ℕ
  error : HttpError
  details : Option Json

def Refusal.new (status : ℕ) (code message : String) (retryable : Bool) : Refusal where
  status := status
  error := { code, message, retryable }
  details := none

variable (code message : String)

def Refusal.notFound : Refusal := .new 404 code message false

def Refusal.badRequest : Refusal := .new 400 code message false

def Refusal.forbidden : Refusal := .new 403 code message true

def Refusal.internal (message : String) : Refusal := .new 500 "internal_error" message true

def Refusal.conflict (details : Json) : Refusal where
  status := 409
  error := { code, message, retryable := true }
  details := some details

/-! ## The state -/

inductive DeviceTransport where
  | mock
  | nativeSerial
  | lan
deriving DecidableEq

inductive ConnectionState where
  | disconnected
  | connected
  | busy
  | error
deriving DecidableEq

inductive FirmwareKind where
  | product
  | ramBringup
deriving DecidableEq

structure Identity where
  firmwareKind : Option FirmwareKind
  deviceId : String
  firmwareVersion : String
deriving DecidableEq

structure ControlPlaneStatus where
  currentTempC : F32
  heaterEnabled : Bool
deriving DecidableEq

structure DevdEvent where
  id : String
  timestamp : String
  deviceId : Option String
  kind : String
  message : String
  payload : Json

structure DeviceRecord where
  id : String
  displayName : String
  portPath : Option String
  transport : DeviceTransport
  connection : ConnectionState
  identity : Identity
  status : ControlPlaneStatus
  events : List DevdEvent

abbrev Instant := ℕ

structure WebLease where
  leaseId : String
  deviceId : String
  expiresAt : Instant
  ttlMs : ℕ
deriving DecidableEq

structure UsbSerialIdentity where
  vid : UInt16
  pid : UInt16
  serialNumber : String
deriving DecidableEq

inductive FirmwareOperation where
  | update
  | installRecovery
deriving DecidableEq

structure FirmwareApproval where
  leaseId : String
  deviceId : String
  portPath : String
  usbIdentity : Option UsbSerialIdentity
  romMac : String
  bundleSha256 : String
  operation : FirmwareOperation
  allowDowngrade : Bool
  preflightDigest : String
  expiresAt : Instant
deriving DecidableEq

structure DevdState where
  devices : HashMap String DeviceRecord
  leases : HashMap String WebLease
  firmwareApprovals : HashMap String FirmwareApproval
  /-- `u64` -/
  sequence : ℕ

def nanosPerMilli : ℕ := 1000000

def defaultLeaseTtlMs : ℕ := 30000

def defaultEventLimit : ℕ := 1000

/-- `u64::MAX` -/
def sequenceMax : ℕ := 2 ^ 64 - 1

/-- The text that `next_id` makes of the clock of the system and the sequence number. -/
def idText (label : String) (nowMillis sequence : ℕ) : String :=
  label ++ "-" ++ nowMillis.repr ++ "-" ++ sequence.repr

namespace DevdState

def nextId (label : String) (nowMillis : ℕ) (state : DevdState) : DevdState × String :=
  let sequence := min (state.sequence + 1) sequenceMax
  ({ state with sequence }, idText label nowMillis sequence)

/-- `push_bounded` -/
def pushBounded {α : Type} (values : List α) (value : α) (limit : ℕ) : List α :=
  (if limit ≤ values.length then values.drop 1 else values) ++ [value]

def pushEvent (event : DevdEvent) (state : DevdState) : DevdState :=
  { state with
    devices := state.devices.mapValues fun device =>
      if event.deviceId = some device.id then
        { device with events := pushBounded device.events event defaultEventLimit }
      else device }

/-- The leases that are left, and those that have expired. -/
def cleanupLeases (now : Instant) (state : DevdState) : DevdState × List WebLease :=
  ({ state with leases := state.leases.retain fun _ lease => now < lease.expiresAt },
    state.leases.values.filter fun lease => lease.expiresAt ≤ now)

/-- The readings of the clock while a lease is created: at the cleanup, at the comparison
with each lease of the device, at the grant, and of the clock of the system. -/
structure LeaseClock where
  cleanup : Instant
  compared : String → Instant
  granted : Instant
  nowMillis : ℕ

def grantedLease (leaseId deviceId : String) (granted : Instant) : WebLease where
  leaseId := leaseId
  deviceId := deviceId
  expiresAt := granted + defaultLeaseTtlMs * nanosPerMilli
  ttlMs := defaultLeaseTtlMs

def createLease (deviceId : String) (clock : LeaseClock) (state : DevdState) :
    DevdState × Except Refusal WebLease :=
  let state := (state.cleanupLeases clock.cleanup).1
  if (state.devices.lookup deviceId).isNone then
    (state, .error (.notFound "device_not_found" "Device not found."))
  else
    match state.leases.entries.find? fun entry =>
        entry.2.deviceId = deviceId && clock.compared entry.1 < entry.2.expiresAt with
    | some existing =>
        (state, .error (.conflict "lease_conflict" "Another client owns the active USB lease."
          (.object [("leaseId", .string existing.2.leaseId)])))
    | none =>
        let (state, leaseId) := state.nextId "lease" clock.nowMillis
        let lease := grantedLease leaseId deviceId clock.granted
        ({ state with leases := state.leases.insert lease.leaseId lease }, .ok lease)

def requireLease (deviceId : String) (leaseId : Option String) (now : Instant)
    (state : DevdState) : DevdState × Except Refusal Unit :=
  let state := (state.cleanupLeases now).1
  match leaseId with
  | none => (state, .error (.forbidden "lease_required" "A valid device lease is required."))
  | some leaseId =>
      match state.leases.lookup leaseId with
      | none => (state, .error (.forbidden "lease_expired" "The device lease expired."))
      | some lease =>
          if lease.deviceId ≠ deviceId then
            (state, .error
              (.forbidden "lease_device_mismatch" "The lease belongs to another device."))
          else (state, .ok ())

/-- The part of the handler under the lock: the cleanup and the renewal read the clock. -/
def heartbeatLease (leaseId : String) (cleanup renewed : Instant) (state : DevdState) :
    DevdState × Except Refusal WebLease :=
  let state := (state.cleanupLeases cleanup).1
  match state.leases.lookup leaseId with
  | none => (state, .error (.forbidden "lease_expired" "The device lease expired."))
  | some lease =>
      let lease := { lease with
        expiresAt := renewed + defaultLeaseTtlMs * nanosPerMilli
        ttlMs := defaultLeaseTtlMs }
      ({ state with leases := state.leases.insert leaseId lease }, .ok lease)

def deleteLease (leaseId : String) (state : DevdState) : DevdState × Option WebLease :=
  ({ state with leases := state.leases.erase leaseId }, state.leases.lookup leaseId)

end DevdState

/-! ## The serial ports of the host -/

inductive TargetOs where
  | macos
  | windows
  | linux
deriving DecidableEq

structure UsbPortInfo where
  vid : UInt16
  pid : UInt16
  serialNumber : Option String
  product : Option String

inductive SerialPortType where
  | usbPort (info : UsbPortInfo)
  | other

structure SerialPortInfo where
  portName : String
  portType : SerialPortType

/-- What a scan asks the operating system, and the id and time that its events get. -/
structure Host where
  targetOs : TargetOs
  /-- `none` when the enumeration fails. -/
  availablePorts : Option (List SerialPortInfo)
  pathExists : String → Bool
  canonicalize : String → Option String
  eventId : String
  timestamp : String

def esp32s3UsbSerialJtagVid : UInt16 := 0x303a

def esp32s3UsbSerialJtagPid : UInt16 := 0x1001

/-- The rest of the text behind a beginning that it has. -/
def strip (beginning text : String) : Option String :=
  if beginning.toList.isPrefixOf text.toList then
    some (String.ofList (text.toList.drop beginning.toList.length))
  else none

/-- `{:04x}` -/
def hex4 (value : UInt16) : String := String.ofList ((Nat.toDigits 16 value.toNat).leftpad 4 '0')

def underscores (portName : String) : String :=
  String.ofList (portName.toList.map fun c => if c = '/' then '_' else c)

namespace Host

def preferredFluxPurrPortPath (host : Host) (portName : String) : String :=
  if host.targetOs = .macos then
    match strip "/dev/tty.usbmodem" portName with
    | some suffix => "/dev/cu.usbmodem" ++ suffix
    | none => portName
  else portName

def serialLockIdentity (host : Host) (portPath : String) : String :=
  let portPath := if host.targetOs = .macos then
      match strip "/dev/tty." portPath with
      | some suffix => "/dev/cu." ++ suffix
      | none => portPath
    else portPath
  (host.canonicalize portPath).getD portPath

def serialSessionKey (host : Host) (portPath : String) : String := host.serialLockIdentity portPath

def serialPortPathsMatch (host : Host) (requested enumerated : String) : Bool :=
  if requested = enumerated then true
  else if host.targetOs = .windows then false
  else host.serialSessionKey requested = host.serialSessionKey enumerated

def isFluxPurrUsbCandidate (port : SerialPortInfo) : Bool :=
  match port.portType with
  | .usbPort info => info.vid = esp32s3UsbSerialJtagVid && info.pid = esp32s3UsbSerialJtagPid
  | .other => false

end Host

def nativePlaceholderIdentity : Identity where
  firmwareKind := none
  deviceId := ""
  firmwareVersion := "unknown"

def nativePlaceholderStatus : ControlPlaneStatus where
  currentTempC := F32.one.neg
  heaterEnabled := false

def DeviceRecord.nativeSerialPlaceholder (id displayName portPath : String) : DeviceRecord where
  id := id
  displayName := displayName
  portPath := some portPath
  transport := .nativeSerial
  connection := .disconnected
  identity := nativePlaceholderIdentity
  status := nativePlaceholderStatus
  events := []

def serialDeviceRecord (portName : String) (portInfo : Option SerialPortInfo) : DeviceRecord :=
  match portInfo.map SerialPortInfo.portType with
  | some (.usbPort info) =>
      .nativeSerialPlaceholder
        ("serial-" ++ hex4 info.vid ++ "-" ++ hex4 info.pid ++ "-" ++
          info.serialNumber.getD (underscores portName))
        (info.product.getD "USB serial device") portName
  | _ =>
      .nativeSerialPlaceholder ("serial-" ++ underscores portName) "Authorized serial device"
        portName

def missingSerialDeviceRecord (host : Host) (portName : String)
    (availablePorts : List SerialPortInfo) : DeviceRecord :=
  let device := serialDeviceRecord portName none
  let candidates := (availablePorts.filter Host.isFluxPurrUsbCandidate).map (·.portName)
  { device with
    connection := .error
    events := [
      { id := host.eventId
        timestamp := host.timestamp
        deviceId := some device.id
        kind := "serial"
        message := "authorized serial port missing"
        payload := .object [("code", .string "authorized_port_missing"),
          ("portPath", .string portName), ("candidates", .array (candidates.map Json.string))] }] }

def scanSerialDevicesFromAvailable (host : Host) (serialPort : Option String)
    (availablePorts : List SerialPortInfo) : List DeviceRecord :=
  match serialPort with
  | none =>
      (availablePorts.filter Host.isFluxPurrUsbCandidate).map fun port =>
        serialDeviceRecord (host.preferredFluxPurrPortPath port.portName) (some port)
  | some portName =>
      let present := if host.targetOs = .windows then
          availablePorts.any fun port => host.serialPortPathsMatch portName port.portName
        else host.pathExists portName
      if present then
        [serialDeviceRecord portName
          (availablePorts.find? fun port => host.serialPortPathsMatch portName port.portName)]
      else [missingSerialDeviceRecord host portName availablePorts]

def scanSerialDevices (host : Host) (serialPort : Option String) : List DeviceRecord :=
  scanSerialDevicesFromAvailable host serialPort (host.availablePorts.getD [])

/-! ## Rescans -/

namespace DevdState

/-- A device that the scan found, and the port paths that are stale so far. -/
def refreshSerialDevice (found : HashMap String DeviceRecord × List String)
    (device : DeviceRecord) : HashMap String DeviceRecord × List String :=
  match found.1.lookup device.id with
  | some existing =>
      (found.1.insert device.id { existing with
          displayName := device.displayName
          portPath := device.portPath
          transport := device.transport },
        if existing.transport = .nativeSerial ∧ existing.portPath ≠ device.portPath then
          found.2 ++ existing.portPath.toList
        else found.2)
  | none => (found.1.insert device.id device, found.2)

/-- The device is not a serial one, or the scan has found it. -/
def stillThere (serialDevices : List DeviceRecord) (device : DeviceRecord) : Bool :=
  device.transport ≠ .nativeSerial || (serialDevices.map (·.id)).contains device.id

def refreshSerialDevices (serialDevices : List DeviceRecord) (state : DevdState) :
    DevdState × List String :=
  let devices := state.devices.retain fun _ device => stillThere serialDevices device
  let stalePorts := (state.devices.values.filter fun device =>
    !stillThere serialDevices device).filterMap (·.portPath)
  let leases := state.leases.retain fun _ lease => (devices.lookup lease.deviceId).isSome
  let found := serialDevices.foldl refreshSerialDevice (devices, stalePorts)
  ({ state with devices := found.1, leases }, found.2)

/-- `list_devices`, `serial_port` being the configured one. -/
def listDevices (serialPort : Option String) (host : Host) (state : DevdState) :
    DevdState × List String :=
  state.refreshSerialDevices (scanSerialDevices host serialPort)

/-- The handler `create_lease`: the devices are scanned first. -/
def createLeaseHandler (serialPort : Option String) (host : Host) (deviceId : String)
    (clock : LeaseClock) (state : DevdState) : DevdState × Except Refusal WebLease :=
  (state.refreshSerialDevices (scanSerialDevices host serialPort)).1.createLease deviceId clock

/-- The port is scanned whatever port is configured. -/
def findLocalUpdateTarget (host : Host) (port : String) (state : DevdState) :
    DevdState × Except Refusal DeviceRecord :=
  let state := (state.refreshSerialDevices (scanSerialDevices host (some port))).1
  let target := state.devices.values.find? fun device =>
    device.transport = .nativeSerial &&
      device.portPath.any fun candidate => host.serialPortPathsMatch port candidate
  (state, match target with
    | none => .error (.badRequest "serial_port_not_found"
        "The supplied serial port is not present in the current device set.")
    | some target =>
        if target.connection = .error then .error (.badRequest "serial_port_missing"
          "The supplied serial port is not available; no replacement port will be selected.")
        else .ok target)

end DevdState

end FluxPurr.Devd
