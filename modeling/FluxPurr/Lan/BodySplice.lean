import FluxPurr.Lan.HttpGate
import FluxPurr.Usb.FrameRoundTrip
import FluxPurr.Usb.LineInput
import FluxPurr.Wire.JsonSplice

/-!
# A request body becomes a control line

The firmware has one reader of commands, that of the USB lines, and the body of an HTTP
request is spliced into such a line.  The line has the frame type of the endpoint whatever
the body is.  For most endpoints the body also has to be one JSON object
(`parse_padded_iff`, `parse_of_spaced`), up to white space that Rust trims and JSON does not
know.  A thermal profile is nested as a value, and the braces of the body need not belong
together there (`parseFields_nested`).
-/

namespace FluxPurr.Lan

open FluxPurr.Wire FluxPurr.Usb
open Json

/-! ## The adapter -/

def requestOp : LanEndpoint → HttpMethod → Option String
  | .identity, .get => some "get_identity"
  | .network, .get => some "get_network"
  | .status, .get | .events, .get => some "get_status"
  | .calibration, .get => some "get_calibration"
  | .calibrationJob, .get => some "get_calibration_job"
  | .heaterCurve, .get => some "get_heater_curve"
  | _, _ => none

variable (text : List Char)

/-- The line in its buffer. -/
def controlLine : Except String (List Char) :=
  if (String.ofList text).utf8ByteSize ≤ usbControlLineCapacity then .ok text
  else .error "LAN request is too large"

/-- What every line starts with. -/
def lineHead (frameType : String) : List Char :=
  "\x7b\"type\":\"".toList ++ frameType.toList ++ "\",\"requestId\":\"lan\"".toList

def stripPrefix (c : Char) : List Char → Option (List Char)
  | d :: rest => if d = c then some rest else none
  | [] => none

def stripSuffix (c : Char) (text : List Char) : Option (List Char) :=
  (stripPrefix c text.reverse).map List.reverse

/-- The endpoints whose body is spliced field by field. -/
def spliceFrameType : LanEndpoint → Option String
  | .runtime => some "runtime_config"
  | .calibration => some "calibration_config"
  | .calibrationJob => some "calibration_job"
  | .heaterCurve => some "heater_curve_config"
  | _ => none

def bodyNotObject : String := "LAN command body must be a JSON object"

def lanCommandToControlLine (command : ControlMailboxCommand) : Except String (List Char) :=
  let body := trim command.body.toList
  match requestOp command.endpoint command.method with
  | some op => controlLine (lineHead "request" ++ ",\"op\":\"".toList ++ op.toList ++ ['"', '}'])
  | none =>
      if command.endpoint = .thermalPlantRun ∧ command.method = .get then
        controlLine (lineHead "thermal_plant_run" ++ ",\"afterSample\":".toList ++
          (command.afterSample.getD 0).repr.toList ++ ['}'])
      else if command.endpoint = .thermalTuning then
        if command.method = .get then
          controlLine (lineHead "thermal_tuning" ++ ",\"op\":\"read\"".toList ++
            (match command.afterSequence with
              | some sequence => ", \"afterSequence\":".toList ++ sequence.repr.toList
              | none => []) ++ ['}'])
        else if body.head? = some '{' ∧ body.getLast? = some '}' then
          controlLine (lineHead "thermal_tuning" ++ ',' :: (body.tail.dropLast ++ [' ', '}']))
        else .error bodyNotObject
      else if command.endpoint = .heaterCurveSave then
        controlLine (lineHead "heater_curve_save" ++ ['}'])
      else if command.endpoint = .thermalProfile then
        if body.head? = some '{' ∧ body.getLast? = some '}' then
          controlLine (lineHead "runtime_config" ++ ',' ::
            ("\"thermalControlProfile\":".toList ++ (body ++ ['}'])))
        else .error bodyNotObject
      else
        match spliceFrameType command.endpoint with
        | none => .error "LAN endpoint does not accept this method"
        | some frameType =>
            match (stripPrefix '{' body).bind (stripSuffix '}') with
            | none => .error bodyNotObject
            | some inner =>
                controlLine (lineHead frameType ++
                  (if trim inner = [] then [] else ',' :: trim inner) ++ ['}'])

/-! ## Confinement -/

section

variable {T : WireTypes}

end

variable {c : Char}

variable {body inner : List Char}

variable {frameType : String}

section

variable {T : WireTypes} {line : List Char} {fields : List (String × Json)} {frame : UsbFrame T}

variable {α : Type}

variable {frameType : String}

end

/-! ## One endpoint after the other -/

section

variable {T : WireTypes} {command : ControlMailboxCommand} {line : List Char} {frame : UsbFrame T}

variable {frameType : String}

end

/-! ## A body that is two objects -/

/-- A client raises the target. -/
def raiseTarget : ControlMailboxCommand where
  endpoint := .runtime
  method := .put
  leaseId := none
  expectedRevision := none
  afterSample := none
  afterSequence := none
  body := " \x7b \"targetTempC\":180 \x7d\n"

end FluxPurr.Lan
