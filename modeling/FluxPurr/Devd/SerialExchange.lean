import FluxPurr.Devd.SerialPort

/-!
# One exchange over the serial port

The request is written, and the lines that come back are looked at until one answers it or
the time is up.  Four things make the daemon write the request again: the runtime reports
that it is ready after a reset or a `startup_busy`, a read fails and the port is opened
again, a write fails, and a read-only request stalls.
-/

namespace FluxPurr.Devd

open FluxPurr.Wire

/-! ## Lines -/

def serialLineContentLimit : ℕ := serialLineLimit - 1

/-- The text of a line without the white space around it, if it is text. -/
def trimmedText (line : List UInt8) : Option (List Char) :=
  (String.fromUTF8? ⟨line.toArray⟩).map fun text => Lan.trim text.toList

def serialLineIsUsbResetMarker (line : List UInt8) : Bool :=
  trimmedText line = some "reset_reason=core_usb_uart".toList ||
    trimmedText line = some "reset_reason=core_usb_jtag".toList

def serialLineIsRuntimeReady (line : List UInt8) : Bool :=
  trimmedText line = some "boot_stage=runtime_ready".toList

/-- The line that is being read. -/
structure LineBuffer where
  line : List PortByte := []
  discardingOverlongLine : Bool := false

/-- The buffer after a byte, and the line if the byte ended one. -/
def serialLineFinished (buffer : LineBuffer) (byte : PortByte) :
    LineBuffer × Option (List PortByte) :=
  if byte.byte = 0x0A then
    if buffer.discardingOverlongLine = true then ({}, none) else ({}, some buffer.line)
  else if buffer.discardingOverlongLine = true then (buffer, none)
  else if buffer.line.length < serialLineContentLimit then
    ({ buffer with line := buffer.line ++ [byte] }, none)
  else ({ line := [], discardingOverlongLine := true }, none)

/-! ## Responses -/

structure UsbResponseWire where
  frameType : String
  requestId : Option String
  ok : Option Bool
  result : Option Json
  error : Option HttpError

def usbError (message : String) : HttpError where
  code := "usb_error"
  message := message
  retryable := true

def decodeUsbResponseFrame (frame : UsbResponseWire) (requestId : String) :
    Except HttpError (Option Json) :=
  if frame.frameType = "error" ∧ frame.requestId = some requestId then
    .error (frame.error.getD (usbError "Firmware returned an unsuccessful USB error frame."))
  else if frame.frameType ≠ "response" ∨ frame.requestId ≠ some requestId then .ok none
  else if frame.ok = some true then .ok (some (frame.result.getD .null))
  else .error (frame.error.getD (usbError "Firmware returned an unsuccessful USB response."))

def framePrefix : List UInt8 := "\x7b\"type\":".toUTF8.toList

/-- The first frame in the line that answers the request.  `firstFrame` is what the JSON
library reads from the front of a text. -/
def decodeUsbResponseLine (firstFrame : List UInt8 → Option UsbResponseWire) (requestId : String) :
    List UInt8 → Except HttpError (Option Json)
  | [] => .ok none
  | byte :: rest =>
      if framePrefix.isPrefixOf (byte :: rest) = true then
        match firstFrame (byte :: rest) with
        | none => decodeUsbResponseLine firstFrame requestId rest
        | some frame =>
            match decodeUsbResponseFrame frame requestId with
            | .error error => .error error
            | .ok (some payload) => .ok (some payload)
            | .ok none => decodeUsbResponseLine firstFrame requestId rest
      else decodeUsbResponseLine firstFrame requestId rest

def isRetryableStartupBusy (error : HttpError) : Bool :=
  error.retryable && error.code = "startup_busy"

/-! ## The exchange -/

inductive SerialRetryPolicy where
  | readOnly
  | singleShot
deriving DecidableEq

def serialRpcTimeout : SerialRetryPolicy → ℕ
  | .readOnly => 45000
  | .singleShot => 12000

def serialRequestTimeout (policy : SerialRetryPolicy) (requestLen : ℕ) : ℕ :=
  max (serialRpcTimeout policy) (serialWriteTimeout requestLen + 10000)

structure ReadOnlyResponseRetry where
  enabled : Bool
  remaining : ℕ
  lastProgress : ℕ

def ReadOnlyResponseRetry.new (policy : SerialRetryPolicy) (now : ℕ) : ReadOnlyResponseRetry where
  enabled := policy = .readOnly
  remaining := 2
  lastProgress := now

def ReadOnlyResponseRetry.readyToRetry (retry : ReadOnlyResponseRetry) (now deadline : ℕ)
    (startupPending : Bool) : Bool :=
  retry.enabled && 0 < retry.remaining && !startupPending && now < deadline &&
    10000 ≤ now - retry.lastProgress

structure SerialExchangeContext where
  requestId : String
  request : List UInt8
  retryPolicy : SerialRetryPolicy
  firstFrame : List UInt8 → Option UsbResponseWire

/-- What the exchange keeps between two reads. -/
structure ExchangeState where
  retryAfterRuntimeReady : Bool := false
  buffer : LineBuffer := {}
  readRetry : ReadOnlyResponseRetry

section

variable (context : SerialExchangeContext) (fuel deadline : ℕ)

inductive SerialLineAction where
  | proceed (retryAfterRuntimeReady : Bool)
  | response (payload : Json)

def shouldRetryRequestAfterRuntimeReady (retryPending : Bool) (line : List UInt8) (now : ℕ) :
    Bool :=
  retryPending && now < deadline && serialLineIsRuntimeReady line

def processSerialResponseLine (retryAfterRuntimeReady : Bool) (line : List PortByte) :
    Exchange SerialLineAction := do
  let text := line.map PortByte.byte
  ask (.emitLogLine line)
  if serialLineIsUsbResetMarker text = true then pure (.proceed true)
  else
    let now : ℕ ← ask .now
    if shouldRetryRequestAfterRuntimeReady deadline retryAfterRuntimeReady text now = true then do
      writeSerialRequestWithReopen fuel context.request deadline .runtimeReady
      pure (.proceed false)
    else
      match decodeUsbResponseLine context.firstFrame context.requestId text with
      | .ok (some payload) => pure (.response payload)
      | .ok none => pure (.proceed retryAfterRuntimeReady)
      | .error error =>
          if isRetryableStartupBusy error = true then
            let now : ℕ ← ask .now
            if now < deadline then pure (.proceed true) else throw (.http error)
          else throw (.http error)

inductive SerialChunkResult where
  | proceed (retryAfterRuntimeReady : Bool) (buffer : LineBuffer)
  | response (payload : Json)

def processSerialReadChunk (retryAfterRuntimeReady : Bool) (buffer : LineBuffer) :
    List PortByte → Exchange SerialChunkResult
  | [] => pure (.proceed retryAfterRuntimeReady buffer)
  | byte :: bytes =>
      match serialLineFinished buffer byte with
      | (buffer, none) => processSerialReadChunk retryAfterRuntimeReady buffer bytes
      | (buffer, some line) => do
          match ← processSerialResponseLine context fuel deadline retryAfterRuntimeReady line with
          | .proceed retry => processSerialReadChunk retry buffer bytes
          | .response payload => pure (.response payload)

/-- A read-only request that has stalled is written once more, on the same port. -/
def resendIfStalled (retry : ReadOnlyResponseRetry) (now : ℕ) (startupPending : Bool) :
    Exchange ReadOnlyResponseRetry := do
  if retry.readyToRetry now deadline startupPending = true then do
    orHttp (← ask .requireIdentity)
    writeSerialRequest fuel context.request deadline .stalled
    pure { retry with remaining := retry.remaining - 1, lastProgress := now }
  else pure retry

def usbResponseTimeout : HttpError where
  code := "usb_response_timeout"
  message := "Timed out waiting for a matching USB JSONL response."
  retryable := true

def awaitResponse : ℕ → ExchangeState → Exchange Json
  | 0, _ => throw .cut
  | rounds + 1, state => do
      let now : ℕ ← ask .now
      if deadline ≤ now then throw (.http usbResponseTimeout)
      else
        let retryNow : ℕ ← ask .now
        let readRetry ←
          resendIfStalled context fuel deadline state.readRetry retryNow
            state.retryAfterRuntimeReady
        match ← ask .read with
        | .ok [] => awaitResponse rounds { state with readRetry := readRetry }
        | .ok (byte :: bytes) =>
            let progress : ℕ ← ask .now
            let readRetry := { readRetry with lastProgress := progress }
            match ← processSerialReadChunk context fuel deadline state.retryAfterRuntimeReady
                state.buffer (byte :: bytes) with
            | .response payload => pure payload
            | .proceed retry buffer =>
                awaitResponse rounds
                  { retryAfterRuntimeReady := retry, buffer := buffer, readRetry := readRetry }
        | .error error =>
            if error.kind = .timedOut ∨ error.kind = .wouldBlock then
              awaitResponse rounds { state with readRetry := readRetry }
            else if isRecoverableSerialIoError error = true then do
              reopenSerialSession deadline fuel
              writeSerialRequestWithReopen fuel context.request deadline .reopened
              awaitResponse rounds { readRetry := readRetry }
            else throw (.http (serialIoHttpError error))

end

/-- `fuel` is how long the exchange is observed. -/
def serialExchangeBlocking (context : SerialExchangeContext) (fuel : ℕ) : Exchange Json := do
  let start : ℕ ← ask .now
  let deadline := start + serialRequestTimeout context.retryPolicy context.request.length
  takeOrOpenSerialSession fuel deadline
  writeSerialRequestWithReopen fuel context.request deadline .request
  let now : ℕ ← ask .now
  awaitResponse context fuel deadline fuel { readRetry := .new context.retryPolicy now }

end FluxPurr.Devd
