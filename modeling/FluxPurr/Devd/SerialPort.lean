import FluxPurr.Lan.HttpGate
import FluxPurr.Runs.Program
import FluxPurr.Wire.Json

/-!
# The serial port of the host

What the daemon calls on a port is an effect with an answer, and the clock is one of them.
A request is written in pieces of whatever size the port takes; an error of the port may be
one that is worth another try on a reopened port.
-/

namespace FluxPurr.Devd

open FluxPurr.Runs

/-! ## Errors -/

inductive IoErrorKind where
  | notFound
  | brokenPipe
  | connectionAborted
  | connectionReset
  | unexpectedEof
  | timedOut
  | wouldBlock
  | interrupted
  | writeZero
  | other
deriving DecidableEq

/-- An error of the operating system, and how it is displayed. -/
structure IoError where
  kind : IoErrorKind
  message : String
deriving DecidableEq

structure HttpError where
  code : String
  message : String
  retryable : Bool
deriving DecidableEq

/-- `str::contains` -/
def contains (text part : String) : Bool :=
  text.toList.tails.any fun rest => part.toList.isPrefixOf rest

def isRecoverableSerialErrorMessage (message : String) : Bool :=
  contains message "Broken pipe" || contains message "broken pipe" ||
    contains message "No such file or directory" || contains message "Connection reset" ||
    contains message "Connection aborted" || contains message "UnexpectedEof" ||
    contains message "Device not configured" || contains message "device not configured"

def isRecoverableSerialIoError (error : IoError) : Bool :=
  error.kind = .notFound || error.kind = .brokenPipe || error.kind = .connectionAborted ||
    error.kind = .connectionReset || error.kind = .unexpectedEof ||
    contains error.message "Device not configured" ||
    contains error.message "device not configured"

def serialIoPrefix : String := "Serial I/O failed: "

def serialIoHttpError (error : IoError) : HttpError where
  code := "serial_io_failed"
  message := serialIoPrefix ++ error.message
  retryable := true

def isRecoverableWriteHttpError (error : HttpError) : Bool :=
  error.code = "serial_io_failed" && error.retryable &&
    serialIoPrefix.toList.isPrefixOf error.message.toList &&
    isRecoverableSerialErrorMessage
      (.ofList (error.message.toList.drop serialIoPrefix.toList.length))

def serialTimeoutConfigHttpError (message : String) : HttpError where
  code := "serial_timeout_config_failed"
  message := "Failed to configure serial timeout: " ++ message
  retryable := true

/-! ## Effects -/

/-- A byte from the port.  Only the proofs see whether the device sent it after the request
was handed over. -/
structure PortByte where
  byte : UInt8
  reply : Bool
deriving DecidableEq

/-- On whose account a request is written. -/
inductive WriteCause where
  | request
  | reopened
  | runtimeReady
  | stalled
deriving DecidableEq

inductive SerialEffect where
  | now
  | takeCachedSession
  | portPathIsPresent
  | requireIdentity
  | openSession
  | beginWrite (cause : WriteCause)
  | write (bytes : List UInt8)
  | flush
  | finishWrite
  | read
  | emitLogLine (line : List PortByte)

/-- Times are in milliseconds.  A port takes some of the bytes it is given. -/
@[reducible] def SerialEffect.Answer : SerialEffect → Type
  | .now => ℕ
  | .takeCachedSession | .portPathIsPresent => Bool
  | .requireIdentity | .openSession => Except HttpError Unit
  | .beginWrite _ | .finishWrite => Except String Unit
  | .write _ => Except IoError ℕ
  | .flush => Except IoError Unit
  | .read => Except IoError (List PortByte)
  | .emitLogLine _ => Unit

/-- Why an exchange ends without a payload.  It is `cut` when it is observed no further. -/
inductive Stop where
  | cut
  | io (error : IoError)
  | http (error : HttpError)
deriving DecidableEq

abbrev Exchange (α : Type) : Type := ExceptT Stop (Program SerialEffect SerialEffect.Answer) α

def ask (effect : SerialEffect) : Exchange effect.Answer := ExceptT.lift (Program.perform effect)

/-- The `?` operator on an answer. -/
def orHttp : Except HttpError Unit → Exchange Unit
  | .ok () => pure ()
  | .error error => throw (.http error)

/-! ## Writing a request -/

def serialLineLimit : ℕ := 8 * 1024

def serialWriteTimeout (requestLen : ℕ) : ℕ := if 4096 < requestLen then 10000 else 2000

def validateSerialRequestLen (request : List UInt8) : Exchange Unit :=
  if serialLineLimit < request.length + 1 then
    throw (.http
      { code := "usb_request_too_large"
        message := "USB JSONL request exceeds the firmware line limit."
        retryable := false })
  else pure ()

def timedOutError : IoError := ⟨.timedOut, "timed out"⟩

def writeZeroError : IoError := ⟨.writeZero, "write zero"⟩

/-- Blocked calls are tried again after a pause. -/
def IoError.isTransient (error : IoError) : Bool :=
  error.kind = .interrupted || error.kind = .wouldBlock || error.kind = .timedOut

def writeSerialBytes (deadline : ℕ) : ℕ → List UInt8 → Exchange Unit
  | _, [] => pure ()
  | 0, _ => throw .cut
  | fuel + 1, bytes => do
      let now : ℕ ← ask .now
      if deadline ≤ now then throw (.io timedOutError)
      else
        match ← ask (.write bytes) with
        | .ok 0 => throw (.io writeZeroError)
        | .ok (count + 1) => writeSerialBytes deadline fuel (bytes.drop (count + 1))
        | .error error =>
            if error.isTransient then writeSerialBytes deadline fuel bytes
            else throw (.io error)

def flushSerialWrite (deadline : ℕ) : ℕ → Exchange Unit
  | 0 => throw .cut
  | fuel + 1 => do
      let now : ℕ ← ask .now
      if deadline ≤ now then throw (.io timedOutError)
      else
        match ← ask .flush with
        | .ok () => pure ()
        | .error error =>
            if error.isTransient then flushSerialWrite deadline fuel else throw (.io error)

/-- The request and its line feed, and that the port has sent them. -/
def writeSerialLine (fuel : ℕ) (request : List UInt8) (deadline : ℕ) : Exchange Unit := do
  writeSerialBytes deadline fuel request
  writeSerialBytes deadline fuel [0x0A]
  flushSerialWrite deadline fuel

def writeSerialRequest (fuel : ℕ) (request : List UInt8) (deadline : ℕ) (cause : WriteCause) :
    Exchange Unit := do
  validateSerialRequestLen request
  orHttp ((← ask (.beginWrite cause)).mapError serialTimeoutConfigHttpError)
  let now : ℕ ← ask .now
  let writeDeadline := min (now + serialWriteTimeout request.length) deadline
  match ← ExceptT.lift (writeSerialLine fuel request writeDeadline).run with
  | .ok () => orHttp ((← ask .finishWrite).mapError serialTimeoutConfigHttpError)
  | .error .cut => throw .cut
  | .error (.http error) => throw (.http error)
  | .error (.io error) => do
      -- The timeout of the port is restored, and the first error reported.
      let _ ← ask .finishWrite
      throw (.http (serialIoHttpError error))

/-! ## Opening a port -/

def serialReconnectTimeout : HttpError where
  code := "serial_reconnect_timeout"
  message := "Timed out waiting for the USB serial port to reappear."
  retryable := true

def reopenSerialSession (deadline : ℕ) : ℕ → Exchange Unit
  | 0 => throw .cut
  | fuel + 1 => do
      let now : ℕ ← ask .now
      if deadline ≤ now then throw (.http serialReconnectTimeout)
      else
        let present : Bool ← ask .portPathIsPresent
        if present = true then
          match ← ask .openSession with
          | .ok () => pure ()
          | .error error =>
              if error.retryable then reopenSerialSession deadline fuel else throw (.http error)
        else reopenSerialSession deadline fuel

def takeOrOpenSerialSession (fuel : ℕ) (deadline : ℕ) : Exchange Unit := do
  let cached : Bool ← ask .takeCachedSession
  if cached = true then
    let present : Bool ← ask .portPathIsPresent
    if present = true then orHttp (← ask .requireIdentity)
    else reopenSerialSession deadline fuel
  else reopenSerialSession deadline fuel

/-- After a recoverable error the request is written once more, on a port that is opened
again. -/
def writeSerialRequestWithReopen (fuel : ℕ) (request : List UInt8) (deadline : ℕ)
    (cause : WriteCause) : Exchange Unit := do
  match ← ExceptT.lift (writeSerialRequest fuel request deadline cause).run with
  | .ok () => pure ()
  | .error (.http error) =>
      if isRecoverableWriteHttpError error then do
        reopenSerialSession deadline fuel
        writeSerialRequest fuel request deadline .reopened
      else throw (.http error)
  | .error stop => throw stop

end FluxPurr.Devd
