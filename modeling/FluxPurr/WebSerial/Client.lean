import FluxPurr.Runs.Reaches
import FluxPurr.WebSerial.SerialText

/-!
# The Web Serial client

`WebSerialClient` holds what the client keeps between two turns of the event loop: the port in
use, the read loops, the decoder and the line buffer that all connections share, the pending
requests and the chain of writes.  A pending request has its timer; the two are set and cleared
together.  `Session` adds what has happened so far.

An event is one turn (`Session.step`): a call, a chunk, the end of a write, a timer, the end of
a stream.  A write that stays blocked is one whose end never comes.  What `JSON.parse` makes of
a text is a parameter.
-/

namespace FluxPurr.WebSerial

/-! ## Frames -/

/-- What `JSON.parse` gives.  A number is kept as it is written, with whether it is zero. -/
inductive JsValue where
  | null
  | boolean (value : Bool)
  | number (literal : String) (isZero : Bool)
  | string (text : String)
  | array (items : List JsValue)
  | object (fields : List (String × JsValue))

namespace JsValue

def isTruthy : JsValue → Bool
  | null => false
  | boolean value => value
  | number _ isZero => !isZero
  | string text => text ≠ ""
  | array _ | object _ => true

/-- `value?.name`, which is undefined for all but the fields of an object.  Of two fields with
one name the later one counts. -/
def field? : JsValue → String → Option JsValue
  | object fields, name => (fields.reverse.find? fun field => field.1 = name).map Prod.snd
  | _, _ => none

/-- `value ?? default` -/
def coalesce (value : Option JsValue) (default : JsValue) : JsValue :=
  match value with
  | none | some null => default
  | some value => value

end JsValue

structure ControlPlaneClientError where
  message : JsValue
  code : JsValue
  retryable : JsValue
  details : Option JsValue := none

namespace ControlPlaneClientError

def retryableError (message code : String) : ControlPlaneClientError :=
  { message := .string message, code := .string code, retryable := .boolean true }

def responseTimeout : ControlPlaneClientError :=
  retryableError "Timed out waiting for a matching USB JSONL response." "usb_response_timeout"

def notReadable : ControlPlaneClientError :=
  retryableError "Web Serial port is not readable." "web_serial_not_readable"

def streamClosed : ControlPlaneClientError :=
  retryableError "Web Serial stream closed before a USB JSONL response."
    "web_serial_stream_closed"

def closed : ControlPlaneClientError :=
  retryableError "Web Serial connection closed." "web_serial_closed"

def unsuccessful (frame : JsValue) : ControlPlaneClientError :=
  let error := frame.field? "error"
  let errorField (name : String) := error.bind fun error => error.field? name
  { message := .coalesce (errorField "message")
      (.string "Firmware returned an unsuccessful USB response.")
    code := .coalesce (errorField "code") (.string "usb_error")
    retryable := .coalesce (errorField "retryable") (.boolean true)
    details := errorField "details" }

end ControlPlaneClientError

section

variable (jsonParse : List Char → Option JsValue)

/-- A value that is not truthy counts as no frame. -/
def tryParse (candidate : List Char) : Option JsValue :=
  (jsonParse candidate).filter JsValue.isTruthy

def indexOf (c : Char) (text : List Char) : Option ℕ := text.findIdx? fun other => other = c

def lastIndexOf (c : Char) (text : List Char) : Option ℕ :=
  (indexOf c text.reverse).map fun index => text.length - 1 - index

/-- The line as a whole, or what stands between its first and its last brace. -/
def parseUsbResponseWire (line : List Char) : Option JsValue :=
  let trimmed := trim line
  if trimmed = [] then none
  else
    (tryParse jsonParse trimmed).or
      (match indexOf '{' trimmed, lastIndexOf '}' trimmed with
       | some firstBrace, some lastBrace =>
           if lastBrace ≤ firstBrace then none
           else tryParse jsonParse ((trimmed.take (lastBrace + 1)).drop firstBrace)
       | _, _ => none)

/-- The request that a frame responds to.  Only a string is a key of the pending requests. -/
def responseId (frame : JsValue) : Option String :=
  match frame.field? "type", frame.field? "requestId" with
  | some (.string kind), some (.string requestId) =>
      if kind = "response" ∧ requestId ≠ "" then some requestId else none
  | _, _ => none

end

/-! ## Sessions -/

/-- How the response of a request was settled. -/
inductive Settlement where
  /-- By the frame of a line, the `line`-th of its connection. -/
  | answered (connection line : ℕ) (frame : JsValue)
  | failed (error : ControlPlaneClientError)

namespace Settlement

def isOk (frame : JsValue) : Bool := (frame.field? "ok").any JsValue.isTruthy

/-- What the promise of the response becomes. -/
def outcome : Settlement → Except ControlPlaneClientError JsValue
  | answered _ _ frame =>
      if isOk frame then .ok (.coalesce (frame.field? "result") (.object []))
      else .error (.unsuccessful frame)
  | failed error => .error error

/-- The line that settled the response. -/
def source : Settlement → Option (ℕ × ℕ)
  | answered connection line _ => some (connection, line)
  | failed _ => none

end Settlement

structure WebSerialClient where
  /-- The connection whose port is in use. -/
  port : Option ℕ := none
  /-- The connections whose read loop runs. -/
  readLoops : List ℕ := []
  decoder : TextDecoder := {}
  buffer : LineBuffer := {}
  /-- The keys of the pending requests, each with its timer. -/
  pending : List String := []
  /-- The requests whose write has not ended; the first one is being written. -/
  writeChain : List String := []
  connectionAttempt : ℕ := 0
  /-- The attempts that wait for their port. -/
  connecting : List ℕ := []

structure Session extends WebSerialClient where
  /-- The number of connections that were opened. -/
  connections : ℕ := 0
  /-- The decoder as a connection found it. -/
  openedWith : ℕ → TextDecoder := fun _ => {}
  received : ℕ → List UInt8 := fun _ => []
  /-- What `decodeResponseLine` was called with. -/
  lines : ℕ → List (List Char) := fun _ => []
  sent : List (String × ℕ) := []
  settled : List (String × Settlement) := []
  /-- The writes that have ended, with their error. -/
  writes : List (String × Option ControlPlaneClientError) := []

namespace Session

variable (jsonParse : List Char → Option JsValue) (session : Session)

def settle (requestId : String) (settlement : Settlement) : Session :=
  { session with
    pending := session.pending.erase requestId
    settled := session.settled ++ [(requestId, settlement)] }

def rejectAll (error : ControlPlaneClientError) : Session :=
  { session with
    pending := []
    settled := session.settled ++ session.pending.map fun requestId =>
      (requestId, .failed error) }

/-- The frame of a line and the request it responds to. -/
def response (line : List Char) : Option (String × JsValue) :=
  (parseUsbResponseWire jsonParse line).bind fun frame =>
    (responseId frame).map fun requestId => (requestId, frame)

variable (connection : ℕ)

def record (line : List Char) : Session :=
  { session with
    lines := Function.update session.lines connection (session.lines connection ++ [line]) }

def decodeResponseLine (line : List Char) : Session :=
  match response jsonParse line with
  | some (requestId, frame) =>
      if requestId ∈ session.pending then
        (session.record connection line).settle requestId
          (.answered connection (session.lines connection).length frame)
      else session.record connection line
  | none => session.record connection line

/-- The buffers after a chunk, whose lines are not decoded yet. -/
def consumeChunk (bytes : List UInt8) : Session :=
  let decoded := session.decoder.decode bytes
  { session with
    decoder := decoded.2
    buffer := (session.buffer.consumeSerialText decoded.1).2
    received := Function.update session.received connection
      (session.received connection ++ bytes) }

def chunkLines (bytes : List UInt8) : List (List Char) :=
  (session.buffer.consumeSerialText (session.decoder.decode bytes).1).1

def endLoop : Session := { session with readLoops := session.readLoops.erase connection }

/-- The loop goes on as long as its port is in use. -/
def readChunk (bytes : List UInt8) : Session :=
  let session' := (session.chunkLines bytes).foldl
    (fun session line => session.decodeResponseLine jsonParse connection line)
    (session.consumeChunk connection bytes)
  if session.port = some connection then session' else session'.endLoop connection

/-! ## Events -/

inductive Event where
  | connect
  /-- The port of an attempt was opened. -/
  | opened (attempt : ℕ) (readable : Bool)
  | connectFails (attempt : ℕ)
  | disconnect
  | exchange (requestId : String) (writable : Bool)
  | writeEnds (error : Option ControlPlaneClientError)
  | timeout (requestId : String)
  | chunk (connection : ℕ) (bytes : List UInt8)
  | streamEnds (connection : ℕ)
  | readFails (connection : ℕ) (error : ControlPlaneClientError)

/-- `connect` up to the selection of the port. -/
def beginConnect : Session :=
  { session with
    connectionAttempt := session.connectionAttempt + 1
    buffer := {}
    connecting := session.connecting ++ [session.connectionAttempt + 1] }

def endAttempt (attempt : ℕ) : Session :=
  { session with connecting := session.connecting.erase attempt }

/-- The port is taken and the read loop starts. -/
def takePort (readable : Bool) : Session :=
  let session' : Session :=
    { session with
      port := some session.connections
      readLoops :=
        if readable then session.readLoops ++ [session.connections] else session.readLoops
      connections := session.connections + 1
      openedWith := Function.update session.openedWith session.connections session.decoder }
  if readable then session' else session'.rejectAll .notReadable

def disconnect : Session :=
  { session.rejectAll .closed with
    connectionAttempt := session.connectionAttempt + 1
    port := none }

/-- A request is pending as soon as it waits to be written. -/
def send (requestId : String) (connection : ℕ) : Session :=
  { session with
    pending := session.pending ++ [requestId]
    writeChain := session.writeChain ++ [requestId]
    sent := session.sent ++ [(requestId, connection)] }

/-- A write that failed rejects the request, if it is still pending. -/
def endWrite (requestId : String) (rest : List String)
    (error : Option ControlPlaneClientError) : Session :=
  let session' : Session :=
    { session with writeChain := rest, writes := session.writes ++ [(requestId, error)] }
  match error with
  | none => session'
  | some error =>
      if requestId ∈ session.pending then session'.settle requestId (.failed error) else session'

/-- One turn, if it can happen.  The ids of the requests are pairwise different, and a call
that throws changes nothing. -/
def step : Event → Option Session
  | .connect => some session.beginConnect
  | .opened attempt readable =>
      if attempt ∉ session.connecting then none
      else if attempt ≠ session.connectionAttempt then some (session.endAttempt attempt)
      else some ((session.endAttempt attempt).takePort readable)
  | .connectFails attempt =>
      if attempt ∉ session.connecting then none else some (session.endAttempt attempt)
  | .disconnect => some session.disconnect
  | .exchange requestId writable =>
      if requestId ∈ session.sent.map Prod.fst then none
      else
        match session.port with
        | none => some session
        | some connection =>
            if writable then some (session.send requestId connection) else some session
  | .writeEnds error =>
      match session.writeChain with
      | [] => none
      | requestId :: rest => some (session.endWrite requestId rest error)
  | .timeout requestId =>
      if requestId ∉ session.pending then none
      else some (session.settle requestId (.failed .responseTimeout))
  | .chunk connection bytes =>
      if connection ∉ session.readLoops then none
      else some (session.readChunk jsonParse connection bytes)
  | .streamEnds connection =>
      if connection ∉ session.readLoops then none
      else some ((session.rejectAll .streamClosed).endLoop connection)
  | .readFails connection error =>
      if connection ∉ session.readLoops then none
      else some ((session.rejectAll error).endLoop connection)

/-- The runs of the client. -/
def Step (session : Session) (event : Event) (session' : Session) : Prop :=
  session.step jsonParse event = some session'

end Session

end FluxPurr.WebSerial
