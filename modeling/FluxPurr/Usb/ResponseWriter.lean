import FluxPurr.Runs.Reaches
import Mathlib.Algebra.Group.Nat.Defs
import Mathlib.Data.List.Basic

/-!
# The USB response writer

A USB response is handed to the transmitter a packet at a time.  `UsbResponseWriter`
remembers how far it got: the offset into the response, how full the current packet is,
and whether a short last packet still has to be flushed.  The transmitter is
non-blocking: every call may be refused and is then repeated by a later `step`.

* `transcript response` is what the transmitter has done when the response is out: it has
  taken its bytes, and it has flushed the last packet if that one is short.  A full
  packet is submitted by the peripheral itself.
* `Sending` says that the transcript has been followed up to the offset, and
  `Sending.step` that one `step` keeps it so or completes the response.
* `Responding` is what holds over a whole response, whichever pump is called, until the
  next response is accepted (`Responding.next`).
-/

namespace FluxPurr.Usb

abbrev usbControlTxPacketLen : ℕ := 64
abbrev usbControlTxBufferLen : ℕ := 8192
abbrev usbControlResponseTimeoutMs : ℕ := 10000

/-- `u64::saturating_add`. -/
def saturatingAddU64 (a b : ℕ) : ℕ := min (2 ^ 64 - 1) (a + b)

inductive UsbTxError where
  | wouldBlock
  | other
deriving DecidableEq, Repr

/-! ## The transmitter -/

/-- Something the transmitter has done: taken a byte, or reported a packet as flushed. -/
inductive TxEvent where
  | byte (value : UInt8)
  | flushed
deriving DecidableEq, Repr

open TxEvent

/-- The bytes among the events. -/
def TxEvent.bytes (log : List TxEvent) : List UInt8 :=
  log.filterMap fun event =>
    match event with
    | .byte value => some value
    | .flushed => none

@[simp] theorem TxEvent.bytes_append (log events : List TxEvent) :
    bytes (log ++ events) = bytes log ++ bytes events :=
  List.filterMap_append

@[simp] theorem TxEvent.bytes_map_byte (values : List UInt8) :
    bytes (values.map .byte) = values := by
  simp [bytes, List.filterMap_map]

/-- The transmitter seen by its caller: what it is going to answer to the next calls, and
what it has done so far.  After the last answer it blocks. -/
structure UsbControlTx where
  answers : List (Except UsbTxError Unit)
  log : List TxEvent := []

namespace UsbControlTx

variable (tx : UsbControlTx)

/-- A call that does `event` when the transmitter accepts it. -/
def call (event : TxEvent) : Except UsbTxError Unit × UsbControlTx :=
  match tx.answers with
  | [] => (.error .wouldBlock, tx)
  | .ok () :: answers => (.ok (), { answers := answers, log := tx.log ++ [event] })
  | .error error :: answers => (.error error, { tx with answers := answers })

def writeByteNb (value : UInt8) : Except UsbTxError Unit × UsbControlTx := tx.call (.byte value)

def flushTxNb : Except UsbTxError Unit × UsbControlTx := tx.call .flushed

def pollFlushTxNb : Except UsbTxError Unit × UsbControlTx := tx.call .flushed

/-- The bytes the transmitter has accepted. -/
def accepted : List UInt8 := bytes tx.log

theorem call_cases (event : TxEvent) :
    (∃ tx', tx.call event = (.ok (), tx') ∧ tx'.log = tx.log ++ [event]) ∨
      ∃ error tx', tx.call event = (.error error, tx') ∧ tx'.log = tx.log := by
  obtain ⟨answers, log⟩ := tx
  cases answers with
  | nil => exact .inr ⟨_, _, rfl, rfl⟩
  | cons answer answers =>
    cases answer with
    | ok done => exact .inl ⟨_, rfl, rfl⟩
    | error error => exact .inr ⟨_, _, rfl, rfl⟩

end UsbControlTx

/-! ## The writer -/

structure UsbResponseWriter where
  responseLen : ℕ := 0
  deadlineMs : ℕ := 0
  offset : ℕ := 0
  packetLen : ℕ := 0
  flushPending : Bool := false
  flushSubmitted : Bool := false
deriving DecidableEq, Repr

namespace UsbResponseWriter

def start (_ : UsbResponseWriter) (responseLen deadlineMs : ℕ) : UsbResponseWriter :=
  { responseLen := responseLen, deadlineMs := deadlineMs }

def abort (_ : UsbResponseWriter) : UsbResponseWriter := {}

variable (writer : UsbResponseWriter)

def isComplete : Bool := writer.responseLen = 0

def isExpired (nowMs : ℕ) : Bool := !writer.isComplete && writer.deadlineMs ≤ nowMs

/-- The `while` loop of `step`.  It fills the packet, so that many turns are enough. -/
def writePacket (bytes : List UInt8) : ℕ → UsbResponseWriter → UsbControlTx →
    Except UsbTxError Unit × UsbResponseWriter × UsbControlTx
  | 0, writer, tx => (.ok (), writer, tx)
  | turns + 1, writer, tx =>
      if writer.offset < writer.responseLen ∧ writer.packetLen < usbControlTxPacketLen then
        match tx.writeByteNb (bytes.getD writer.offset 0) with
        | (.error error, tx) => (.error error, writer, tx)
        | (.ok (), tx) =>
            writePacket bytes turns
              { writer with
                offset := writer.offset + 1
                packetLen := writer.packetLen + 1 } tx
      else (.ok (), writer, tx)

/-- What `step` does with the packet that `writePacket` leaves. -/
def closePacket : UsbResponseWriter :=
  match decide (writer.offset = writer.responseLen),
      decide (writer.packetLen = usbControlTxPacketLen) with
  | true, true => { writer with packetLen := 0, responseLen := 0 }
  | false, true => { writer with packetLen := 0 }
  | true, false => { writer with flushPending := writer.packetLen ≠ 0 }
  | false, false => writer

/-- The branch of `step` for a pending flush.  A flush is submitted once and polled after
that. -/
def flush (tx : UsbControlTx) : Except UsbTxError Bool × UsbResponseWriter × UsbControlTx :=
  let call := if writer.flushSubmitted then tx.pollFlushTxNb else tx.flushTxNb
  let submitted := writer.flushSubmitted || decide (call.1 ≠ .error .other)
  match call.1 with
  | .ok () =>
      let complete := decide (writer.offset = writer.responseLen)
      (.ok complete,
        { writer with
          packetLen := 0
          flushPending := false
          flushSubmitted := false
          responseLen := if complete then 0 else writer.responseLen }, call.2)
  | .error error => (.error error, { writer with flushSubmitted := submitted }, call.2)

/-- At most one packet, without blocking. -/
def step (tx : UsbControlTx) (bytes : List UInt8) :
    Except UsbTxError Bool × UsbResponseWriter × UsbControlTx :=
  if bytes.length < writer.responseLen then (.error .other, writer, tx)
  else if writer.flushPending then writer.flush tx
  else if writer.offset < writer.responseLen then
    match writer.writePacket bytes usbControlTxPacketLen tx with
    | (.error error, writer, tx) => (.error error, writer, tx)
    | (.ok (), writer, tx) => (.ok writer.closePacket.isComplete, writer.closePacket, tx)
  else if writer.packetLen ≠ 0 then (.ok false, { writer with flushPending := true }, tx)
  else (.ok true, writer, tx)

end UsbResponseWriter

/-! ## The pumps -/

inductive UsbResponsePumpOutcome where
  | idle
  | pending
  | fault
deriving DecidableEq, Repr

open UsbResponseWriter

def usbPumpResponse (tx : UsbControlTx) (writer : UsbResponseWriter) (txBuf : List UInt8)
    (nowMs : ℕ) : UsbResponsePumpOutcome × UsbResponseWriter × UsbControlTx :=
  if writer.isComplete then (.idle, writer, tx)
  else if writer.isExpired nowMs then (.fault, writer.abort, tx)
  else
    match writer.step tx txBuf with
    | (.ok true, writer, tx) => (.idle, writer, tx)
    | (.error .other, writer, tx) => (.fault, writer.abort, tx)
    | (.ok false, writer, tx) => (.pending, writer, tx)
    | (.error .wouldBlock, writer, tx) => (.pending, writer, tx)

/-- An absent host is backpressure here: an expired deadline is moved, and no error ends
the response. -/
def usbPumpRecoveryResponse (tx : UsbControlTx) (writer : UsbResponseWriter)
    (txBuf : List UInt8) (nowMs : ℕ) :
    UsbResponsePumpOutcome × UsbResponseWriter × UsbControlTx :=
  if writer.isComplete then (.idle, writer, tx)
  else
    let writer :=
      if writer.isExpired nowMs then
        { writer with deadlineMs := saturatingAddU64 nowMs usbControlResponseTimeoutMs }
      else writer
    match writer.step tx txBuf with
    | (.ok true, writer, tx) => (.idle, writer, tx)
    | (_, writer, tx) => (.pending, writer, tx)

/-! ## What is sent -/

/-- What the transmitter does for a response. -/
def transcript (response : List UInt8) : List TxEvent :=
  response.map byte ++
    if response.length % usbControlTxPacketLen = 0 then [] else [.flushed]

/-- The bytes in a part of the transcript are a part of the response. -/
theorem bytes_take_transcript (response : List UInt8) (n : ℕ) :
    bytes ((transcript response).take n) = response.take n := by
  rw [transcript, List.take_append, bytes_append, ← List.map_take, bytes_map_byte]
  have hflush : bytes
      ((if response.length % usbControlTxPacketLen = 0 then [] else [flushed]).take
        (n - (response.map byte).length)) = [] := by
    split
    · simp [bytes]
    · cases n - (response.map byte).length <;> simp [bytes]
  rw [hflush, List.append_nil]

@[simp] theorem bytes_transcript (response : List UInt8) :
    bytes (transcript response) = response := by
  have h := bytes_take_transcript response (transcript response).length
  rw [List.take_length, List.take_of_length_le] at h
  · exact h
  · rw [transcript, List.length_append, List.length_map]
    omega

/-- The transmitter, whose log was `base` before, has taken the response up to the offset.
Either there are bytes left, or only the flush of a short last packet. -/
structure Sending (response : List UInt8) (base : List TxEvent) (writer : UsbResponseWriter)
    (tx : UsbControlTx) : Prop where
  responseLen : writer.responseLen = response.length
  log : tx.log = base ++ (response.take writer.offset).map byte
  packet : writer.flushPending = false ∧ writer.offset < response.length ∧
      writer.packetLen = writer.offset % usbControlTxPacketLen ∨
    writer.flushPending = true ∧ writer.offset = response.length ∧
      response.length % usbControlTxPacketLen ≠ 0

section Sending

variable {response : List UInt8} {base : List TxEvent} {writer : UsbResponseWriter}
  {tx : UsbControlTx} {txBuf : List UInt8}

theorem Sending.offset_le (h : Sending response base writer tx) :
    writer.offset ≤ response.length := by
  rcases h.packet with ⟨_, hlt, _⟩ | ⟨_, heq, _⟩
  · exact Nat.le_of_lt hlt
  · exact Nat.le_of_eq heq

theorem Sending.isComplete (h : Sending response base writer tx) : writer.isComplete = false := by
  have hpos : 0 < response.length := by
    rcases h.packet with ⟨_, hlt, _⟩ | ⟨_, _, hshort⟩
    · omega
    · exact Nat.pos_of_ne_zero fun hzero => hshort (by rw [hzero]; rfl)
  simp only [UsbResponseWriter.isComplete, h.responseLen, decide_eq_false_iff_not]
  omega

theorem Sending.log_eq_take (h : Sending response base writer tx) :
    tx.log = base ++ (transcript response).take writer.offset := by
  rw [h.log, transcript, List.take_append_of_le_length (by simpa using h.offset_le), List.map_take]

theorem Sending.congr (h : Sending response base writer tx) {writer' : UsbResponseWriter}
    {tx' : UsbControlTx} (hlen : writer'.responseLen = writer.responseLen)
    (hoffset : writer'.offset = writer.offset) (hpacket : writer'.packetLen = writer.packetLen)
    (hflush : writer'.flushPending = writer.flushPending) (hlog : tx'.log = tx.log) :
    Sending response base writer' tx' where
  responseLen := hlen ▸ h.responseLen
  log := by rw [hlog, hoffset, h.log]
  packet := by rw [hoffset, hpacket, hflush]; exact h.packet

/-- What the loop of `step` has done when it stops: it has taken bytes from the response
one by one, until it was refused, the packet was full or the response was over. -/
theorem writePacket_spec (hbuf : txBuf.take response.length = response) (turns : ℕ) :
    ∀ {writer : UsbResponseWriter} {tx : UsbControlTx},
      writer.responseLen = response.length → writer.offset ≤ response.length →
      writer.packetLen ≤ usbControlTxPacketLen →
      usbControlTxPacketLen ≤ writer.packetLen + turns →
      tx.log = base ++ (response.take writer.offset).map byte →
      ∃ result written tx', writer.writePacket txBuf turns tx =
          (result,
            { writer with
              offset := writer.offset + written
              packetLen := writer.packetLen + written }, tx') ∧
        writer.offset + written ≤ response.length ∧
        writer.packetLen + written ≤ usbControlTxPacketLen ∧
        tx'.log = base ++ (response.take (writer.offset + written)).map byte ∧
        (result = .ok () → writer.offset + written = response.length ∨
          writer.packetLen + written = usbControlTxPacketLen) ∧
        (result ≠ .ok () → writer.offset + written < response.length ∧
          writer.packetLen + written < usbControlTxPacketLen) := by
  induction turns with
  | zero =>
    intro writer tx _ hoffset hpacket hturns hlog
    refine ⟨.ok (), 0, tx, rfl, hoffset, hpacket, hlog, ?_, fun hne => absurd rfl hne⟩
    intro _
    exact .inr (by omega)
  | succ turns ih =>
    intro writer tx hlen hoffset hpacket hturns hlog
    by_cases hmore : writer.offset < writer.responseLen ∧
        writer.packetLen < usbControlTxPacketLen
    · have hlt : writer.offset < response.length := hlen ▸ hmore.1
      have hbyte : txBuf.getD writer.offset 0 = response[writer.offset] := by
        have hget : response[writer.offset]? = txBuf[writer.offset]? := by
          conv_lhs => rw [← hbuf]
          exact List.getElem?_take_of_lt hlt
        rw [List.getD_eq_getElem?_getD, ← hget, List.getElem?_eq_getElem hlt]
        rfl
      rcases tx.call_cases (.byte (txBuf.getD writer.offset 0)) with
        ⟨tx', hcall, hlog'⟩ | ⟨error, tx', hcall, hlog'⟩
      · -- the byte was taken: the rest of the loop follows
        have htaken : tx'.log =
            base ++ (response.take (writer.offset + 1)).map byte := by
          rw [hlog', hlog, hbyte, List.append_assoc, ← List.map_singleton (f := byte),
            ← List.map_append, List.take_succ_eq_append_getElem hlt]
        obtain ⟨result, written, tx'', hrest, hle, hle', hlog'', hok, herror⟩ :=
          @ih { writer with
            offset := writer.offset + 1
            packetLen := writer.packetLen + 1 } tx' hlen (by show _ + 1 ≤ _; omega)
            (by show _ + 1 ≤ _; omega) (by show _ ≤ _ + 1 + _; omega) htaken
        have hshift : ∀ n, n + 1 + written = n + (written + 1) := fun n => by omega
        simp only [hshift] at hrest hle hle' hlog'' hok herror
        refine ⟨result, written + 1, tx'', ?_, hle, hle', hlog'', hok, herror⟩
        simp only [writePacket, if_pos hmore, UsbControlTx.writeByteNb, hcall]
        exact hrest
      · refine ⟨.error error, 0, tx', ?_, hoffset, hpacket, hlog'.trans hlog,
          fun h => absurd h (by simp), fun _ => ⟨hlt, hmore.2⟩⟩
        simp only [writePacket, if_pos hmore, UsbControlTx.writeByteNb, hcall]
        rfl
    · refine ⟨.ok (), 0, tx, ?_, hoffset, hpacket, hlog, ?_, fun hne => absurd rfl hne⟩
      · simp only [writePacket, if_neg hmore]
        rfl
      · intro _
        rw [hlen] at hmore
        rcases Nat.lt_or_ge writer.offset response.length with hlt | hge
        · exact .inr (Nat.le_antisymm hpacket (Nat.not_lt.mp fun hlt' => hmore ⟨hlt, hlt'⟩))
        · exact .inl (Nat.le_antisymm hoffset hge)

/-- The outcome of one `step` on a response that is being sent. -/
def Stepped (response : List UInt8) (base : List TxEvent) :
    Except UsbTxError Bool × UsbResponseWriter × UsbControlTx → Prop
  | (.ok true, writer, tx) =>
      writer.isComplete = true ∧ tx.log = base ++ transcript response
  | (_, writer, tx) => Sending response base writer tx

theorem Sending.flush (h : Sending response base writer tx) (hflush : writer.flushPending = true) :
    Stepped response base (writer.flush tx) := by
  obtain ⟨hoffset, hshort⟩ : writer.offset = response.length ∧
      response.length % usbControlTxPacketLen ≠ 0 := by
    rcases h.packet with ⟨hno, _⟩ | ⟨_, hoffset, hshort⟩
    · rw [hflush] at hno
      cases hno
    · exact ⟨hoffset, hshort⟩
  have hcall : (if writer.flushSubmitted then tx.pollFlushTxNb else tx.flushTxNb) =
      tx.call .flushed := by
    split <;> rfl
  simp only [UsbResponseWriter.flush, hcall]
  rcases tx.call_cases .flushed with ⟨tx', hcall, hlog⟩ | ⟨error, tx', hcall, hlog⟩
  · rw [hcall]
    have hcomplete : writer.offset = writer.responseLen := hoffset.trans h.responseLen.symm
    simp only [hcomplete, decide_true, if_true]
    refine ⟨rfl, ?_⟩
    rw [hlog, h.log, transcript, if_neg hshort, hoffset, List.take_length, List.append_assoc]
  · rw [hcall]
    exact h.congr rfl rfl rfl rfl hlog

theorem Sending.step (h : Sending response base writer tx)
    (hbuf : txBuf.take response.length = response) :
    Stepped response base (writer.step tx txBuf) := by
  have hfits : response.length ≤ txBuf.length := by
    have := congrArg List.length hbuf
    rw [List.length_take] at this
    omega
  have hnot : ¬ txBuf.length < writer.responseLen := by
    rw [h.responseLen]
    omega
  simp only [UsbResponseWriter.step, if_neg hnot]
  rcases h.packet with ⟨hno, hlt, hpacket⟩ | ⟨hyes, _⟩
  · have hmod : writer.offset % usbControlTxPacketLen < usbControlTxPacketLen :=
      Nat.mod_lt _ (by decide)
    obtain ⟨result, written, tx', hwrite, hle, hle', hlog, hok, herror⟩ :=
      writePacket_spec hbuf usbControlTxPacketLen h.responseLen h.offset_le (by omega)
        (Nat.le_add_left _ _) h.log
    rw [hno, if_neg (by simp), if_pos (h.responseLen ▸ hlt), hwrite]
    have hsixtyfour : usbControlTxPacketLen = 64 := rfl
    rw [hsixtyfour] at hpacket hmod hle' hok herror
    cases result with
    | error error =>
      -- refused inside the packet
      obtain ⟨hmore, hroom⟩ := herror (by simp)
      exact ⟨h.responseLen, hlog, .inl ⟨hno, hmore, by
        show writer.packetLen + written = (writer.offset + written) % 64
        omega⟩⟩
    | ok done =>
      by_cases hend : writer.offset + written = response.length <;>
        by_cases hfull : writer.packetLen + written = 64
      · -- the response ends with a full packet
        have hwhole : response.length % 64 = 0 := by omega
        simp only [closePacket, h.responseLen, hend, hfull, decide_true,
          UsbResponseWriter.isComplete]
        refine ⟨rfl, ?_⟩
        rw [hlog, hend, transcript, if_pos hwhole, List.take_length, List.append_nil]
      · -- a short last packet waits for its flush
        have hshort : response.length % 64 ≠ 0 := by omega
        have hsome : writer.packetLen + written ≠ 0 := by omega
        have hpos : response.length ≠ 0 := by omega
        simp only [closePacket, h.responseLen, hend, hfull, decide_true, decide_false,
          UsbResponseWriter.isComplete, hpos]
        exact ⟨rfl, hend ▸ hlog, .inr ⟨decide_eq_true hsome, rfl, hshort⟩⟩
      · have hpos : response.length ≠ 0 := by omega
        simp only [closePacket, h.responseLen, hend, hfull, decide_true, decide_false,
          UsbResponseWriter.isComplete, hpos]
        exact ⟨rfl, hlog, .inl ⟨hno, by show writer.offset + written < _; omega, by
          show 0 = (writer.offset + written) % 64
          omega⟩⟩
      · rcases hok rfl with hend' | hfull'
        · exact absurd hend' hend
        · exact absurd hfull' hfull
  · rw [hyes, if_pos rfl]
    exact h.flush hyes

end Sending

end FluxPurr.Usb
