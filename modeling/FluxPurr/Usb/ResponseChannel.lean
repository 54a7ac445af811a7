import FluxPurr.Usb.ResponseWriter

/-!
# A response on the USB channel

The response writer reads the response from the shared transmit buffer.  A new response is
accepted only while the writer is complete (`usbStartResponseBytes`), so the buffer keeps
the response for as long as it is being sent.

`Responding response base` is the invariant from the moment the response was accepted, with
`base` the transmitter's log at that time, until the next one is: the response is being
sent, or it is over and the log stopped somewhere in its transcript.  It holds for any
order of the two pumps.
-/

namespace FluxPurr.Usb

open Runs

/-! ## The channel -/

structure UsbChannel where
  writer : UsbResponseWriter := {}
  txBuf : List UInt8 := List.replicate usbControlTxBufferLen 0
  tx : UsbControlTx

inductive ChannelAction where
  | start (bytes : List UInt8) (nowMs : ℕ)
  | pump (nowMs : ℕ)
  | recover (nowMs : ℕ)

inductive ChannelReport where
  | started (accepted : Bool)
  | pumped (outcome : UsbResponsePumpOutcome)
deriving DecidableEq

def usbStartResponseBytes (writer : UsbResponseWriter) (bytes txBuf : List UInt8) (nowMs : ℕ) :
    Bool × UsbResponseWriter × List UInt8 :=
  if !writer.isComplete || txBuf.length < bytes.length then (false, writer, txBuf)
  else
    (true, writer.start bytes.length (saturatingAddU64 nowMs usbControlResponseTimeoutMs),
      bytes ++ txBuf.drop bytes.length)

namespace UsbChannel

def perform (channel : UsbChannel) : ChannelAction → ChannelReport × UsbChannel
  | .start bytes nowMs =>
      let (accepted, writer, txBuf) :=
        usbStartResponseBytes channel.writer bytes channel.txBuf nowMs
      (.started accepted, { channel with writer := writer, txBuf := txBuf })
  | .pump nowMs =>
      let (outcome, writer, tx) :=
        usbPumpResponse channel.tx channel.writer channel.txBuf nowMs
      (.pumped outcome, { channel with writer := writer, tx := tx })
  | .recover nowMs =>
      let (outcome, writer, tx) :=
        usbPumpRecoveryResponse channel.tx channel.writer channel.txBuf nowMs
      (.pumped outcome, { channel with writer := writer, tx := tx })

/-- A step that does not accept another response: either pump, or a start that comes while
a response is being sent. -/
def Pumps (channel : UsbChannel) (action : ChannelAction) (after : UsbChannel) : Prop :=
  (∀ bytes nowMs, action = .start bytes nowMs → channel.writer.isComplete = false) ∧
    after = (channel.perform action).2

end UsbChannel

open UsbChannel

open UsbChannel

/-! ## While one response is current -/

/-- The response was accepted when the log was `base`, and none was accepted since. -/
inductive Responding (response : List UInt8) (base : List TxEvent) (channel : UsbChannel) :
    Prop where
  | sending (hbuf : channel.txBuf.take response.length = response)
      (h : Sending response base channel.writer channel.tx)
  | ended (hcomplete : channel.writer.isComplete = true) (n : ℕ)
      (hlog : channel.tx.log = base ++ (transcript response).take n)

/-- What one call of a pump does to the current response. -/
structure Pumped (response : List UInt8) (base : List TxEvent) (channel : UsbChannel)
    (result : UsbResponsePumpOutcome × UsbResponseWriter × UsbControlTx) : Prop where
  responding : Responding response base
    { channel with writer := result.2.1, tx := result.2.2 }
  completes : result.1 = .idle → channel.writer.isComplete = false →
    result.2.2.log = base ++ transcript response
  faults : result.1 = .fault → result.2.1.isComplete = true

section Responding

variable {response : List UInt8} {base : List TxEvent} {channel : UsbChannel}
  {writer : UsbResponseWriter} {tx : UsbControlTx}

theorem Pumped.nothing (hcomplete : channel.writer.isComplete = true)
    (h : Responding response base channel) :
    Pumped response base channel (.idle, channel.writer, channel.tx) where
  responding := h
  completes _ hbusy := by simp [hcomplete] at hbusy
  faults hfault := by cases hfault

theorem Pumped.completed (hcomplete : writer.isComplete = true)
    (hlog : tx.log = base ++ transcript response) :
    Pumped response base channel (.idle, writer, tx) where
  responding := .ended hcomplete (transcript response).length (by rw [List.take_length]; exact hlog)
  completes _ _ := hlog
  faults hfault := by cases hfault

theorem Pumped.pending (hbuf : channel.txBuf.take response.length = response)
    (h : Sending response base writer tx) :
    Pumped response base channel (.pending, writer, tx) where
  responding := .sending hbuf h
  completes hidle := by cases hidle
  faults hfault := by cases hfault

theorem Pumped.aborted (h : Sending response base writer tx) :
    Pumped response base channel (.fault, writer.abort, tx) where
  responding := .ended rfl _ h.log_eq_take
  completes hidle := by cases hidle
  faults _ := rfl

theorem Responding.pump (h : Responding response base channel) (nowMs : ℕ) :
    Pumped response base channel
      (usbPumpResponse channel.tx channel.writer channel.txBuf nowMs) := by
  cases h with
  | ended hcomplete n hlog =>
    simp only [usbPumpResponse, hcomplete, if_true]
    exact .nothing hcomplete (.ended hcomplete n hlog)
  | sending hbuf h =>
    have hstep := h.step hbuf
    simp only [usbPumpResponse, h.isComplete, Bool.false_eq_true, if_false]
    split
    · exact .aborted h
    · -- one step of the writer
      split <;> rename_i heq <;> rw [heq] at hstep
      · exact .completed hstep.1 hstep.2
      · exact .aborted hstep
      · exact .pending hbuf hstep
      · exact .pending hbuf hstep

theorem Responding.recover (h : Responding response base channel) (nowMs : ℕ) :
    Pumped response base channel
      (usbPumpRecoveryResponse channel.tx channel.writer channel.txBuf nowMs) := by
  cases h with
  | ended hcomplete n hlog =>
    simp only [usbPumpRecoveryResponse, hcomplete, if_true]
    exact .nothing hcomplete (.ended hcomplete n hlog)
  | sending hbuf h =>
    simp only [usbPumpRecoveryResponse, h.isComplete, Bool.false_eq_true, if_false]
    generalize hmoved : (if channel.writer.isExpired nowMs = true then
        { channel.writer with
          deadlineMs := saturatingAddU64 nowMs usbControlResponseTimeoutMs }
      else channel.writer) = moved
    -- a later deadline changes nothing that is sent
    have hsending : Sending response base moved channel.tx := by
      rw [← hmoved]
      split
      · exact h.congr rfl rfl rfl rfl rfl
      · exact h
    have hstep := hsending.step hbuf
    split
    · rename_i heq
      rw [heq] at hstep
      exact .completed hstep.1 hstep.2
    · rename_i result writer tx hne heq
      rw [heq] at hstep
      refine .pending hbuf ?_
      match result, hne, hstep with
      | .ok true, hne, _ => exact absurd rfl hne
      | .ok false, _, hstep => exact hstep
      | .error _, _, hstep => exact hstep

theorem perform_start_of_busy (hbusy : channel.writer.isComplete = false) (bytes : List UInt8)
    (nowMs : ℕ) :
    channel.perform (.start bytes nowMs) = (.started false, channel) := by
  simp [perform, usbStartResponseBytes, hbusy]

theorem Responding.next {action : ChannelAction} {after : UsbChannel}
    (h : Responding response base channel) (hstep : channel.Pumps action after) :
    Responding response base after := by
  obtain ⟨hstart, rfl⟩ := hstep
  cases action with
  | start bytes nowMs =>
    rw [perform_start_of_busy (hstart bytes nowMs rfl)]
    exact h
  | pump nowMs => exact (h.pump nowMs).responding
  | recover nowMs => exact (h.recover nowMs).responding

theorem log_of_complete {actions : List ChannelAction} {state : UsbChannel}
    (hcomplete : channel.writer.isComplete = true) (h : Reaches Pumps channel actions state) :
    state.writer.isComplete = true ∧ state.tx.log = channel.tx.log := by
  refine @Reaches.invariant _ _ _ channel (fun state : UsbChannel =>
    state.writer.isComplete = true ∧ state.tx.log = channel.tx.log) ⟨hcomplete, rfl⟩ ?_ _ _ h
  rintro state action after ⟨hcomplete, hlog⟩ ⟨hstart, rfl⟩
  cases action with
  | start bytes nowMs => simp [hstart bytes nowMs rfl] at hcomplete
  | pump nowMs => simp [perform, usbPumpResponse, hcomplete, hlog]
  | recover nowMs => simp [perform, usbPumpRecoveryResponse, hcomplete, hlog]

theorem Responding.of_start {nowMs : ℕ} {started : UsbChannel}
    (hstart : channel.perform (.start response nowMs) = (.started true, started)) :
    Responding response channel.tx.log started := by
  simp only [perform, usbStartResponseBytes] at hstart
  split at hstart
  · simp at hstart
  · rename_i hidle
    obtain ⟨-, rfl⟩ := Prod.mk.inj hstart
    rcases Nat.eq_zero_or_pos response.length with hzero | hpos
    · refine .ended ?_ 0 (by simp)
      simp [UsbResponseWriter.start, UsbResponseWriter.isComplete, hzero]
    · exact .sending (List.take_left' rfl)
        ⟨rfl, by simp [UsbResponseWriter.start], .inl ⟨rfl, hpos, rfl⟩⟩

end Responding

/-! ## The claim -/

/-- From the moment a response is accepted, whatever the transmitter answers and whichever
pump is called: what the transmitter has accepted is a part of the response from its
beginning; a pump that completes the response leaves the whole transcript behind; and after
a fault nothing more of it is written. -/
theorem response_is_sent_in_order {channel started state : UsbChannel} {response : List UInt8}
    {nowMs : ℕ} {actions : List ChannelAction}
    (hstart : channel.perform (.start response nowMs) = (.started true, started))
    (hrun : Reaches Pumps started actions state) :
    (∃ n, state.tx.accepted = channel.tx.accepted ++ response.take n) ∧
      (∀ action report, state.perform action = (.pumped .idle, report) →
        state.writer.isComplete = false →
        report.tx.log = channel.tx.log ++ transcript response) ∧
      (∀ action faulted, state.perform action = (.pumped .fault, faulted) →
        ∀ later final, Reaches Pumps faulted later final → final.tx.log = faulted.tx.log) := by
  have hinv : Responding response channel.tx.log state :=
    Reaches.invariant (Responding.of_start hstart) (fun _ _ _ h hstep => h.next hstep) hrun
  have hpumped : ∀ action outcome after, state.perform action = (.pumped outcome, after) →
      Pumped response channel.tx.log state (outcome, after.writer, after.tx) := by
    intro action outcome after h
    cases action with
    | start bytes now =>
        simp only [perform] at h
        cases congrArg Prod.fst h
    | pump now =>
        have hpump := hinv.pump now
        simp only [perform, Prod.mk.injEq, ChannelReport.pumped.injEq] at h
        obtain ⟨rfl, rfl⟩ := h
        exact hpump
    | recover now =>
        have hpump := hinv.recover now
        simp only [perform, Prod.mk.injEq, ChannelReport.pumped.injEq] at h
        obtain ⟨rfl, rfl⟩ := h
        exact hpump
  refine ⟨?_, ?_, ?_⟩
  · -- the bytes of a part of the transcript
    have hpart : ∃ n, state.tx.log = channel.tx.log ++ (transcript response).take n := by
      cases hinv with
      | sending hbuf h => exact ⟨_, h.log_eq_take⟩
      | ended hcomplete n hlog => exact ⟨n, hlog⟩
    obtain ⟨n, hlog⟩ := hpart
    refine ⟨n, ?_⟩
    rw [UsbControlTx.accepted, hlog, TxEvent.bytes_append, bytes_take_transcript,
      UsbControlTx.accepted]
  · intro action report h hbusy
    exact (hpumped action .idle report h).completes rfl hbusy
  · intro action faulted h later final hlater
    exact (log_of_complete ((hpumped action .fault faulted h).faults rfl) hlater).2

/-- The second byte of this response is refused at first. -/
def busyChannel : UsbChannel where
  txBuf := [0, 0, 0, 0]
  tx := { answers := [.ok (), .error .wouldBlock, .ok (), .ok ()] }

/-- After one pump the first byte is out, and the next one is still to come. -/
theorem response_is_sent_in_order_blocked :
    (∃ n, ((busyChannel.perform (.start [0x6f, 0x6b] 0)).2.perform (.pump 1)).2.tx.accepted =
      busyChannel.tx.accepted ++ ([0x6f, 0x6b] : List UInt8).take n) ∧
      ((busyChannel.perform (.start [0x6f, 0x6b] 0)).2.perform (.pump 1)).2.tx.accepted =
        [0x6f] := by
  have hrun : Reaches Pumps (busyChannel.perform (.start [0x6f, 0x6b] 0)).2 ([] ++ [.pump 1])
      ((busyChannel.perform (.start [0x6f, 0x6b] 0)).2.perform (.pump 1)).2 :=
    .step .refl ⟨fun _ _ h => (by cases h), rfl⟩
  exact ⟨(response_is_sent_in_order rfl hrun).1, by decide⟩

/-- A response of exactly one packet. -/
def fullPacket : List UInt8 := List.replicate usbControlTxPacketLen 0x78

/-- It is pumped once, and the transmitter takes every byte. -/
def fullPacketPumped : UsbResponsePumpOutcome × UsbResponseWriter × UsbControlTx :=
  usbPumpResponse { answers := fullPacket.map fun _ => .ok () }
    (({} : UsbResponseWriter).start fullPacket.length 10) fullPacket 0

/-- A full last packet is submitted by the peripheral: the pump completes the response
without a flush. -/
theorem full_packet_completes_without_flush :
    fullPacketPumped.1 = .idle ∧ fullPacketPumped.2.1.isComplete = true ∧
      fullPacketPumped.2.2.log = fullPacket.map TxEvent.byte ∧
      TxEvent.flushed ∉ fullPacketPumped.2.2.log := by
  have hlog : fullPacketPumped.2.2.log = fullPacket.map TxEvent.byte := by decide +kernel
  refine ⟨by decide +kernel, by decide +kernel, hlog, ?_⟩
  rw [hlog]
  simp

end FluxPurr.Usb
