import FluxPurr.Runs.Reaches
import Mathlib.Tactic.FinCases

/-!
# Reassembly of USB control lines

Two readers collect the bytes of a control line in one buffer: `pollUsbEarlyControl` during
boot and `runtimeDrainUsbInput` afterwards.  Both push every byte as the character with
that code (`appendUsbControlByte`), so a byte from `0x80` on takes two bytes of the buffer,
and both drop a line that does not fit.  The runtime reader keeps the overflow flag in its
state; the early reader starts every poll with a cleared one.

`bufferedEvents` is what either reader makes of a stream as long as the flag is not lost
(`reads_buffered_events`), and `expectedEvents` is what a reader of UTF-8 lines makes of
it.  The two agree exactly on the streams whose lines are ASCII as far as they fit
(`bufferedEvents_eq_iff`).
-/

namespace FluxPurr.Usb

open Runs

abbrev usbControlLineCapacity : ℕ := 8191
abbrev pdRuntimeUsbByteBudget : ℕ := 256

abbrev lineFeed : UInt8 := 0x0a
abbrev carriageReturn : UInt8 := 0x0d

/-- `char::from(byte)`, as the UTF-8 string of that one character. -/
def encodeByte (byte : UInt8) : List UInt8 := String.utf8EncodeChar (Char.ofNat byte.toNat)

/-- `rx_line` is a UTF-8 string in a buffer of fixed size, here as its bytes. -/
def appendUsbControlByte (rxLine : List UInt8) (overflowed : Bool) (byte : UInt8) :
    List UInt8 × Bool :=
  if overflowed then (rxLine, overflowed)
  else if rxLine.length + (encodeByte byte).length ≤ usbControlLineCapacity then
    (rxLine ++ encodeByte byte, overflowed)
  else ([], true)

/-- What a reader does at the end of a line: it hands the line to the frame parser, or it
answers that the line was too long. -/
inductive LineEvent where
  | frame (line : List UInt8)
  | tooLong
deriving DecidableEq, Repr

/-- One poll of the early reader over the bytes that wait in `fifo`; its flag is local. -/
def pollUsbEarlyControl (fifo rxLine : List UInt8) : List LineEvent × List UInt8 × List UInt8 :=
  go pdRuntimeUsbByteBudget fifo rxLine false
where
  go : ℕ → List UInt8 → List UInt8 → Bool → List LineEvent × List UInt8 × List UInt8
  | 0, fifo, rxLine, _ => ([], rxLine, fifo)
  | _ + 1, [], rxLine, _ => ([], rxLine, [])
  | budget + 1, byte :: fifo, rxLine, rxOverflowed =>
      if byte = lineFeed then
        let event := if rxOverflowed then LineEvent.tooLong else .frame rxLine
        let (events, rxLine, fifo) := go budget fifo [] false
        (event :: events, rxLine, fifo)
      else if byte = carriageReturn then go budget fifo rxLine rxOverflowed
      else
        let (rxLine, rxOverflowed) := appendUsbControlByte rxLine rxOverflowed byte
        go budget fifo rxLine rxOverflowed

/-- One poll of the runtime reader.  It stops after a line. -/
def runtimeDrainUsbInput (fifo rxLine : List UInt8) (rxOverflowed : Bool) :
    Option LineEvent × List UInt8 × Bool × List UInt8 :=
  go pdRuntimeUsbByteBudget fifo rxLine rxOverflowed
where
  go : ℕ → List UInt8 → List UInt8 → Bool → Option LineEvent × List UInt8 × Bool × List UInt8
  | 0, fifo, rxLine, rxOverflowed => (none, rxLine, rxOverflowed, fifo)
  | _ + 1, [], rxLine, rxOverflowed => (none, rxLine, rxOverflowed, [])
  | budget + 1, byte :: fifo, rxLine, rxOverflowed =>
      if byte = lineFeed then
        if rxOverflowed then (some .tooLong, [], false, fifo)
        else (some (.frame rxLine), [], rxOverflowed, fifo)
      else if byte ≠ carriageReturn then
        let (rxLine, rxOverflowed) := appendUsbControlByte rxLine rxOverflowed byte
        go budget fifo rxLine rxOverflowed
      else go budget fifo rxLine rxOverflowed

/-! ## Lines of a stream -/

/-- The complete lines of a stream, without their carriage returns, and the beginning of
the next one. -/
structure Lines where
  complete : List (List UInt8) := []
  current : List UInt8 := []
deriving DecidableEq

def Lines.push (lines : Lines) (byte : UInt8) : Lines :=
  if byte = lineFeed then { complete := lines.complete ++ [lines.current], current := [] }
  else if byte = carriageReturn then lines
  else { lines with current := lines.current ++ [byte] }

variable (stream : List UInt8) (line : List UInt8)

def usbLines : Lines := stream.foldl Lines.push {}

def ValidUtf8 : Prop := ∃ chars : List Char, chars.flatMap String.utf8EncodeChar = line

open Classical in
/-- What a line should lead to: it is handed on unchanged if it fits and is UTF-8. -/
noncomputable def expectedEvent : Option LineEvent :=
  if usbControlLineCapacity < line.length then some .tooLong
  else if ValidUtf8 line then some (.frame line)
  else none

noncomputable def expectedEvents : List LineEvent :=
  (usbLines stream).complete.filterMap expectedEvent

/-- The line as it stands in the buffer when it fits. -/
def buffered : List UInt8 := line.flatMap encodeByte

/-- What a line leads to when every byte of it goes through `appendUsbControlByte`. -/
def bufferedEvent : LineEvent :=
  if usbControlLineCapacity < (buffered line).length then .tooLong else .frame (buffered line)

def bufferedEvents : List LineEvent := (usbLines stream).complete.map bufferedEvent

def IsAscii : Prop := ∀ byte ∈ line, byte < 0x80

/-! ## Bytes and characters -/

theorem val_ofNat_byte (byte : UInt8) : (Char.ofNat byte.toNat).val.toNat = byte.toNat := by
  have hbyte := byte.toNat_lt
  have hvalid : byte.toNat.isValidChar := .inl (by omega)
  rw [Char.ofNat, dif_pos hvalid]
  rfl

theorem encodeByte_of_lt {byte : UInt8} (h : byte < 0x80) : encodeByte byte = [byte] := by
  have hbyte : byte.toNat < 128 := UInt8.lt_iff_toNat_lt.mp h
  rw [encodeByte, String.utf8EncodeChar]
  simp only [val_ofNat_byte, if_pos (show byte.toNat ≤ 0x7f by omega)]
  simp

theorem length_encodeByte_of_le {byte : UInt8} (h : 0x80 ≤ byte) :
    (encodeByte byte).length = 2 := by
  have hle : 128 ≤ byte.toNat := UInt8.le_iff_toNat_le.mp h
  have hlt := byte.toNat_lt
  rw [encodeByte, String.utf8EncodeChar]
  simp only [val_ofNat_byte, if_neg (show ¬ byte.toNat ≤ 0x7f by omega),
    if_pos (show byte.toNat ≤ 0x7ff by omega)]
  rfl

theorem one_le_length_encodeByte (byte : UInt8) : 1 ≤ (encodeByte byte).length := by
  by_cases h : byte < 0x80
  · rw [encodeByte_of_lt h]
    exact Nat.le_refl 1
  · rw [length_encodeByte_of_le (UInt8.not_lt.mp h)]
    omega

@[simp] theorem buffered_append_singleton (byte : UInt8) :
    buffered (line ++ [byte]) = buffered line ++ encodeByte byte := by
  simp [buffered]

theorem IsAscii.buffered {line : List UInt8} (h : IsAscii line) : buffered line = line := by
  induction line with
  | nil => rfl
  | cons byte line ih =>
    have hrest : IsAscii line := fun other hother => h other (List.mem_cons_of_mem _ hother)
    have hfirst : encodeByte byte = [byte] := encodeByte_of_lt (h byte List.mem_cons_self)
    show encodeByte byte ++ Usb.buffered line = byte :: line
    rw [hfirst, ih hrest]
    rfl

theorem IsAscii.validUtf8 {line : List UInt8} (h : IsAscii line) : ValidUtf8 line :=
  ⟨line.map fun byte => Char.ofNat byte.toNat, by
    rw [List.flatMap_map]
    exact h.buffered⟩

theorem length_le_length_buffered : line.length ≤ (buffered line).length := by
  induction line with
  | nil => exact Nat.le_refl 0
  | cons byte line ih =>
    have hfirst := one_le_length_encodeByte byte
    show line.length + 1 ≤ (encodeByte byte ++ buffered line).length
    rw [List.length_append]
    omega

theorem isAscii_of_length_buffered {line : List UInt8}
    (h : (buffered line).length = line.length) : IsAscii line := by
  induction line with
  | nil => exact fun byte hbyte => absurd hbyte List.not_mem_nil
  | cons first line ih =>
    have hlength : (encodeByte first).length + (buffered line).length = line.length + 1 := by
      rw [← List.length_append]
      exact h
    have hfirst := one_le_length_encodeByte first
    have hrest := length_le_length_buffered line
    intro byte hbyte
    rcases List.mem_cons.mp hbyte with rfl | hbyte
    · by_cases hascii : byte < 0x80
      · exact hascii
      · rw [length_encodeByte_of_le (UInt8.not_lt.mp hascii)] at hlength
        omega
    · exact ih (by omega) byte hbyte

/-! ## What is handed on -/

theorem bufferedEvent_of_long {line : List UInt8} (h : usbControlLineCapacity < line.length) :
    bufferedEvent line = .tooLong :=
  if_pos (Nat.lt_of_lt_of_le h (length_le_length_buffered line))

/-- A line is handled as it should be if it is too long or ASCII, and not otherwise. -/
theorem expectedEvent_eq_bufferedEvent_iff : expectedEvent line = some (bufferedEvent line) ↔
      (line.length ≤ usbControlLineCapacity → IsAscii line) := by
  unfold expectedEvent
  split
  · rename_i hlong
    rw [bufferedEvent_of_long hlong]
    exact iff_of_true rfl fun hfits => absurd hfits (Nat.not_le.mpr hlong)
  · rename_i hfits
    have hfits : line.length ≤ usbControlLineCapacity := Nat.not_lt.mp hfits
    constructor
    · intro heq _
      split at heq
      · -- the frame is the line, so no byte of it was widened
        have hframe : LineEvent.frame line = bufferedEvent line := Option.some.inj heq
        unfold bufferedEvent at hframe
        split at hframe
        · cases hframe
        · exact isAscii_of_length_buffered (congrArg List.length (LineEvent.frame.inj hframe)).symm
      · cases heq
    · intro h
      have hascii := h hfits
      rw [if_pos hascii.validUtf8, bufferedEvent, hascii.buffered, if_neg (by omega)]

theorem filterMap_eq_map_iff {α β : Type} (f : α → Option β) (g : α → β) (items : List α) :
    items.filterMap f = items.map g ↔ ∀ item ∈ items, f item = some (g item) := by
  induction items with
  | nil => simp
  | cons item items ih =>
    cases hitem : f item with
    | none =>
      -- a missing item makes the filtered list too short
      have hshort := List.length_filterMap_le f items
      constructor
      · intro h
        have hlength := congrArg List.length h
        rw [List.filterMap_cons_none hitem, List.length_map, List.length_cons] at hlength
        omega
      · intro h
        rw [h item List.mem_cons_self] at hitem
        cases hitem
    | some value =>
      rw [List.filterMap_cons_some hitem, List.map_cons, List.cons.injEq, ih,
        List.forall_mem_cons, hitem, Option.some.injEq]

/-- What the readers hand on is right exactly for the streams whose lines are ASCII as far
as they fit. -/
theorem bufferedEvents_eq_iff : bufferedEvents stream = expectedEvents stream ↔
      ∀ line ∈ (usbLines stream).complete,
        line.length ≤ usbControlLineCapacity → IsAscii line := by
  rw [eq_comm, expectedEvents, bufferedEvents, filterMap_eq_map_iff]
  exact forall_congr' fun line => imp_congr_right fun _ => expectedEvent_eq_bufferedEvent_iff line

/-! ## The buffer -/

/-- The buffer and the flag after the bytes of `current`, none of them lost. -/
structure Holds (current rxLine : List UInt8) (overflowed : Bool) : Prop where
  flag : overflowed = decide (usbControlLineCapacity < (buffered current).length)
  buffer : rxLine = if overflowed then [] else buffered current

section Holds

variable {current rxLine : List UInt8} {overflowed : Bool}

theorem Holds.nil : Holds [] [] false := ⟨by decide, rfl⟩

theorem Holds.fits (h : Holds current rxLine false) :
    (buffered current).length ≤ usbControlLineCapacity :=
  Nat.not_lt.mp (of_decide_eq_false h.flag.symm)

theorem Holds.of_fits (h : Holds current rxLine overflowed)
    (hfits : (buffered current).length ≤ usbControlLineCapacity) : overflowed = false := by
  rw [h.flag]
  exact decide_eq_false (Nat.not_lt.mpr hfits)

theorem Holds.append (h : Holds current rxLine overflowed) (byte : UInt8) :
    Holds (current ++ [byte]) (appendUsbControlByte rxLine overflowed byte).1
      (appendUsbControlByte rxLine overflowed byte).2 := by
  cases overflowed with
  | true =>
    have hover := of_decide_eq_true h.flag.symm
    refine ⟨?_, h.buffer⟩
    show true = _
    rw [buffered_append_singleton, List.length_append]
    exact (decide_eq_true (by omega)).symm
  | false =>
    obtain rfl : rxLine = buffered current := h.buffer
    by_cases hroom : (buffered current).length + (encodeByte byte).length ≤ usbControlLineCapacity
    · have happend : appendUsbControlByte (buffered current) false byte =
          (buffered current ++ encodeByte byte, false) := by
        simp [appendUsbControlByte, hroom]
      rw [happend]
      refine ⟨?_, by simp⟩
      rw [buffered_append_singleton, List.length_append]
      exact (decide_eq_false (by omega)).symm
    · have happend : appendUsbControlByte (buffered current) false byte = ([], true) := by
        simp [appendUsbControlByte, hroom]
      rw [happend]
      refine ⟨?_, rfl⟩
      rw [buffered_append_singleton, List.length_append]
      exact (decide_eq_true (by omega)).symm

theorem Holds.event (h : Holds current rxLine overflowed) :
    (if overflowed then LineEvent.tooLong else .frame rxLine) = bufferedEvent current := by
  cases overflowed with
  | true => exact (if_pos (of_decide_eq_true h.flag.symm)).symm
  | false =>
    rw [bufferedEvent, if_neg (Nat.not_lt.mpr h.fits), h.buffer]
    rfl

/-- Reading a stretch of the stream: the events are those of the lines that end in it, and
the buffer holds the line it ends in. -/
structure Consumed (lines : Lines) (read : List UInt8) (events : List LineEvent)
    (rxLine : List UInt8) (overflowed : Bool) : Prop where
  complete : (read.foldl Lines.push lines).complete.map bufferedEvent =
    lines.complete.map bufferedEvent ++ events
  holds : Holds (read.foldl Lines.push lines).current rxLine overflowed

theorem Consumed.nil {lines : Lines} (h : Holds lines.current rxLine overflowed) :
    Consumed lines [] [] rxLine overflowed :=
  ⟨(List.append_nil _).symm, h⟩

theorem Consumed.lineFeed {lines : Lines} {read : List UInt8} {events : List LineEvent}
    {rxLine' : List UInt8} {overflowed' : Bool} (h : Holds lines.current rxLine overflowed)
    (hrest : Consumed (lines.push lineFeed) read events rxLine' overflowed') :
    Consumed lines (lineFeed :: read)
      ((if overflowed then LineEvent.tooLong else .frame rxLine) :: events) rxLine'
      overflowed' := by
  refine ⟨?_, hrest.holds⟩
  rw [List.foldl_cons, hrest.complete, h.event]
  simp [Lines.push]

theorem Consumed.byte {lines : Lines} {byte : UInt8} {read : List UInt8}
    {events : List LineEvent} (hbyte : byte ≠ Usb.lineFeed)
    (hrest : Consumed (lines.push byte) read events rxLine overflowed) :
    Consumed lines (byte :: read) events rxLine overflowed := by
  refine ⟨?_, hrest.holds⟩
  rw [List.foldl_cons, hrest.complete]
  simp only [Lines.push, if_neg hbyte]
  split <;> rfl

theorem Lines.push_current (lines : Lines) {byte : UInt8} (hfeed : byte ≠ lineFeed)
    (hreturn : byte ≠ carriageReturn) :
    (lines.push byte).current = lines.current ++ [byte] := by
  simp only [Lines.push, if_neg hfeed, if_neg hreturn]

theorem pollUsbEarlyControl_go_consumed (budget : ℕ) :
    ∀ (fifo : List UInt8) {rxLine : List UInt8} {overflowed : Bool} {lines : Lines},
      Holds lines.current rxLine overflowed →
      ∃ overflowed', Consumed lines (fifo.take budget)
        (pollUsbEarlyControl.go budget fifo rxLine overflowed).1
        (pollUsbEarlyControl.go budget fifo rxLine overflowed).2.1 overflowed' ∧
        (pollUsbEarlyControl.go budget fifo rxLine overflowed).2.2 = fifo.drop budget := by
  induction budget with
  | zero => exact fun fifo _ _ _ h => ⟨_, .nil h, rfl⟩
  | succ budget ih =>
    intro fifo rxLine overflowed lines h
    cases fifo with
    | nil => exact ⟨_, .nil h, rfl⟩
    | cons byte fifo =>
      rw [List.take_succ_cons, List.drop_succ_cons, pollUsbEarlyControl.go]
      split
      · rename_i hfeed
        subst hfeed
        obtain ⟨overflowed', hrest, hfifo⟩ := @ih fifo [] false (lines.push lineFeed) .nil
        exact ⟨overflowed', .lineFeed h hrest, hfifo⟩
      · rename_i hfeed
        split
        · rename_i hreturn
          subst hreturn
          obtain ⟨overflowed', hrest, hfifo⟩ := @ih fifo _ _ lines h
          exact ⟨overflowed', .byte hfeed hrest, hfifo⟩
        · rename_i hreturn
          have happend := h.append byte
          rw [← lines.push_current hfeed hreturn] at happend
          obtain ⟨overflowed', hrest, hfifo⟩ := ih fifo happend
          exact ⟨overflowed', .byte hfeed hrest, hfifo⟩

theorem runtimeDrainUsbInput_go_consumed (budget : ℕ) :
    ∀ (fifo : List UInt8) {rxLine : List UInt8} {overflowed : Bool} {lines : Lines},
      Holds lines.current rxLine overflowed →
      ∃ read, Consumed lines read
        (runtimeDrainUsbInput.go budget fifo rxLine overflowed).1.toList
        (runtimeDrainUsbInput.go budget fifo rxLine overflowed).2.1
        (runtimeDrainUsbInput.go budget fifo rxLine overflowed).2.2.1 ∧
        fifo = read ++ (runtimeDrainUsbInput.go budget fifo rxLine overflowed).2.2.2 := by
  induction budget with
  | zero => exact fun fifo _ _ _ h => ⟨[], .nil h, rfl⟩
  | succ budget ih =>
    intro fifo rxLine overflowed lines h
    cases fifo with
    | nil => exact ⟨[], .nil h, rfl⟩
    | cons byte fifo =>
      rw [runtimeDrainUsbInput.go]
      split
      · -- the poll stops after the line
        rename_i hfeed
        subst hfeed
        have hrest : Consumed (lines.push lineFeed) [] [] [] false := .nil .nil
        refine ⟨[lineFeed], ?_, ?_⟩
        · have hline := Consumed.lineFeed h hrest
          cases overflowed <;> exact hline
        · cases overflowed <;> rfl
      · rename_i hfeed
        split
        · rename_i hreturn
          have happend := h.append byte
          rw [← lines.push_current hfeed hreturn] at happend
          obtain ⟨read, hrest, hfifo⟩ := @ih fifo _ _ _ happend
          exact ⟨byte :: read, .byte hfeed hrest, congrArg (List.cons byte) hfifo⟩
        · rename_i hreturn
          obtain rfl : byte = carriageReturn := not_not.mp hreturn
          obtain ⟨read, hrest, hfifo⟩ := @ih fifo _ _ lines h
          exact ⟨carriageReturn :: read, .byte hfeed hrest,
            congrArg (List.cons carriageReturn) hfifo⟩

end Holds

/-! ## Runs -/

inductive UsbReader where
  | early
  | runtime
deriving DecidableEq

/-- The transmitted bytes that wait to be read, the line buffer with the flag of the
runtime reader, and what has happened so far: the bytes read and the lines handed on. -/
structure UsbInput where
  reader : UsbReader := .early
  fifo : List UInt8 := []
  rxLine : List UInt8 := []
  rxOverflowed : Bool := false
  received : List UInt8 := []
  events : List LineEvent := []

inductive InputAction where
  | arrive (bytes : List UInt8)
  | poll
  | startRuntime
deriving DecidableEq

namespace UsbInput

def perform (input : UsbInput) : InputAction → UsbInput
  | .arrive bytes => { input with fifo := input.fifo ++ bytes }
  | .startRuntime => { input with reader := .runtime }
  | .poll =>
      match input.reader with
      | .early =>
          let (events, rxLine, fifo) := pollUsbEarlyControl input.fifo input.rxLine
          { input with
            fifo := fifo
            rxLine := rxLine
            received := input.received ++ input.fifo.take pdRuntimeUsbByteBudget
            events := input.events ++ events }
      | .runtime =>
          let (event, rxLine, rxOverflowed, fifo) :=
            runtimeDrainUsbInput input.fifo input.rxLine input.rxOverflowed
          { input with
            fifo := fifo
            rxLine := rxLine
            rxOverflowed := rxOverflowed
            received := input.received ++
              input.fifo.take (input.fifo.length - fifo.length)
            events := input.events ++ event.toList }

/-- The line that an early poll would leave unfinished. -/
def unfinished (input : UsbInput) : List UInt8 :=
  (usbLines (input.received ++ input.fifo.take pdRuntimeUsbByteBudget)).current

/-- A step in which the reader changes at a line boundary only, and in which no early poll
ends inside a line that has outgrown the buffer. -/
def Steps (input : UsbInput) (action : InputAction) (after : UsbInput) : Prop :=
  (action = .startRuntime → (usbLines input.received).current = []) ∧
    (action = .poll → input.reader = .early →
      (buffered input.unfinished).length ≤ usbControlLineCapacity) ∧
    after = input.perform action

end UsbInput

open UsbInput

structure InputInvariant (input : UsbInput) : Prop where
  events : input.events = bufferedEvents input.received
  holds : Holds (usbLines input.received).current input.rxLine input.rxOverflowed
  early : input.reader = .early → input.rxOverflowed = false

theorem Consumed.received {input : UsbInput} (h : InputInvariant input) {read rxLine : List UInt8}
    {events : List LineEvent} {overflowed : Bool}
    (hread : Consumed (usbLines input.received) read events rxLine overflowed) :
    input.events ++ events = bufferedEvents (input.received ++ read) ∧
      Holds (usbLines (input.received ++ read)).current rxLine overflowed := by
  have hlines : usbLines (input.received ++ read) =
      read.foldl Lines.push (usbLines input.received) := List.foldl_append
  rw [bufferedEvents, hlines, hread.complete, h.events, bufferedEvents]
  exact ⟨rfl, hread.holds⟩

theorem InputInvariant.step {input after : UsbInput} {action : InputAction}
    (h : InputInvariant input) (hstep : input.Steps action after) : InputInvariant after := by
  obtain ⟨hboundary, hfits, rfl⟩ := hstep
  cases action with
  | arrive bytes => exact { h with }
  | startRuntime => exact ⟨h.events, h.holds, fun hearly => by cases hearly⟩
  | poll =>
    cases hreader : input.reader with
    | early =>
      have hholds := h.holds
      rw [h.early hreader] at hholds
      obtain ⟨overflowed, hconsumed, -⟩ :=
        pollUsbEarlyControl_go_consumed pdRuntimeUsbByteBudget input.fifo hholds
      obtain ⟨hevents, hafter⟩ := hconsumed.received h
      -- the flag of the poll is lost, but it was not set
      obtain rfl : overflowed = false := hafter.of_fits (hfits rfl hreader)
      have hflag := h.early hreader
      simp only [UsbInput.perform, hreader]
      exact ⟨hevents, hflag ▸ hafter, fun _ => hflag⟩
    | runtime =>
      obtain ⟨read, hconsumed, hfifo⟩ :=
        runtimeDrainUsbInput_go_consumed pdRuntimeUsbByteBudget input.fifo h.holds
      obtain ⟨hevents, hafter⟩ := hconsumed.received h
      have hread : input.fifo.take (input.fifo.length -
          (runtimeDrainUsbInput input.fifo input.rxLine input.rxOverflowed).2.2.2.length) =
            read := by
        have hlength := congrArg List.length hfifo
        rw [List.length_append] at hlength
        rw [show input.fifo.length - (runtimeDrainUsbInput input.fifo input.rxLine
          input.rxOverflowed).2.2.2.length = read.length by
            unfold runtimeDrainUsbInput
            omega]
        conv_lhs => rw [hfifo]
        exact List.take_left' rfl
      simp only [UsbInput.perform, hreader, hread]
      exact ⟨hevents, hafter, fun hearly => by cases hearly⟩

/-! ## The claim -/

theorem reads_buffered_events {actions : List InputAction} {input : UsbInput}
    (hrun : Reaches Steps {} actions input) : input.events = bufferedEvents input.received :=
  (Reaches.invariant (⟨rfl, .nil, fun _ => rfl⟩ : InputInvariant {})
    (fun _ _ _ h hstep => h.step hstep) hrun).events

/-- As long as no early poll ends inside a line that has outgrown the buffer, the readers
hand on the lines they should exactly when the lines read are ASCII as far as they fit. -/
theorem reads_expected_events_iff {actions : List InputAction} {input : UsbInput}
    (hrun : Reaches Steps {} actions input) :
    input.events = expectedEvents input.received ↔
      ∀ line ∈ (usbLines input.received).complete,
        line.length ≤ usbControlLineCapacity → IsAscii line := by
  rw [reads_buffered_events hrun]
  exact bufferedEvents_eq_iff input.received

/-- `é` and the end of the line, for the runtime reader. -/
def accentedActions : List InputAction := [.startRuntime, .arrive [0xc3, 0xa9, lineFeed], .poll]

theorem accented_run : Reaches Steps {} accentedActions (accentedActions.foldl perform {}) := by
  have hstart : Reaches Steps {} ([] ++ [.startRuntime]) (({} : UsbInput).perform .startRuntime) :=
    .step .refl ⟨fun _ => rfl, fun h => (by cases h), rfl⟩
  have harrive : Reaches Steps {} ([.startRuntime] ++ [.arrive [0xc3, 0xa9, lineFeed]])
      ((({} : UsbInput).perform .startRuntime).perform (.arrive [0xc3, 0xa9, lineFeed])) :=
    hstart.step ⟨fun h => (by cases h), fun h => (by cases h), rfl⟩
  exact harrive.step ⟨fun h => (by cases h), fun _ h => (by cases h), rfl⟩

/-- The two bytes of an `é` are handed on as four. -/
theorem accented_line_is_changed :
    Reaches Steps {} accentedActions (accentedActions.foldl perform {}) ∧
      (accentedActions.foldl perform {}).events = [.frame [0xc3, 0x83, 0xc2, 0xa9]] ∧
      expectedEvents (accentedActions.foldl perform {}).received = [.frame [0xc3, 0xa9]] := by
  have hlines : usbLines (accentedActions.foldl perform {}).received =
      { complete := [[0xc3, 0xa9]], current := [] } := by decide
  have hvalid : ValidUtf8 [0xc3, 0xa9] := ⟨['é'], by decide⟩
  have hevent : expectedEvent [0xc3, 0xa9] = some (.frame [0xc3, 0xa9]) := by
    rw [expectedEvent, if_neg (by decide), if_pos hvalid]
  refine ⟨accented_run, by decide, ?_⟩
  rw [expectedEvents, hlines, List.filterMap_cons_some hevent]
  rfl

/-- One line of ASCII, for the early reader. -/
def asciiActions : List InputAction := [.arrive [0x68, 0x69, lineFeed], .poll]

theorem reads_expected_events_iff_ascii : (asciiActions.foldl perform {}).events =
      expectedEvents (asciiActions.foldl perform {}).received := by
  have harrive : Reaches Steps {} ([] ++ [.arrive [0x68, 0x69, lineFeed]])
      (({} : UsbInput).perform (.arrive [0x68, 0x69, lineFeed])) :=
    .step .refl ⟨fun h => (by cases h), fun h => (by cases h), rfl⟩
  have hrun : Reaches Steps {} asciiActions (asciiActions.foldl perform {}) :=
    harrive.step ⟨fun h => (by cases h), fun _ _ => (by decide), rfl⟩
  refine (reads_expected_events_iff hrun).mpr ?_
  have hlines : usbLines (asciiActions.foldl perform {}).received =
      { complete := [[0x68, 0x69]], current := [] } := by decide
  rw [hlines]
  intro line hline _
  obtain rfl := List.mem_singleton.mp hline
  intro byte hbyte
  fin_cases hbyte <;> decide

end FluxPurr.Usb
