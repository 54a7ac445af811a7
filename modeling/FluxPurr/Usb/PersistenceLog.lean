import FluxPurr.Usb.ResponseWriter

/-!
# Deferred persistence log lines

Persistence diagnostics are queued (`writeLine`) and sent one packet at a time when the
response channel is idle (`flushOne`).  The queue holds four lines; a fifth evicts the
front.  The front line is also the one being sent, and the writer's offset is an offset
into whatever line is at the front: an eviction in the middle of a line hands its offset to
the next one.

`FromWholeLines` says what the transmitter may have seen: whole lines in the order in which
they were queued, except for lines cut by a transport fault and the line in progress.  It
is an invariant of the runs in which no line is evicted while it is being sent
(`log_lines_stay_whole`), and of no others in general
(`eviction_mixes_two_lines`).
-/

namespace FluxPurr.Usb

open Runs
open UsbResponseWriter

abbrev usbPersistenceLogLineMax : ℕ := 256
abbrev usbPersistenceLogQueueCapacity : ℕ := 4

structure DeferredPersistenceLogSink where
  lines : List (List UInt8) := []
  writer : UsbResponseWriter := {}
  transportFault : Bool := false

namespace DeferredPersistenceLogSink

variable (sink : DeferredPersistenceLogSink)

def takeTransportFault : Bool × DeferredPersistenceLogSink :=
  (sink.transportFault, { sink with transportFault := false })

def markTransportFault : DeferredPersistenceLogSink :=
  { lines := [], writer := sink.writer.abort, transportFault := true }

def isFull : Bool := usbPersistenceLogQueueCapacity ≤ sink.lines.length

def writeLine (line : List UInt8) : DeferredPersistenceLogSink :=
  let kept := if sink.isFull then sink.lines.tail else sink.lines
  { sink with lines := kept ++ [line.take usbPersistenceLogLineMax] }

/-- `flushOne` with a line at the front, for which the writer is started. -/
def flushFront (writer : UsbResponseWriter)
    (line : List UInt8) (rest : List (List UInt8)) (usb : UsbControlTx) (nowMs : ℕ) :
    Bool × DeferredPersistenceLogSink × UsbControlTx :=
  if writer.isExpired nowMs then (false, sink.markTransportFault, usb)
  else
    match writer.step usb line with
    | (.ok true, writer, usb) =>
        (true, { sink with lines := rest, writer := writer.abort }, usb)
    | (.error .other, _, usb) => (false, sink.markTransportFault, usb)
    | (.ok false, writer, usb) => (false, { sink with writer := writer }, usb)
    | (.error .wouldBlock, writer, usb) => (false, { sink with writer := writer }, usb)

/-- `startMs` and `nowMs` are the two readings of the clock. -/
def flushOne (usb : UsbControlTx) (startMs nowMs : ℕ) :
    Bool × DeferredPersistenceLogSink × UsbControlTx :=
  if sink.transportFault then (false, sink, usb)
  else
    match sink.lines with
    | [] => (true, sink, usb)
    | line :: rest =>
        let writer :=
          if sink.writer.isComplete then
            sink.writer.start line.length
              (saturatingAddU64 startMs usbControlResponseTimeoutMs)
          else sink.writer
        sink.flushFront writer line rest usb nowMs

/-- What has been sent of the line at the front. -/
def inProgress : List UInt8 :=
  if sink.writer.isComplete then [] else (sink.lines.headD []).take sink.writer.offset

/-- A line may be written: there is room, or no line is being sent, or none of its bytes
has been accepted and the next line is not longer. -/
def MayWrite : Prop :=
  sink.isFull = true → sink.writer.isComplete = false →
    sink.writer.offset = 0 ∧ (sink.lines.tail.headD []).length ≤ sink.writer.responseLen

end DeferredPersistenceLogSink

open DeferredPersistenceLogSink

/-! ## Runs -/

/-- The sink and its transmitter, with the number of transport faults reported so far. -/
structure LogRun where
  sink : DeferredPersistenceLogSink := {}
  tx : UsbControlTx
  faults : ℕ := 0

inductive LogAction where
  | writeLine (line : List UInt8)
  | flushOne (startMs nowMs : ℕ)
  | takeTransportFault

namespace LogRun

def perform (run : LogRun) : LogAction → LogRun
  | .writeLine line => { run with sink := run.sink.writeLine line }
  | .flushOne startMs nowMs =>
      let (_, sink, tx) := run.sink.flushOne run.tx startMs nowMs
      { sink := sink
        tx := tx
        faults :=
          if sink.transportFault && !run.sink.transportFault then run.faults + 1
          else run.faults }
  | .takeTransportFault => { run with sink := run.sink.takeTransportFault.2 }

/-- A step that does not evict a line while it is being sent. -/
def Careful (run : LogRun) (action : LogAction) (after : LogRun) : Prop :=
  (∀ line, action = .writeLine line → run.sink.MayWrite) ∧ after = run.perform action

end LogRun

/-- The lines the actions have queued, as they were queued. -/
def queuedLines (actions : List LogAction) : List (List UInt8) :=
  actions.filterMap fun action =>
    match action with
    | .writeLine line => some (line.take usbPersistenceLogLineMax)
    | _ => none

/-- A line and how many of its bytes were sent. -/
structure Piece where
  line : List UInt8
  sent : ℕ

open Piece

def Piece.bytes (piece : Piece) : List UInt8 := piece.line.take piece.sent

def Piece.isCut (piece : Piece) : Bool := piece.sent < piece.line.length

/-- The transmitter has seen lines in the order in which they were queued.  They are whole
but for those cut by a fault and the one in progress. -/
def FromWholeLines (queued : List (List UInt8)) (run : LogRun) : Prop :=
  ∃ pieces : List Piece,
    run.tx.accepted = pieces.flatMap bytes ++ run.sink.inProgress ∧
      (pieces.map line ++ run.sink.lines).Sublist queued ∧
      pieces.countP isCut ≤ run.faults

/-! ## The invariant -/

/-- The writer was started, and none of its bytes has been accepted. -/
structure Waiting (writer : UsbResponseWriter) : Prop where
  busy : 0 < writer.responseLen
  offset : writer.offset = 0
  packetLen : writer.packetLen = 0
  flushPending : writer.flushPending = false

/-- Where the writer stands, when `before` is what was sent before the line at the
front. -/
inductive Front (before : List UInt8) (sink : DeferredPersistenceLogSink) (tx : UsbControlTx) :
    Prop where
  | idle (hcomplete : sink.writer.isComplete = true) (hbytes : tx.accepted = before)
  /-- The writer may have been started for a longer line, which was evicted since. -/
  | waiting (line : List UInt8) (rest : List (List UInt8)) (hlines : sink.lines = line :: rest)
      (h : Waiting sink.writer) (hlength : line.length ≤ sink.writer.responseLen)
      (hbytes : tx.accepted = before)
  | sending (line : List UInt8) (rest : List (List UInt8)) (base : List TxEvent)
      (hlines : sink.lines = line :: rest) (hbase : TxEvent.bytes base = before)
      (h : Sending line base sink.writer tx)

structure LogInvariant (queued : List (List UInt8)) (pieces : List Piece) (run : LogRun) :
    Prop where
  front : Front (pieces.flatMap bytes) run.sink run.tx
  order : (pieces.map line ++ run.sink.lines).Sublist queued
  cuts : pieces.countP isCut ≤ run.faults
  /-- A sink that has reported a fault has nothing to send. -/
  faulted : run.sink.transportFault = true → run.sink.writer.isComplete = true

section Invariant

variable {queued : List (List UInt8)} {pieces : List Piece} {run : LogRun}
  {sink : DeferredPersistenceLogSink} {tx : UsbControlTx} {before : List UInt8}
  {writer : UsbResponseWriter} {line : List UInt8} {rest : List (List UInt8)}
  {base : List TxEvent}

theorem Waiting.isComplete (h : Waiting writer) : writer.isComplete = false := by
  have hbusy := h.busy
  simp only [UsbResponseWriter.isComplete, decide_eq_false_iff_not]
  omega

theorem Sending.waiting (h : Sending line base writer tx) (hoffset : writer.offset = 0) :
    Waiting writer ∧ tx.log = base := by
  have hlog : tx.log = base := by
    rw [h.log, hoffset]
    simp
  rcases h.packet with ⟨hflush, hlt, hpacket⟩ | ⟨_, hend, hshort⟩
  · rw [hoffset] at hlt hpacket
    exact ⟨⟨h.responseLen ▸ hlt, hoffset, hpacket, hflush⟩, hlog⟩
  · exact absurd (by rw [← hend, hoffset]; rfl) hshort

theorem Waiting.sending (h : Waiting writer) (hlength : writer.responseLen = line.length) :
    Sending line tx.log writer tx where
  responseLen := hlength
  log := by simp [h.offset]
  packet := .inl ⟨h.flushPending, by rw [h.offset, ← hlength]; exact h.busy, by
    rw [h.packetLen, h.offset]; rfl⟩

theorem Front.bytes_eq (h : Front before sink tx) : tx.accepted = before ++ sink.inProgress := by
  cases h with
  | idle hcomplete hbytes => simp [inProgress, hcomplete, hbytes]
  | waiting line rest hlines h hlength hbytes =>
    simp [inProgress, h.offset, hbytes]
  | sending line rest base hlines hbase h =>
    rw [UsbControlTx.accepted, h.log, TxEvent.bytes_append, TxEvent.bytes_map_byte, hbase]
    simp [inProgress, h.isComplete, hlines]

theorem LogInvariant.fromWholeLines (h : LogInvariant queued pieces run) :
    FromWholeLines queued run :=
  ⟨pieces, h.front.bytes_eq, h.order, h.cuts⟩

/-! ### Writing a line -/

theorem Front.append (h : Front before sink tx) (line : List UInt8) :
    Front before { sink with lines := sink.lines ++ [line] } tx := by
  cases h with
  | idle hcomplete hbytes => exact .idle hcomplete hbytes
  | waiting first rest hlines h hlength hbytes =>
    exact .waiting first (rest ++ [line]) (by simp [hlines]) h hlength hbytes
  | sending first rest base hlines hbase h =>
    exact .sending first (rest ++ [line]) base (by simp [hlines]) hbase h

theorem Front.evict (h : Front before sink tx) (hfull : sink.isFull = true)
    (hmay : sink.MayWrite) : Front before { sink with lines := sink.lines.tail } tx := by
  have hfour : 4 ≤ sink.lines.length := of_decide_eq_true hfull
  -- a started writer stands before its first byte, so it is waiting for the next line
  have hnext : sink.writer.isComplete = false → Waiting sink.writer → tx.accepted = before →
      Front before { sink with lines := sink.lines.tail } tx := by
    intro hbusy hwaiting hbytes
    obtain ⟨-, hshorter⟩ := hmay hfull hbusy
    obtain ⟨second, rest, hrest⟩ := List.exists_cons_of_length_pos
      (by rw [List.length_tail]; omega : 0 < sink.lines.tail.length)
    rw [hrest] at hshorter
    exact .waiting second rest hrest hwaiting hshorter hbytes
  cases h with
  | idle hcomplete hbytes => exact .idle hcomplete hbytes
  | waiting first rest hlines h hlength hbytes => exact hnext h.isComplete h hbytes
  | sending first rest base hlines hbase h =>
    obtain ⟨hoffset, -⟩ := hmay hfull h.isComplete
    obtain ⟨hwaiting, hlog⟩ := h.waiting hoffset
    exact hnext h.isComplete hwaiting (by rw [UsbControlTx.accepted, hlog, hbase])

theorem LogInvariant.writeLine (h : LogInvariant queued pieces run)
    (hmay : run.sink.MayWrite) (line : List UInt8) :
    LogInvariant (queued ++ [line.take usbPersistenceLogLineMax]) pieces
      (run.perform (.writeLine line)) := by
  by_cases hfull : run.sink.isFull = true
  · have hsink : run.sink.writeLine line =
        { run.sink with
          lines := run.sink.lines.tail ++ [line.take usbPersistenceLogLineMax] } := by
      simp [DeferredPersistenceLogSink.writeLine, hfull]
    refine ⟨?_, ?_, h.cuts, h.faulted⟩
    · show Front _ (run.sink.writeLine line) run.tx
      rw [hsink]
      exact (h.front.evict hfull hmay).append _
    · show (pieces.map Piece.line ++ (run.sink.writeLine line).lines).Sublist _
      have htail : (pieces.map Piece.line ++ run.sink.lines.tail).Sublist queued :=
        ((List.Sublist.refl _).append (List.tail_sublist _)).trans h.order
      rw [hsink, ← List.append_assoc]
      exact htail.append (List.Sublist.refl _)
  · have hsink : run.sink.writeLine line =
        { run.sink with
          lines := run.sink.lines ++ [line.take usbPersistenceLogLineMax] } := by
      simp [DeferredPersistenceLogSink.writeLine, hfull]
    refine ⟨?_, ?_, h.cuts, h.faulted⟩
    · show Front _ (run.sink.writeLine line) run.tx
      rw [hsink]
      exact h.front.append _
    · show (pieces.map Piece.line ++ (run.sink.writeLine line).lines).Sublist _
      rw [hsink, ← List.append_assoc]
      exact h.order.append (List.Sublist.refl _)

/-! ### Sending a packet -/

theorem countP_append_piece (pieces : List Piece) (piece : Piece) :
    (pieces ++ [piece]).countP isCut ≤ pieces.countP isCut + 1 := by
  rw [List.countP_append]
  have hone : [piece].countP isCut ≤ 1 := List.countP_le_length
  omega

/-- A fault cuts the line at the front; everything queued is dropped. -/
theorem LogInvariant.fault (h : LogInvariant queued pieces run) {tx : UsbControlTx}
    (hlines : run.sink.lines = line :: rest) (n : ℕ)
    (hbytes : tx.accepted = pieces.flatMap bytes ++ line.take n) :
    LogInvariant queued (pieces ++ [⟨line, n⟩])
      { sink := run.sink.markTransportFault, tx := tx, faults := run.faults + 1 } where
  front := .idle rfl (by simp [hbytes, bytes])
  order := by
    have hfront : [line].Sublist run.sink.lines := by
      rw [hlines]
      exact List.singleton_sublist.mpr (List.mem_cons_self ..)
    simpa [markTransportFault] using
      ((List.Sublist.refl (pieces.map Piece.line)).append hfront).trans h.order
  cuts := Nat.le_trans (countP_append_piece pieces _) (Nat.add_le_add_right h.cuts 1)
  faulted _ := rfl

theorem LogInvariant.sent (h : LogInvariant queued pieces run) {tx : UsbControlTx}
    (hlines : run.sink.lines = line :: rest) (hok : run.sink.transportFault = false)
    (hbytes : tx.accepted = pieces.flatMap bytes ++ line) :
    LogInvariant queued (pieces ++ [⟨line, line.length⟩])
      { run with sink := { run.sink with lines := rest, writer := {} }, tx := tx } where
  front := .idle rfl (by simp [hbytes, bytes])
  order := by
    have horder := h.order
    rw [hlines] at horder
    simpa using horder
  cuts := by
    have hwhole : [(⟨line, line.length⟩ : Piece)].countP isCut = 0 := by
      simp [isCut]
    rw [List.countP_append, hwhole]
    exact h.cuts
  faulted hfault := by simp [hok] at hfault

theorem LogInvariant.resume (h : LogInvariant queued pieces run) {tx : UsbControlTx}
    (hlines : run.sink.lines = line :: rest) (hok : run.sink.transportFault = false)
    (hbase : TxEvent.bytes base = pieces.flatMap bytes)
    (hsending : Sending line base writer tx) :
    LogInvariant queued pieces
      { run with sink := { run.sink with writer := writer }, tx := tx } where
  front := .sending line rest base hlines hbase hsending
  __ := h
  faulted hfault := by simp [hok] at hfault

/-- The step of the run that a call of `flushOne` is. -/
def afterFlush (run : LogRun) (result : Bool × DeferredPersistenceLogSink × UsbControlTx) :
    LogRun where
  sink := result.2.1
  tx := result.2.2
  faults :=
    if result.2.1.transportFault && !run.sink.transportFault then run.faults + 1
    else run.faults

theorem LogInvariant.afterFault (h : LogInvariant queued pieces run) {tx : UsbControlTx}
    (hlines : run.sink.lines = line :: rest) (hok : run.sink.transportFault = false) (n : ℕ)
    (hbytes : tx.accepted = pieces.flatMap bytes ++ line.take n) :
    ∃ pieces, LogInvariant queued pieces
      (afterFlush run (false, run.sink.markTransportFault, tx)) := by
  have hfault := h.fault hlines n hbytes
  refine ⟨pieces ++ [⟨line, n⟩], ?_⟩
  simpa [afterFlush, hok, markTransportFault] using hfault

theorem LogInvariant.flushSending (h : LogInvariant queued pieces run)
    (hlines : run.sink.lines = line :: rest) (hok : run.sink.transportFault = false)
    (hbase : TxEvent.bytes base = pieces.flatMap bytes)
    (hsending : Sending line base writer run.tx) (nowMs : ℕ) :
    ∃ pieces, LogInvariant queued pieces
      (afterFlush run (run.sink.flushFront writer line rest run.tx nowMs)) := by
  have hsent : ∀ {writer : UsbResponseWriter} {tx : UsbControlTx},
      Sending line base writer tx →
        tx.accepted = pieces.flatMap bytes ++ line.take writer.offset := by
    intro writer tx h
    rw [UsbControlTx.accepted, h.log, TxEvent.bytes_append, TxEvent.bytes_map_byte, hbase]
  unfold flushFront
  split
  · exact h.afterFault hlines hok _ (hsent hsending)
  · have hstep := hsending.step (List.take_length)
    split <;> rename_i heq <;> rw [heq] at hstep
    · -- the whole line is out
      obtain ⟨-, hlog⟩ := hstep
      have hwhole := h.sent hlines hok (by
        rw [UsbControlTx.accepted, hlog, TxEvent.bytes_append, hbase, bytes_transcript])
      exact ⟨_, by simpa [afterFlush, hok, abort] using hwhole⟩
    · exact h.afterFault hlines hok _ (hsent hstep)
    · exact ⟨pieces, by simpa [afterFlush, hok] using h.resume hlines hok hbase hstep⟩
    · exact ⟨pieces, by simpa [afterFlush, hok] using h.resume hlines hok hbase hstep⟩

/-- The writer was started for a longer line: nothing is sent, and a fault is reported. -/
theorem LogInvariant.flushLonger (h : LogInvariant queued pieces run)
    (hlines : run.sink.lines = line :: rest) (hok : run.sink.transportFault = false)
    (hlonger : line.length < writer.responseLen)
    (hbytes : run.tx.accepted = pieces.flatMap bytes) (nowMs : ℕ) :
    ∃ pieces, LogInvariant queued pieces
      (afterFlush run (run.sink.flushFront writer line rest run.tx nowMs)) := by
  have hstep : writer.step run.tx line = (.error .other, writer, run.tx) := by
    simp only [step, if_pos hlonger]
  have hnone : run.tx.accepted = pieces.flatMap bytes ++ line.take 0 := by simp [hbytes]
  unfold flushFront
  split
  · exact h.afterFault hlines hok 0 hnone
  · rw [hstep]
    exact h.afterFault hlines hok 0 hnone

theorem LogInvariant.flushOne (h : LogInvariant queued pieces run) (startMs nowMs : ℕ) :
    ∃ pieces, LogInvariant queued pieces (run.perform (.flushOne startMs nowMs)) := by
  show ∃ pieces, LogInvariant queued pieces
    (afterFlush run (run.sink.flushOne run.tx startMs nowMs))
  cases hfault : run.sink.transportFault with
  | true =>
    refine ⟨pieces, ?_⟩
    simpa [afterFlush, DeferredPersistenceLogSink.flushOne, hfault] using h
  | false =>
    cases hlines : run.sink.lines with
    | nil =>
      refine ⟨pieces, ?_⟩
      simpa [afterFlush, DeferredPersistenceLogSink.flushOne, hfault, hlines] using h
    | cons line rest =>
      have hflush : run.sink.flushOne run.tx startMs nowMs = run.sink.flushFront
          (if run.sink.writer.isComplete then
            run.sink.writer.start line.length
              (saturatingAddU64 startMs usbControlResponseTimeoutMs)
          else run.sink.writer) line rest run.tx nowMs := by
        simp [DeferredPersistenceLogSink.flushOne, hfault, hlines]
      rw [hflush]
      cases h.front with
      | idle hcomplete hbytes =>
        rw [if_pos hcomplete]
        generalize saturatingAddU64 startMs usbControlResponseTimeoutMs = deadlineMs
        rcases Nat.eq_zero_or_pos line.length with hempty | hpos
        · -- an empty line is sent at once
          obtain rfl := List.length_eq_zero_iff.mp hempty
          have hwhole := @LogInvariant.sent _ _ _ _ _ h run.tx hlines hfault
            (by simp [hbytes])
          refine ⟨pieces ++ [⟨[], 0⟩], ?_⟩
          simpa [afterFlush, hfault, flushFront,
            start, isExpired,
            isComplete, step,
            abort] using hwhole
        · have hwaiting : Waiting (run.sink.writer.start line.length deadlineMs) :=
            ⟨hpos, rfl, rfl, rfl⟩
          exact h.flushSending hlines hfault hbytes (hwaiting.sending rfl) nowMs
      | waiting first others hfirst hwaiting hlength hbytes =>
        obtain ⟨rfl, rfl⟩ := List.cons.inj (hlines.symm.trans hfirst)
        rw [hwaiting.isComplete, if_neg (by simp)]
        rcases Nat.lt_or_ge line.length run.sink.writer.responseLen with hlt | hge
        · exact h.flushLonger hlines hfault hlt hbytes nowMs
        · exact h.flushSending hlines hfault hbytes
            (hwaiting.sending (Nat.le_antisymm hge hlength)) nowMs
      | sending first others base hfirst hbase hsending =>
        obtain ⟨rfl, rfl⟩ := List.cons.inj (hlines.symm.trans hfirst)
        rw [hsending.isComplete, if_neg (by simp)]
        exact h.flushSending hlines hfault hbase hsending nowMs

theorem LogInvariant.takeTransportFault (h : LogInvariant queued pieces run) :
    LogInvariant queued pieces (run.perform .takeTransportFault) where
  front := by
    cases h.front with
    | idle hcomplete hbytes => exact .idle hcomplete hbytes
    | waiting first rest hlines hwaiting hlength hbytes =>
      exact .waiting first rest hlines hwaiting hlength hbytes
    | sending first rest base hlines hbase hsending =>
      exact .sending first rest base hlines hbase hsending
  __ := h
  faulted hfault := by cases hfault

end Invariant

/-! ## The claim -/

theorem queuedLines_append (actions : List LogAction) (action : LogAction) :
    queuedLines (actions ++ [action]) = queuedLines actions ++ queuedLines [action] :=
  List.filterMap_append

/-- In a run that evicts no line while it is being sent, only whole lines are seen, in
queue order, but for those cut by a fault and the one in progress; and a line that is
evicted has had no byte sent. -/
theorem log_lines_stay_whole {tx : UsbControlTx} (hlog : tx.log = [])
    {actions : List LogAction} {run : LogRun}
    (hrun : Reaches LogRun.Careful { tx := tx } actions run) :
    FromWholeLines (queuedLines actions) run ∧
      ∀ line after, run.Careful (.writeLine line) after → run.sink.isFull = true →
        run.sink.inProgress = [] := by
  have hinv : ∃ pieces, LogInvariant (queuedLines actions) pieces run := by
    induction hrun with
    | refl => exact ⟨[], .idle rfl (by simp [UsbControlTx.accepted, hlog, TxEvent.bytes]),
        List.nil_sublist _, Nat.le_refl _, fun h => by cases h⟩
    | @step actions run after action _ hstep ih =>
        obtain ⟨pieces, ih⟩ := ih
        obtain ⟨hmay, rfl⟩ := hstep
        rw [queuedLines_append]
        cases action with
        | writeLine line => exact ⟨pieces, ih.writeLine (hmay line rfl) line⟩
        | flushOne startMs nowMs =>
            obtain ⟨pieces, hflush⟩ := ih.flushOne startMs nowMs
            exact ⟨pieces, by simpa [queuedLines] using hflush⟩
        | takeTransportFault => exact ⟨pieces, by simpa [queuedLines] using ih.takeTransportFault⟩
  obtain ⟨pieces, hinv⟩ := hinv
  refine ⟨hinv.fromWholeLines, ?_⟩
  intro line after hcareful hfull
  cases hbusy : run.sink.writer.isComplete with
  | true => simp [inProgress, hbusy]
  | false =>
      obtain ⟨hoffset, -⟩ := hcareful.1 line rfl hfull hbusy
      simp [inProgress, hoffset]

/-! ### A line evicted in the middle -/

/-- A line of two bytes. -/
def shortLine (index : UInt8) : List UInt8 := [0x41 + index, 0x61 + index]

/-- The transmitter takes one byte, blocks, and then takes everything. -/
def blockingTx : UsbControlTx := { answers := [.ok (), .error .wouldBlock, .ok (), .ok ()] }

/-- After the first byte of the first line, four more lines are queued. -/
def mixedActions : List LogAction :=
  [.writeLine (shortLine 0), .flushOne 0 1, .writeLine (shortLine 1), .writeLine (shortLine 2),
    .writeLine (shortLine 3), .writeLine (shortLine 4), .flushOne 2 3]

/-- The second byte is taken from the second line. -/
theorem eviction_mixes_two_lines : ¬ FromWholeLines (queuedLines mixedActions)
      (mixedActions.foldl LogRun.perform { tx := blockingTx }) := by
  rintro ⟨pieces, hbytes, -, -⟩
  have haccepted :
      (mixedActions.foldl LogRun.perform { tx := blockingTx }).tx.accepted = [0x41, 0x62] := by
    decide
  have hprogress :
      (mixedActions.foldl LogRun.perform { tx := blockingTx }).sink.inProgress =
        [0x42, 0x62] := by
    decide
  rw [haccepted, hprogress] at hbytes
  have hlength := congrArg List.length hbytes
  have hnone : pieces.flatMap bytes = [] := by
    apply List.eq_nil_of_length_eq_zero
    rw [List.length_append] at hlength
    simp only [List.length_cons, List.length_nil] at hlength
    omega
  rw [hnone] at hbytes
  exact absurd hbytes (by decide)

/-- The first line of the same run is whole as far as it goes. -/
theorem log_lines_stay_whole_blocked : FromWholeLines (queuedLines (mixedActions.take 2))
      ((mixedActions.take 2).foldl LogRun.perform { tx := blockingTx }) := by
  have hfirst : LogRun.Careful { tx := blockingTx } (.writeLine (shortLine 0))
      (LogRun.perform { tx := blockingTx } (.writeLine (shortLine 0))) :=
    ⟨fun _ _ hfull => (by simp [isFull] at hfull), rfl⟩
  have hrun : Reaches LogRun.Careful { tx := blockingTx } (([] ++ [_]) ++ [.flushOne 0 1]) _ :=
    .step (.step .refl hfirst) ⟨fun _ h => (by cases h), rfl⟩
  exact (log_lines_stay_whole rfl hrun).1

end FluxPurr.Usb
