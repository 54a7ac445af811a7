import FluxPurr.Devd.SerialExchange

/-!
# Lines out of chunks

However the bytes of the device are cut into reads, the exchange sees the lines of the
stream: what `processSerialReadChunk` does with the chunks one after another is what
`processSerialResponseLine` does with `streamLines` of them all (`readChunks_eq`).  A line that is
too long is not among these lines, and the one behind it is.
-/

namespace FluxPurr.Devd

/-! ## Chunks and lines -/

section

variable (context : SerialExchangeContext) (fuel deadline : ℕ)

/-- The chunks of the reads, one after another. -/
def readChunks (retryAfterRuntimeReady : Bool) (buffer : LineBuffer) :
    List (List PortByte) → Exchange SerialChunkResult
  | [] => pure (.proceed retryAfterRuntimeReady buffer)
  | chunk :: chunks => do
      match ← processSerialReadChunk context fuel deadline retryAfterRuntimeReady buffer chunk with
      | .proceed retry buffer => readChunks retry buffer chunks
      | .response payload => pure (.response payload)

/-- The lines one at a time. -/
def processLines (retryAfterRuntimeReady : Bool) :
    List (List PortByte) → Exchange SerialLineAction
  | [] => pure (.proceed retryAfterRuntimeReady)
  | line :: lines => do
      match ← processSerialResponseLine context fuel deadline retryAfterRuntimeReady line with
      | .proceed retry => processLines retry lines
      | .response payload => pure (.response payload)

end

def isLineFeed (byte : PortByte) : Bool := byte.byte = 0x0A

/-- The lines of a stream that have ended and are not too long. -/
def streamLines (stream : List PortByte) : List (List PortByte) :=
  (stream.splitOnP isLineFeed).dropLast.filter (·.length ≤ serialLineContentLimit)

/-- The buffer when a line has begun with these bytes. -/
def partialLine (line : List PortByte) : LineBuffer :=
  if line.length ≤ serialLineContentLimit then { line := line }
  else { discardingOverlongLine := true }

/-- The buffer after a stream. -/
def unfinishedLine (stream : List PortByte) : LineBuffer :=
  partialLine (((stream.splitOnP isLineFeed).getLast?).getD [])

theorem partialLine_nil : partialLine [] = {} := rfl

variable {byte : PortByte}

theorem serialLineFinished_of_lineFeed (h : isLineFeed byte = true) (line : List PortByte) :
    serialLineFinished (partialLine line) byte =
      ({}, if line.length ≤ serialLineContentLimit then some line else none) := by
  rw [serialLineFinished, if_pos (of_decide_eq_true h), partialLine]
  split <;> rfl

theorem serialLineFinished_of_other (h : isLineFeed byte = false) (line : List PortByte) :
    serialLineFinished (partialLine line) byte = (partialLine (line ++ [byte]), none) := by
  rw [serialLineFinished, if_neg (of_decide_eq_false h), partialLine, partialLine,
    List.length_append, List.length_singleton]
  by_cases hroom : line.length < serialLineContentLimit
  · rw [if_pos (Nat.le_of_lt hroom), if_pos (Nat.succ_le_of_lt hroom), if_neg Bool.false_ne_true,
      if_pos hroom]
  · rw [if_neg (show ¬line.length + 1 ≤ serialLineContentLimit from hroom)]
    split
    · rw [if_neg Bool.false_ne_true]
    · rfl

/-! ## Lines of a stream -/

theorem streamLines_of_unfinished {line : List PortByte}
    (h : ∀ byte ∈ line, isLineFeed byte = false) : streamLines line = [] := by
  rw [streamLines, List.splitOnP_eq_singleton h]
  rfl

theorem unfinishedLine_of_unfinished {line : List PortByte}
    (h : ∀ byte ∈ line, isLineFeed byte = false) : unfinishedLine line = partialLine line := by
  rw [unfinishedLine, List.splitOnP_eq_singleton h]
  rfl

theorem streamLines_append_lineFeed (h : isLineFeed byte = true) (before stream : List PortByte) :
    streamLines (before ++ byte :: stream) =
      (before.splitOnP isLineFeed).filter (·.length ≤ serialLineContentLimit) ++
        streamLines stream := by
  rw [streamLines, List.splitOnP_append_cons _ _ h,
    List.dropLast_append_of_ne_nil (List.splitOnP_ne_nil isLineFeed stream), List.filter_append]
  rfl

theorem streamLines_line (h : isLineFeed byte = true) {line : List PortByte}
    (hline : ∀ byte ∈ line, isLineFeed byte = false) (stream : List PortByte) :
    streamLines (line ++ byte :: stream) =
      (if line.length ≤ serialLineContentLimit then [line] else []) ++ streamLines stream := by
  rw [streamLines_append_lineFeed h, List.splitOnP_eq_singleton hline]
  split <;> simp [*]

theorem unfinishedLine_append_lineFeed (h : isLineFeed byte = true)
    (before stream : List PortByte) :
    unfinishedLine (before ++ byte :: stream) = unfinishedLine stream := by
  rw [unfinishedLine, List.splitOnP_append_cons _ _ h,
    List.getLast?_append_of_ne_nil _ (List.splitOnP_ne_nil isLineFeed stream)]
  rfl

/-- A line that is too long leaves nothing, and what is behind it is as if it had not been. -/
theorem lines_overlong {before line : List PortByte}
    (hbefore : ∀ last ∈ before.getLast?, isLineFeed last = true)
    (hline : ∀ byte ∈ line, isLineFeed byte = false)
    (hlong : serialLineContentLimit < line.length) (hbyte : isLineFeed byte = true)
    (after : List PortByte) :
    streamLines (before ++ line ++ byte :: after) = streamLines (before ++ after) ∧
      unfinishedLine (before ++ line ++ byte :: after) = unfinishedLine (before ++ after) := by
  have hdropped : streamLines (line ++ byte :: after) = streamLines after := by
    rw [streamLines_line hbyte hline, if_neg (Nat.not_le_of_lt hlong), List.nil_append]
  rw [unfinishedLine_append_lineFeed hbyte]
  rcases List.eq_nil_or_concat before with rfl | ⟨before, last, rfl⟩
  · exact ⟨hdropped, rfl⟩
  · have hlast : isLineFeed last = true := hbefore last (by simp)
    rw [List.append_assoc, List.concat_append, List.concat_append,
      streamLines_append_lineFeed hlast, streamLines_append_lineFeed hlast,
      unfinishedLine_append_lineFeed hlast, hdropped]
    exact ⟨rfl, rfl⟩

/-! ## The exchange sees the lines of the stream -/

section

variable (context : SerialExchangeContext) (fuel deadline : ℕ)

/-- What the lines led to, with the buffer after them. -/
def chunkResult (buffer : LineBuffer) : SerialLineAction → SerialChunkResult
  | .proceed retry => .proceed retry buffer
  | .response payload => .response payload

theorem processSerialReadChunk_append (retry : Bool) (buffer : LineBuffer)
    (bytes others : List PortByte) :
    processSerialReadChunk context fuel deadline retry buffer (bytes ++ others) = (do
      match ← processSerialReadChunk context fuel deadline retry buffer bytes with
      | .proceed retry buffer =>
        processSerialReadChunk context fuel deadline retry buffer others
      | .response payload => pure (.response payload)) := by
  induction bytes generalizing retry buffer with
  | nil => simp [processSerialReadChunk]
  | cons byte bytes ih =>
    rw [List.cons_append, processSerialReadChunk, processSerialReadChunk]
    obtain ⟨buffer', line⟩ := serialLineFinished buffer byte
    cases line with
    | none => exact ih retry buffer'
    | some line =>
      show (_ >>= _) = (_ >>= _) >>= _
      rw [bind_assoc]
      congr 1
      funext action
      cases action with
      | proceed retry => exact ih retry buffer'
      | response payload => simp

theorem readChunks_eq_flatten (retry : Bool) (buffer : LineBuffer) (chunks : List (List PortByte)) :
    readChunks context fuel deadline retry buffer chunks =
      processSerialReadChunk context fuel deadline retry buffer chunks.flatten := by
  induction chunks generalizing retry buffer with
  | nil => rfl
  | cons chunk chunks ih =>
    rw [readChunks, List.flatten_cons, processSerialReadChunk_append]
    congr 1
    funext result
    cases result with
    | proceed retry buffer => exact ih retry buffer
    | response payload => rfl

theorem processSerialReadChunk_partialLine (retry : Bool) {line : List PortByte}
    (hline : ∀ byte ∈ line, isLineFeed byte = false) (bytes : List PortByte) :
    processSerialReadChunk context fuel deadline retry (partialLine line) bytes =
      chunkResult (unfinishedLine (line ++ bytes)) <$>
        processLines context fuel deadline retry (streamLines (line ++ bytes)) := by
  induction bytes generalizing retry line with
  | nil =>
    rw [List.append_nil, streamLines_of_unfinished hline, unfinishedLine_of_unfinished hline,
      processLines, map_pure]
    rfl
  | cons byte bytes ih =>
    rw [processSerialReadChunk]
    cases hbyte : isLineFeed byte with
    | false =>
      -- the byte lengthens the line
      have hlonger : ∀ other ∈ line ++ [byte], isLineFeed other = false := by
        intro other hother
        rcases List.mem_append.mp hother with hother | hother
        · exact hline other hother
        · rw [List.mem_singleton.mp hother]
          exact hbyte
      rw [serialLineFinished_of_other hbyte]
      have hrest := ih retry hlonger
      rw [List.append_assoc, List.singleton_append] at hrest
      exact hrest
    | true =>
      have hnone : ∀ other ∈ ([] : List PortByte), isLineFeed other = false := by simp
      have hrest (retry : Bool) := ih retry hnone
      rw [serialLineFinished_of_lineFeed hbyte, unfinishedLine_append_lineFeed hbyte,
        streamLines_line hbyte hline]
      by_cases hlength : line.length ≤ serialLineContentLimit
      · rw [if_pos hlength, if_pos hlength, List.singleton_append, processLines, map_bind]
        show (_ >>= _) = _
        congr 1
        funext action
        cases action with
        | proceed retry => exact hrest retry
        | response payload => simp [chunkResult]
      · -- an overlong line is dropped
        rw [if_neg hlength, if_neg hlength, List.nil_append]
        exact hrest retry

/-- However the stream is cut, the exchange does what it does for the lines of the stream. -/
theorem readChunks_eq (retry : Bool) (chunks : List (List PortByte)) :
    readChunks context fuel deadline retry {} chunks =
      chunkResult (unfinishedLine chunks.flatten) <$>
        processLines context fuel deadline retry (streamLines chunks.flatten) := by
  rw [readChunks_eq_flatten, ← partialLine_nil]
  exact processSerialReadChunk_partialLine context fuel deadline retry (by simp) chunks.flatten

end

end FluxPurr.Devd
