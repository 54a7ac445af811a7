import FluxPurr.Devd.LineFraming

/-!
# Which frame of a line is the answer

`decodeUsbResponseLine` looks for a frame at every position of a line, also inside a frame that it
has read.  It returns the result of a frame behind junk exactly if the frame is addressed to the
request, unless the frame is not and one inside it is (`responseFraming_iff`).
-/

namespace FluxPurr.Devd

/-! ## Frames in a line -/

/-- The frame is a response to the request, or an error. -/
def UsbResponseWire.AddressedTo (frame : UsbResponseWire) (requestId : String) : Prop :=
  (frame.frameType = "response" ∨ frame.frameType = "error") ∧ frame.requestId = some requestId

instance (frame : UsbResponseWire) (requestId : String) :
    Decidable (frame.AddressedTo requestId) :=
  inferInstanceAs (Decidable (_ ∧ _))

theorem decodeUsbResponseFrame_eq_none_iff {frame : UsbResponseWire} {requestId : String} :
    decodeUsbResponseFrame frame requestId = .ok none ↔ ¬frame.AddressedTo requestId := by
  rw [decodeUsbResponseFrame, UsbResponseWire.AddressedTo]
  by_cases hid : frame.requestId = some requestId
  · by_cases herror : frame.frameType = "error"
    · simp [hid, herror]
    · by_cases hresponse : frame.frameType = "response"
      · cases hok : frame.ok with
        | none => simp [hid, hresponse]
        | some ok => cases ok <;> simp [hid, hresponse]
      · simp [hid, herror, hresponse]
  · simp [hid]

section

variable (firstFrame : List UInt8 → Option UsbResponseWire) (requestId : String) (text : List UInt8)

/-- The frame at the front of a text. -/
def frameAt : Option UsbResponseWire :=
  if framePrefix.isPrefixOf text = true then firstFrame text else none

/-- A frame at the front of the text is addressed to the request. -/
def AnsweredAt : Prop := ∃ frame, frameAt firstFrame text = some frame ∧ frame.AddressedTo requestId

/-- A frame at some position of the text is addressed to the request. -/
def Answered : Prop := ∃ rest, rest <:+ text ∧ AnsweredAt firstFrame requestId rest

/-- No frame that begins before the text is addressed to the request. -/
def IsJunk (junk text : List UInt8) : Prop :=
  ∀ back, back <:+ junk → back ≠ [] → ¬AnsweredAt firstFrame requestId (back ++ text)

variable {firstFrame requestId}

theorem frameAt_nil : frameAt firstFrame [] = none := by
  have hstart : ¬framePrefix.isPrefixOf [] = true := by decide +kernel
  rw [frameAt, if_neg hstart]

theorem isJunk_nil : IsJunk firstFrame requestId [] text := by
  intro back hback hne
  exact absurd (List.suffix_nil.mp hback) hne

theorem decodeUsbResponseLine_of_frame {text : List UInt8} {frame : UsbResponseWire}
    (hframe : frameAt firstFrame text = some frame) (haddressed : frame.AddressedTo requestId) :
    decodeUsbResponseLine firstFrame requestId text = decodeUsbResponseFrame frame requestId := by
  have hdecoded : decodeUsbResponseFrame frame requestId ≠ .ok none := fun h =>
    decodeUsbResponseFrame_eq_none_iff.mp h haddressed
  obtain ⟨hstart, hfirst⟩ : framePrefix.isPrefixOf text = true ∧ firstFrame text = some frame := by
    rw [frameAt] at hframe
    split at hframe
    · next hstart => exact ⟨hstart, hframe⟩
    · cases hframe
  cases text with
  | nil => exact absurd hstart (by decide +kernel)
  | cons byte rest =>
    simp only [decodeUsbResponseLine, if_pos hstart, hfirst]
    cases hresult : decodeUsbResponseFrame frame requestId with
    | error error => rfl
    | ok payload =>
      cases payload with
      | none => exact absurd hresult hdecoded
      | some payload => rfl

/-- Without an answer at its front, the line is what follows the front. -/
theorem decodeUsbResponseLine_cons {byte : UInt8} {rest : List UInt8}
    (h : ¬AnsweredAt firstFrame requestId (byte :: rest)) :
    decodeUsbResponseLine firstFrame requestId (byte :: rest) =
      decodeUsbResponseLine firstFrame requestId rest := by
  rw [decodeUsbResponseLine]
  split
  · next hstart =>
      cases hfirst : firstFrame (byte :: rest) with
      | none => rfl
      | some frame =>
        have hframe : frameAt firstFrame (byte :: rest) = some frame := by
          rw [frameAt, if_pos hstart, hfirst]
        have hother : ¬frame.AddressedTo requestId := fun haddressed =>
          h ⟨frame, hframe, haddressed⟩
        simp only [decodeUsbResponseFrame_eq_none_iff.mpr hother]
  · rfl

theorem decodeUsbResponseLine_junk {junk text : List UInt8}
    (h : IsJunk firstFrame requestId junk text) :
    decodeUsbResponseLine firstFrame requestId (junk ++ text) =
      decodeUsbResponseLine firstFrame requestId text := by
  induction junk with
  | nil => rfl
  | cons byte junk ih =>
    have hfront : ¬AnsweredAt firstFrame requestId (byte :: (junk ++ text)) :=
      h (byte :: junk) List.suffix_rfl (List.cons_ne_nil byte junk)
    rw [List.cons_append, decodeUsbResponseLine_cons hfront]
    exact ih fun back hback => h back (hback.trans (List.suffix_cons byte junk))

theorem decodeUsbResponseLine_eq_none_iff {text : List UInt8} :
    decodeUsbResponseLine firstFrame requestId text = .ok none ↔
      ¬Answered firstFrame requestId text := by
  induction text with
  | nil =>
    refine iff_of_true rfl ?_
    rintro ⟨rest, hrest, frame, hframe, -⟩
    rw [List.suffix_nil.mp hrest, frameAt_nil] at hframe
    cases hframe
  | cons byte rest ih =>
    by_cases hfront : AnsweredAt firstFrame requestId (byte :: rest)
    · refine iff_of_false ?_ (not_not_intro ⟨byte :: rest, List.suffix_rfl, hfront⟩)
      obtain ⟨frame, hframe, haddressed⟩ := hfront
      rw [decodeUsbResponseLine_of_frame hframe haddressed, decodeUsbResponseFrame_eq_none_iff]
      exact not_not_intro haddressed
    · rw [decodeUsbResponseLine_cons hfront, ih]
      refine not_congr ⟨?_, ?_⟩
      · rintro ⟨back, hback, hanswered⟩
        exact ⟨back, hback.trans (List.suffix_cons byte rest), hanswered⟩
      · rintro ⟨back, hback, hanswered⟩
        rcases List.suffix_cons_iff.mp hback with rfl | hback
        · exact absurd hanswered hfront
        · exact ⟨back, hback, hanswered⟩

/-- What a line with one frame is decoded to is the frame's result, if it is addressed to the
request, and otherwise whatever is inside or behind it. -/
theorem decodeUsbResponseLine_eq_iff {junk text : List UInt8} {frame : UsbResponseWire}
    (hjunk : IsJunk firstFrame requestId junk text)
    (hframe : frameAt firstFrame text = some frame) :
    decodeUsbResponseLine firstFrame requestId (junk ++ text) =
        (if frame.AddressedTo requestId then decodeUsbResponseFrame frame requestId else .ok none) ↔
      (frame.AddressedTo requestId ∨ ¬Answered firstFrame requestId text.tail) := by
  rw [decodeUsbResponseLine_junk hjunk]
  by_cases haddressed : frame.AddressedTo requestId
  · rw [if_pos haddressed, decodeUsbResponseLine_of_frame hframe haddressed]
    exact iff_of_true rfl (.inl haddressed)
  · have hfront : ¬AnsweredAt firstFrame requestId text := by
      rintro ⟨other, hother, hanswered⟩
      rw [hframe] at hother
      exact haddressed (Option.some.inj hother ▸ hanswered)
    rw [if_neg haddressed, or_iff_right haddressed, ← decodeUsbResponseLine_eq_none_iff]
    cases text with
    | nil => rfl
    | cons byte rest => rw [decodeUsbResponseLine_cons hfront, List.tail_cons]

end

/-! ## Framing as a whole -/

/-- What the exchange does with reads, with lines that are too long, and with a line of one
frame. -/
structure ResponseFraming (context : SerialExchangeContext) (fuel deadline : ℕ)
    (junk text : List UInt8) (frame : UsbResponseWire) : Prop where
  /-- The same effects, and the same outcome, as the lines of the stream one at a time. -/
  chunks (retry : Bool) (chunks : List (List PortByte)) :
    readChunks context fuel deadline retry {} chunks =
      chunkResult (unfinishedLine chunks.flatten) <$>
        processLines context fuel deadline retry (streamLines chunks.flatten)
  /-- The same as if the line that is too long had not been sent. -/
  overlong (retry : Bool) (chunks others : List (List PortByte)) (before line : List PortByte)
      (byte : PortByte) (after : List PortByte) :
    (∀ last ∈ before.getLast?, isLineFeed last = true) →
    (∀ byte ∈ line, isLineFeed byte = false) → serialLineContentLimit < line.length →
    isLineFeed byte = true → chunks.flatten = before ++ line ++ byte :: after →
    others.flatten = before ++ after →
    readChunks context fuel deadline retry {} chunks =
      readChunks context fuel deadline retry {} others
  decoded :
    decodeUsbResponseLine context.firstFrame context.requestId (junk ++ text) =
      if frame.AddressedTo context.requestId then decodeUsbResponseFrame frame context.requestId
      else .ok none

theorem readChunks_overlong (context : SerialExchangeContext) (fuel deadline : ℕ) (retry : Bool)
    {chunks others : List (List PortByte)} {before line : List PortByte} {byte : PortByte}
    {after : List PortByte} (hbefore : ∀ last ∈ before.getLast?, isLineFeed last = true)
    (hline : ∀ byte ∈ line, isLineFeed byte = false)
    (hlong : serialLineContentLimit < line.length) (hbyte : isLineFeed byte = true)
    (hchunks : chunks.flatten = before ++ line ++ byte :: after)
    (hothers : others.flatten = before ++ after) :
    readChunks context fuel deadline retry {} chunks =
      readChunks context fuel deadline retry {} others := by
  obtain ⟨hlines, hunfinished⟩ := lines_overlong hbefore hline hlong hbyte after
  rw [readChunks_eq, readChunks_eq, hchunks, hothers, hlines, hunfinished]

theorem responseFraming_iff (context : SerialExchangeContext) (fuel deadline : ℕ)
    (junk text : List UInt8) (frame : UsbResponseWire)
    (hjunk : IsJunk context.firstFrame context.requestId junk text)
    (hframe : frameAt context.firstFrame text = some frame) :
    ResponseFraming context fuel deadline junk text frame ↔
      (frame.AddressedTo context.requestId ∨
        ¬Answered context.firstFrame context.requestId text.tail) := by
  rw [← decodeUsbResponseLine_eq_iff hjunk hframe]
  constructor
  · exact ResponseFraming.decoded
  · intro hdecoded
    exact
      { chunks := readChunks_eq context fuel deadline
        overlong := fun retry _ _ _ _ _ _ hbefore hline hlong hbyte hchunks hothers =>
          readChunks_overlong context fuel deadline retry hbefore hline hlong hbyte hchunks hothers
        decoded := hdecoded }

/-! ## A frame inside a frame -/

def innerFrameText : List UInt8 :=
  "\x7b\"type\":\"response\",\"requestId\":\"req-1\",\"ok\":true,\"result\":1\x7d\x7d".toUTF8.toList

def outerFrameText : List UInt8 :=
  "\x7b\"type\":\"response\",\"requestId\":\"other\",\"ok\":true,\"result\":".toUTF8.toList ++
    innerFrameText

def innerFrame : UsbResponseWire := ⟨"response", some "req-1", some true, some (.number "1"), none⟩

def outerFrame : UsbResponseWire :=
  ⟨"response", some "other", some true, some (.object
    [("type", .string "response"), ("requestId", .string "req-1"), ("ok", .bool true),
      ("result", .number "1")]), none⟩

/-- What the JSON library reads from the front of these two texts. -/
def nestedContext : SerialExchangeContext where
  requestId := "req-1"
  request := []
  retryPolicy := .readOnly
  firstFrame text :=
    if text = outerFrameText then some outerFrame
    else if text = innerFrameText then some innerFrame
    else none

theorem frameAt_innerFrameText :
    frameAt nestedContext.firstFrame innerFrameText = some innerFrame := by
  have hstart : framePrefix.isPrefixOf innerFrameText = true := by decide +kernel
  have hother : innerFrameText ≠ outerFrameText := by decide +kernel
  rw [frameAt, if_pos hstart]
  show (if innerFrameText = outerFrameText then _ else _) = _
  rw [if_neg hother, if_pos rfl]

theorem frameAt_outerFrameText :
    frameAt nestedContext.firstFrame outerFrameText = some outerFrame := by
  have hstart : framePrefix.isPrefixOf outerFrameText = true := by decide +kernel
  rw [frameAt, if_pos hstart]
  show (if outerFrameText = outerFrameText then _ else _) = _
  rw [if_pos rfl]

theorem responseFraming_iff_outer : ResponseFraming nestedContext 0 0 [] outerFrameText outerFrame ↔
      (outerFrame.AddressedTo "req-1" ∨
        ¬Answered nestedContext.firstFrame "req-1" outerFrameText.tail) :=
  responseFraming_iff nestedContext 0 0 [] outerFrameText outerFrame
    (isJunk_nil outerFrameText) frameAt_outerFrameText

/-- The result of a request is read out of the response to another one. -/
theorem answer_inside_another_frame :
    ¬∀ (context : SerialExchangeContext) (fuel deadline : ℕ) (junk text : List UInt8)
        (frame : UsbResponseWire), IsJunk context.firstFrame context.requestId junk text →
      frameAt context.firstFrame text = some frame →
      ResponseFraming context fuel deadline junk text frame := by
  intro h
  have hdecoded := (h nestedContext 0 0 [] outerFrameText outerFrame
    (isJunk_nil outerFrameText) frameAt_outerFrameText).decoded
  have hother : ¬outerFrame.AddressedTo nestedContext.requestId := by decide
  rw [if_neg hother, List.nil_append, decodeUsbResponseLine_eq_none_iff] at hdecoded
  exact hdecoded ⟨innerFrameText, List.suffix_append _ _, innerFrame, frameAt_innerFrameText,
    by decide⟩

end FluxPurr.Devd
