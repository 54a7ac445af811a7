import FluxPurr.WebSerial.TextDecoder
import Mathlib.Algebra.GroupWithZero.Nat
import Mathlib.Data.List.Induction

/-!
# Lines of the serial text

The client collects the characters of a line and counts UTF-16 code units, the length of a
string of the language, against a limit that is meant in bytes (`webSerialContentLimit`).  A
line is dropped when a character comes after the limit is reached (`Fits`), so every line within
the limit in bytes is decoded, and a longer one is too if its characters are wide
(`lines_eq_iff`).
-/

namespace FluxPurr.WebSerial

abbrev webSerialLineLimit : ℕ := 8 * 1024
abbrev webSerialContentLimit : ℕ := webSerialLineLimit - 1

variable (text : List Char)

/-- `String.prototype.length` -/
def utf16Length : ℕ := (text.map fun c => if c.toNat < 0x10000 then 1 else 2).sum

def byteLength : ℕ := (utf8 text).length

variable (c : Char)

/-- White space and line ends of the language. -/
def isTrimmed : Bool :=
  (9 ≤ c.toNat ∧ c.toNat ≤ 13) ∨ c.toNat = 0x20 ∨ c.toNat = 0xA0 ∨ c.toNat = 0x1680 ∨
    (0x2000 ≤ c.toNat ∧ c.toNat ≤ 0x200A) ∨ c.toNat = 0x2028 ∨ c.toNat = 0x2029 ∨
    c.toNat = 0x202F ∨ c.toNat = 0x205F ∨ c.toNat = 0x3000 ∨ c.toNat = 0xFEFF

/-- `String.prototype.trim` -/
def trim : List Char := ((text.dropWhile isTrimmed).reverse.dropWhile isTrimmed).reverse

/-! ## The line buffer -/

structure LineBuffer where
  lineBuffer : List Char := []
  lineOverflowed : Bool := false
deriving DecidableEq, Repr

open LineBuffer

variable (buffer : LineBuffer)

/-- One character of `consumeSerialText`, with the line that it completes. -/
def LineBuffer.consume : List (List Char) × LineBuffer :=
  if c = '\n' then (if buffer.lineOverflowed then [] else [trim buffer.lineBuffer], {})
  else if buffer.lineOverflowed then ([], buffer)
  else if webSerialContentLimit ≤ utf16Length buffer.lineBuffer then
    ([], { lineBuffer := [], lineOverflowed := true })
  else ([], { buffer with lineBuffer := buffer.lineBuffer ++ [c] })

/-- The lines that are decoded, in order.  Decoding a line does not read the buffer. -/
def LineBuffer.consumeSerialText (buffer : LineBuffer) : List Char → List (List Char) × LineBuffer
  | [] => ([], buffer)
  | c :: text =>
      let consumed := buffer.consume c
      let rest := consumeSerialText consumed.2 text
      (consumed.1 ++ rest.1, rest.2)

theorem consumeSerialText_append (text more : List Char) :
    buffer.consumeSerialText (text ++ more) =
      ((buffer.consumeSerialText text).1 ++ ((buffer.consumeSerialText text).2.consumeSerialText
          more).1,
        ((buffer.consumeSerialText text).2.consumeSerialText more).2) := by
  induction text generalizing buffer with
  | nil => rfl
  | cons c text ih =>
    rw [List.cons_append, consumeSerialText, consumeSerialText]
    dsimp only
    rw [ih, List.append_assoc]

/-! ## The lines of a text -/

/-- The lines of a text that are ended by a line feed, and the beginning of the next one. -/
structure TextLines where
  terminated : List (List Char) := []
  current : List Char := []
deriving DecidableEq

def TextLines.push (lines : TextLines) (c : Char) : TextLines :=
  if c = '\n' then { terminated := lines.terminated ++ [lines.current], current := [] }
  else { lines with current := lines.current ++ [c] }

def textLines : TextLines := text.foldl TextLines.push {}

theorem textLines_append_singleton : textLines (text ++ [c]) = (textLines text).push c := by
  simp [textLines]

/-- The limit is not reached before the last character. -/
def Fits (line : List Char) : Prop := utf16Length line.dropLast < webSerialContentLimit

instance (line : List Char) : Decidable (Fits line) :=
  inferInstanceAs (Decidable (_ < _))

/-- What the buffer holds of the line that has begun. -/
structure Buffers (current : List Char) (buffer : LineBuffer) : Prop where
  overflowed : buffer.lineOverflowed = true ↔ ¬Fits current
  lineBuffer : Fits current → buffer.lineBuffer = current

theorem fits_append_singleton (line : List Char) (c : Char) :
    Fits (line ++ [c]) ↔ utf16Length line < webSerialContentLimit := by
  unfold Fits
  rw [List.dropLast_concat]

theorem utf16Length_dropLast_le (line : List Char) :
    utf16Length line.dropLast ≤ utf16Length line := by
  rcases List.eq_nil_or_concat' line with rfl | ⟨init, c, rfl⟩
  · exact Nat.le_refl _
  · rw [List.dropLast_concat]
    unfold utf16Length
    rw [List.map_append, List.sum_append]
    exact Nat.le_add_right _ _

theorem buffers_nil : Buffers [] {} where
  overflowed := by
    unfold Fits utf16Length
    decide
  lineBuffer _ := rfl

theorem Buffers.push {current : List Char} {buffer : LineBuffer} (h : Buffers current buffer)
    {c : Char} (hc : c ≠ '\n') :
    (buffer.consume c).1 = [] ∧ Buffers (current ++ [c]) (buffer.consume c).2 := by
  unfold consume
  rw [if_neg hc]
  by_cases hover : buffer.lineOverflowed = true
  · rw [if_pos hover]
    have hlong : ¬Fits (current ++ [c]) := by
      have hnot := h.overflowed.mp hover
      have hle := utf16Length_dropLast_le current
      rw [fits_append_singleton]
      unfold Fits at hnot
      omega
    exact ⟨rfl, ⟨iff_of_true hover hlong, fun hfits => absurd hfits hlong⟩⟩
  · rw [if_neg hover]
    have hfits : Fits current := by
      by_contra hnot
      exact hover (h.overflowed.mpr hnot)
    rw [h.lineBuffer hfits]
    by_cases hlimit : webSerialContentLimit ≤ utf16Length current
    · rw [if_pos hlimit]
      have hlong : ¬Fits (current ++ [c]) := by
        rw [fits_append_singleton]
        omega
      exact ⟨rfl, ⟨iff_of_true rfl hlong, fun hfits => absurd hfits hlong⟩⟩
    · rw [if_neg hlimit]
      have hshort : Fits (current ++ [c]) := by
        rw [fits_append_singleton]
        omega
      exact ⟨rfl, ⟨iff_of_false hover (not_not.mpr hshort), fun _ => rfl⟩⟩

theorem consume_lineFeed : buffer.consume '\n' =
      (if buffer.lineOverflowed then [] else [trim buffer.lineBuffer], {}) := by
  unfold consume
  rw [if_pos rfl]

theorem consumeSerialText_singleton : buffer.consumeSerialText [c] = buffer.consume c := by
  rw [consumeSerialText, consumeSerialText, List.append_nil]

theorem consumeSerialText_spec : (consumeSerialText {} text).1 =
        ((textLines text).terminated.filter fun line => Fits line).map trim ∧
      Buffers (textLines text).current (consumeSerialText {} text).2 := by
  induction text using List.reverseRecOn with
  | nil => exact ⟨rfl, buffers_nil⟩
  | append_singleton text c ih =>
    obtain ⟨hlines, hbuffers⟩ := ih
    rw [textLines_append_singleton, consumeSerialText_append, consumeSerialText_singleton]
    unfold TextLines.push
    by_cases hc : c = '\n'
    · subst hc
      rw [if_pos rfl, consume_lineFeed, List.filter_append, List.map_append, hlines]
      refine ⟨?_, buffers_nil⟩
      by_cases hfits : Fits (textLines text).current
      · have hkept : ¬(consumeSerialText {} text).2.lineOverflowed = true :=
          fun hover => hbuffers.overflowed.mp hover hfits
        rw [if_neg hkept, hbuffers.lineBuffer hfits, List.filter_singleton]
        simp [hfits]
      · have hdropped := hbuffers.overflowed.mpr hfits
        rw [if_pos hdropped, List.filter_singleton]
        simp [hfits]
    · rw [if_neg hc]
      obtain ⟨hnone, hnext⟩ := hbuffers.push hc
      rw [hnone, List.append_nil]
      exact ⟨hlines, hnext⟩

/-! ## Code units and bytes -/

theorem utf16Length_cons (text : List Char) :
    utf16Length (c :: text) = (if c.toNat < 0x10000 then 1 else 2) + utf16Length text := rfl

theorem byteLength_cons (text : List Char) :
    byteLength (c :: text) = c.utf8Size + byteLength text := by
  unfold byteLength utf8
  rw [List.flatMap_cons, List.length_append, String.length_utf8EncodeChar]

theorem codeUnits_le_utf8Size : (if c.toNat < 0x10000 then 1 else 2) ≤ c.utf8Size := by
  have hpos := c.utf8Size_pos
  split
  · exact hpos
  · rename_i hwide
    have hvalue : c.val.toNat = c.toNat := rfl
    unfold Char.utf8Size
    simp only [UInt32.le_iff_toNat_le, hvalue]
    split_ifs
    all_goals simp_all
    all_goals omega

theorem utf16Length_le_byteLength : utf16Length text ≤ byteLength text := by
  induction text with
  | nil => exact Nat.le_refl _
  | cons c text ih =>
    rw [utf16Length_cons, byteLength_cons]
    exact Nat.add_le_add (codeUnits_le_utf8Size c) ih

theorem byteLength_append_singleton : byteLength (text ++ [c]) = byteLength text + c.utf8Size := by
  unfold byteLength utf8
  rw [List.flatMap_append, List.length_append, List.flatMap_singleton, String.length_utf8EncodeChar]

theorem fits_of_byteLength_le {line : List Char} (h : byteLength line ≤ webSerialContentLimit) :
    Fits line := by
  rcases List.eq_nil_or_concat' line with rfl | ⟨init, c, rfl⟩
  · unfold Fits utf16Length
    decide
  · rw [fits_append_singleton]
    rw [byteLength_append_singleton] at h
    have hunits := utf16Length_le_byteLength init
    have hpos := c.utf8Size_pos
    omega

/-- What should be decoded of a text: its lines within the limit in bytes, trimmed. -/
def expectedLines : List (List Char) :=
  ((textLines text).terminated.filter fun line => byteLength line ≤ webSerialContentLimit).map trim

/-- The text is read as it should be if and only if none of its lines is longer than the limit
in bytes and not in code units. -/
theorem lines_eq_iff : (consumeSerialText {} text).1 = expectedLines text ↔
      ∀ line ∈ (textLines text).terminated, Fits line → byteLength line ≤ webSerialContentLimit := by
  rw [(consumeSerialText_spec text).1]
  unfold expectedLines
  constructor
  · intro hsame line hline hfits
    have hlength := congrArg List.length hsame
    rw [List.length_map, List.length_map] at hlength
    -- the lines within the limit are some of those that fit, so they are all of them
    have hsome : ((textLines text).terminated.filter fun line =>
          byteLength line ≤ webSerialContentLimit) =
        ((textLines text).terminated.filter fun line => Fits line).filter fun line =>
          byteLength line ≤ webSerialContentLimit := by
      rw [List.filter_filter]
      apply List.filter_congr
      intro other _
      rw [← Bool.decide_and, decide_eq_decide]
      exact ⟨fun hbytes => ⟨hbytes, fits_of_byteLength_le hbytes⟩, And.left⟩
    rw [hsome] at hlength
    have hall := List.length_filter_eq_length_iff.mp hlength.symm line
      (List.mem_filter.mpr ⟨hline, decide_eq_true hfits⟩)
    exact of_decide_eq_true hall
  · intro hlines
    congr 1
    apply List.filter_congr
    intro line hline
    rw [decide_eq_decide]
    exact ⟨hlines line hline, fits_of_byteLength_le⟩

/-! ## A line of wide characters -/

theorem textLines_replicate {c : Char} (hc : c ≠ '\n') (n : ℕ) :
    textLines (List.replicate n c) = { current := List.replicate n c } := by
  induction n with
  | zero => rfl
  | succ n ih =>
    rw [List.replicate_succ', textLines_append_singleton, ih, TextLines.push, if_neg hc]

/-- A line of characters of two bytes is decoded up to twice the limit. -/
theorem wideLine_decoded {n : ℕ} (hlow : webSerialContentLimit < 2 * n)
    (hhigh : n ≤ webSerialContentLimit) :
    (consumeSerialText {} (List.replicate n 'é' ++ ['\n'])).1 ≠
      expectedLines (List.replicate n 'é' ++ ['\n']) := by
  intro hsame
  have hbound := (lines_eq_iff _).mp hsame (List.replicate n 'é')
  have hline : List.replicate n 'é' ∈
      (textLines (List.replicate n 'é' ++ ['\n'])).terminated := by
    rw [textLines_append_singleton, textLines_replicate (by decide), TextLines.push, if_pos rfl]
    exact List.mem_singleton.mpr rfl
  have hfits : Fits (List.replicate n 'é') := by
    have hunits : utf16Length (List.replicate (n - 1) 'é') = n - 1 := by
      rw [utf16Length, List.map_replicate, List.sum_replicate_nat, if_pos (by decide)]
      exact Nat.mul_one _
    rw [Fits, List.dropLast_replicate, hunits]
    omega
  have hbytes : byteLength (List.replicate n 'é') = n * 2 := by
    rw [byteLength, utf8, List.length_flatMap, List.map_replicate, List.sum_replicate_nat]
    rfl
  have hlimit := hbound hline hfits
  omega

end FluxPurr.WebSerial
