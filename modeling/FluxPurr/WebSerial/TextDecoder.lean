import Mathlib.Data.Char
import Mathlib.Data.List.Basic

/-!
# Decoding a stream of UTF-8

`TextDecoder` is the decoder of the browser as the serial client uses it: one instance, always
called with `stream: true`, so what is left of a character at the end of a chunk waits for the
next one.  Bytes that are not UTF-8 become U+FFFD, and the first character of all is dropped if
it is a byte order mark.

Text that was encoded comes out as it was, however it is cut (`run_utf8`, `run_append`), and an
incomplete character at the end gives nothing yet (`run_incomplete`).
-/

namespace FluxPurr.WebSerial

def replacementCharacter : Char := Char.ofNat 0xFFFD
def byteOrderMark : Char := Char.ofNat 0xFEFF

/-- The bytes of a text. -/
def utf8 (text : List Char) : List UInt8 := text.flatMap String.utf8EncodeChar

/-- What is known of the character that is being read. -/
structure Utf8Decoder where
  codePoint : ℕ := 0
  bytesNeeded : ℕ := 0
  lowerBoundary : ℕ := 0x80
  upperBoundary : ℕ := 0xBF
deriving DecidableEq, Repr

namespace Utf8Decoder

/-- The first byte of a character. -/
def start (byte : ℕ) : List Char × Utf8Decoder :=
  if byte ≤ 0x7F then ([Char.ofNat byte], {})
  else if 0xC2 ≤ byte ∧ byte ≤ 0xDF then
    ([], { codePoint := byte % 0x20, bytesNeeded := 1 })
  else if 0xE0 ≤ byte ∧ byte ≤ 0xEF then
    ([], { codePoint := byte % 0x10
           bytesNeeded := 2
           lowerBoundary := if byte = 0xE0 then 0xA0 else 0x80
           upperBoundary := if byte = 0xED then 0x9F else 0xBF })
  else if 0xF0 ≤ byte ∧ byte ≤ 0xF4 then
    ([], { codePoint := byte % 8
           bytesNeeded := 3
           lowerBoundary := if byte = 0xF0 then 0x90 else 0x80
           upperBoundary := if byte = 0xF4 then 0x8F else 0xBF })
  else ([replacementCharacter], {})

/-- A byte that does not continue the character starts the next one. -/
def push (decoder : Utf8Decoder) (byte : ℕ) : List Char × Utf8Decoder :=
  if decoder.bytesNeeded = 0 then start byte
  else if byte < decoder.lowerBoundary ∨ decoder.upperBoundary < byte then
    (replacementCharacter :: (start byte).1, (start byte).2)
  else
    let codePoint := decoder.codePoint * 64 + byte % 64
    if decoder.bytesNeeded = 1 then ([Char.ofNat codePoint], {})
    else ([], { codePoint := codePoint, bytesNeeded := decoder.bytesNeeded - 1 })

def run (decoder : Utf8Decoder) : List UInt8 → List Char × Utf8Decoder
  | [] => ([], decoder)
  | byte :: bytes =>
      let pushed := decoder.push byte.toNat
      let rest := run pushed.2 bytes
      (pushed.1 ++ rest.1, rest.2)

/-! ## Cutting the stream -/

theorem run_append (decoder : Utf8Decoder) (bytes more : List UInt8) :
    decoder.run (bytes ++ more) =
      ((decoder.run bytes).1 ++ ((decoder.run bytes).2.run more).1,
        ((decoder.run bytes).2.run more).2) := by
  induction bytes generalizing decoder with
  | nil => rfl
  | cons byte bytes ih =>
    rw [List.cons_append, run, run]
    dsimp only
    rw [ih, List.append_assoc]

/-! ## Encoded text -/

theorem run_cons_of_silent {decoder next : Utf8Decoder} {byte : UInt8} (bytes : List UInt8)
    (h : decoder.push byte.toNat = ([], next)) : decoder.run (byte :: bytes) = next.run bytes := by
  rw [run, h]
  rfl

theorem run_singleton {decoder next : Utf8Decoder} {byte : UInt8} {text : List Char}
    (h : decoder.push byte.toNat = (text, next)) : decoder.run [byte] = (text, next) := by
  rw [run, h, run, List.append_nil]

variable {decoder : Utf8Decoder}

variable {byte : ℕ}

theorem push_last (hneeded : decoder.bytesNeeded = 1)
    (hlow : decoder.lowerBoundary ≤ byte) (hhigh : byte ≤ decoder.upperBoundary) :
    decoder.push byte = ([Char.ofNat (decoder.codePoint * 64 + byte % 64)], {}) := by
  unfold push
  rw [if_neg (by omega), if_neg (by omega)]
  dsimp only
  rw [if_pos hneeded]

theorem push_more {byte needed : ℕ}
    (hneeded : decoder.bytesNeeded = needed + 2) (hlow : decoder.lowerBoundary ≤ byte)
    (hhigh : byte ≤ decoder.upperBoundary) :
    decoder.push byte =
      ([], { codePoint := decoder.codePoint * 64 + byte % 64, bytesNeeded := needed + 1 }) := by
  unfold push
  rw [if_neg (by omega), if_neg (by omega)]
  dsimp only
  rw [if_neg (by omega), hneeded]
  rfl

theorem toNat_ofNat (h : byte < 256) : (UInt8.ofNat byte).toNat = byte := by
  rw [UInt8.toNat_ofNat']
  omega

variable {value : ℕ}

theorem run_oneByte (h : value ≤ 0x7F) :
    run {} [UInt8.ofNat value] = ([Char.ofNat value], {}) := by
  apply run_singleton
  rw [toNat_ofNat (by omega)]
  unfold push start
  rw [if_pos rfl, if_pos h]

theorem run_twoBytes (hlow : 0x7F < value) (hhigh : value ≤ 0x7FF) :
    run {} [UInt8.ofNat (value / 64 % 0x20 + 0xC0), UInt8.ofNat (value % 0x40 + 0x80)] =
      ([Char.ofNat value], {}) := by
  have hstart : push {} (value / 64 % 0x20 + 0xC0) =
      ([], { codePoint := value / 64, bytesNeeded := 1 }) := by
    unfold push start
    rw [if_pos rfl, if_neg (by omega), if_pos (by omega)]
    congr 2
    omega
  rw [run_cons_of_silent _ (by rw [toNat_ofNat (by omega)]; exact hstart)]
  apply run_singleton
  rw [toNat_ofNat (by omega), push_last rfl (by dsimp only; omega) (by dsimp only; omega)]
  congr 3
  dsimp only
  omega

/-- The boundaries of the second byte leave out what has a shorter form and the surrogates. -/
theorem run_threeBytes (hlow : 0x7FF < value) (hhigh : value ≤ 0xFFFF)
    (hvalid : value < 0xD800 ∨ 0xDFFF < value) :
    run {} [UInt8.ofNat (value / 4096 % 0x10 + 0xE0), UInt8.ofNat (value / 64 % 0x40 + 0x80),
        UInt8.ofNat (value % 0x40 + 0x80)] =
      ([Char.ofNat value], {}) := by
  have hstart : push {} (value / 4096 % 0x10 + 0xE0) =
      ([], { codePoint := value / 4096
             bytesNeeded := 2
             lowerBoundary := if value / 4096 = 0 then 0xA0 else 0x80
             upperBoundary := if value / 4096 = 0xD then 0x9F else 0xBF }) := by
    unfold push start
    rw [if_pos rfl, if_neg (by omega), if_neg (by omega), if_pos (by omega)]
    congr 2
    · omega
    · congr 1
      exact propext ⟨fun h => by omega, fun h => by omega⟩
    · congr 1
      exact propext ⟨fun h => by omega, fun h => by omega⟩
  rw [run_cons_of_silent _ (by rw [toNat_ofNat (by omega)]; exact hstart)]
  rw [run_cons_of_silent _ (by
    rw [toNat_ofNat (by omega)]
    refine push_more rfl ?_ ?_
    · dsimp only
      split <;> omega
    · dsimp only
      split <;> omega)]
  apply run_singleton
  rw [toNat_ofNat (by omega), push_last rfl (by dsimp only; omega) (by dsimp only; omega)]
  congr 3
  dsimp only
  omega

theorem run_fourBytes (hlow : 0xFFFF < value) (hhigh : value ≤ 0x10FFFF) :
    run {} [UInt8.ofNat (value / 262144 % 8 + 0xF0), UInt8.ofNat (value / 4096 % 0x40 + 0x80),
        UInt8.ofNat (value / 64 % 0x40 + 0x80), UInt8.ofNat (value % 0x40 + 0x80)] =
      ([Char.ofNat value], {}) := by
  have hstart : push {} (value / 262144 % 8 + 0xF0) =
      ([], { codePoint := value / 262144
             bytesNeeded := 3
             lowerBoundary := if value / 262144 = 0 then 0x90 else 0x80
             upperBoundary := if value / 262144 = 4 then 0x8F else 0xBF }) := by
    unfold push start
    rw [if_pos rfl, if_neg (by omega), if_neg (by omega), if_neg (by omega), if_pos (by omega)]
    congr 2
    · omega
    · congr 1
      exact propext ⟨fun h => by omega, fun h => by omega⟩
    · congr 1
      exact propext ⟨fun h => by omega, fun h => by omega⟩
  rw [run_cons_of_silent _ (by rw [toNat_ofNat (by omega)]; exact hstart)]
  rw [run_cons_of_silent _ (by
    rw [toNat_ofNat (by omega)]
    refine push_more rfl ?_ ?_
    · dsimp only
      split <;> omega
    · dsimp only
      split <;> omega)]
  rw [run_cons_of_silent _ (by
    rw [toNat_ofNat (by omega)]
    refine push_more rfl ?_ ?_
    · dsimp only
      omega
    · dsimp only
      omega)]
  apply run_singleton
  rw [toNat_ofNat (by omega), push_last rfl (by dsimp only; omega) (by dsimp only; omega)]
  congr 3
  dsimp only
  omega

theorem run_utf8EncodeChar (c : Char) : run {} (String.utf8EncodeChar c) = ([c], {}) := by
  have hvalid : c.toNat < 0xD800 ∨ 0xDFFF < c.toNat ∧ c.toNat < 0x110000 := c.valid
  have hvalue : c.val.toNat = c.toNat := rfl
  suffices h : run {} (String.utf8EncodeChar c) = ([Char.ofNat c.toNat], {}) by
    rwa [Char.ofNat_toNat] at h
  unfold String.utf8EncodeChar
  dsimp only
  rw [hvalue]
  split
  · rename_i h
    exact run_oneByte h
  · rename_i hone
    split
    · rename_i h
      exact run_twoBytes (by omega) h
    · rename_i htwo
      split
      · rename_i h
        exact run_threeBytes (by omega) h (by omega)
      · rename_i hthree
        have hlow : 0xFFFF < c.toNat := by omega
        have hhigh : c.toNat ≤ 0x10FFFF := by omega
        exact run_fourBytes hlow hhigh

theorem run_utf8 (text : List Char) : run {} (utf8 text) = (text, {}) := by
  induction text with
  | nil => rfl
  | cons c text ih =>
    have hcons : utf8 (c :: text) = String.utf8EncodeChar c ++ utf8 text := rfl
    rw [hcons, run_append, run_utf8EncodeChar]
    dsimp only
    rw [ih]
    rfl

theorem start_ne_nil (h : (start byte).2.bytesNeeded = 0) : (start byte).1 ≠ [] := by
  unfold start at h ⊢
  split_ifs at h ⊢ <;> simp_all

theorem push_ne_nil (h : (decoder.push byte).2.bytesNeeded = 0) : (decoder.push byte).1 ≠ [] := by
  unfold push at h ⊢
  dsimp only at h ⊢
  split_ifs at h ⊢ with hidle hoff hone
  · exact start_ne_nil h
  · exact List.cons_ne_nil _ _
  · exact List.cons_ne_nil _ _
  · dsimp only at h
    omega

/-- A byte that gives nothing leaves the decoder within a character. -/
theorem run_ne_nil {init : List UInt8} {last : UInt8}
    (h : (decoder.run (init ++ [last])).2.bytesNeeded = 0) :
    (decoder.run (init ++ [last])).1 ≠ (decoder.run init).1 := by
  rw [run_append] at h ⊢
  have hpush : ((decoder.run init).2.push last.toNat).2.bytesNeeded = 0 := h
  have hne := push_ne_nil hpush
  rw [run, run, List.append_nil]
  intro hsame
  exact hne (List.append_right_eq_self.mp hsame)

theorem run_prefix (decoder : Utf8Decoder) (bytes more : List UInt8) :
    (decoder.run bytes).1 <+: (decoder.run (bytes ++ more)).1 := by
  rw [run_append]
  exact List.prefix_append _ _

/-- What has come of a character before its last byte gives nothing. -/
theorem run_incomplete {c : Char} {rest tail : List UInt8}
    (h : String.utf8EncodeChar c = rest ++ tail) (htail : tail ≠ []) :
    (run {} rest).1 = [] := by
  obtain ⟨init, last, rfl⟩ := (List.eq_nil_or_concat' tail).resolve_left htail
  have hwhole : run {} (rest ++ init ++ [last]) = ([c], {}) := by
    rw [List.append_assoc, ← h]
    exact run_utf8EncodeChar c
  have hne : (run {} (rest ++ init ++ [last])).1 ≠ (run {} (rest ++ init)).1 :=
    run_ne_nil (by rw [hwhole])
  have hall : (run {} (rest ++ init)).1 <+: [c] := by
    have hprefix := run_prefix {} (rest ++ init) [last]
    rwa [hwhole] at hprefix
  have hempty : (run {} (rest ++ init)).1 = [] := by
    rcases List.prefix_cons_iff.mp hall with hnil | ⟨more, hmore, hrest⟩
    · exact hnil
    · rw [List.prefix_nil.mp hrest] at hmore
      rw [hwhole] at hne
      exact absurd hmore.symm hne
  have hpart := run_prefix {} rest init
  rw [hempty] at hpart
  exact List.prefix_nil.mp hpart

end Utf8Decoder

/-! ## The decoder of the browser -/

structure TextDecoder where
  utf8 : Utf8Decoder := {}
  bomSeen : Bool := false
deriving DecidableEq, Repr

namespace TextDecoder

/-- The first character of all is dropped if it is a byte order mark. -/
def skipByteOrderMark (bomSeen : Bool) (text : List Char) : List Char :=
  match text with
  | [] => []
  | c :: rest => if ¬ bomSeen ∧ c = byteOrderMark then rest else c :: rest

/-- `decode(chunk, { stream: true })` -/
def decode (decoder : TextDecoder) (chunk : List UInt8) : List Char × TextDecoder :=
  let decoded := decoder.utf8.run chunk
  (skipByteOrderMark decoder.bomSeen decoded.1,
    { utf8 := decoded.2, bomSeen := decoder.bomSeen || !decoded.1.isEmpty })

theorem skipByteOrderMark_append (bomSeen : Bool) (text more : List Char) :
    skipByteOrderMark bomSeen (text ++ more) =
      skipByteOrderMark bomSeen text ++ skipByteOrderMark (bomSeen || !text.isEmpty) more := by
  cases text with
  | nil => cases bomSeen <;> rfl
  | cons c text =>
    have hrest : skipByteOrderMark (bomSeen || !(c :: text).isEmpty) more = more := by
      rw [List.isEmpty_cons, Bool.not_false, Bool.or_true]
      cases more with
      | nil => rfl
      | cons d more =>
        unfold skipByteOrderMark
        dsimp only
        rw [if_neg]
        rintro ⟨hnot, _⟩
        exact hnot rfl
    rw [hrest, List.cons_append]
    unfold skipByteOrderMark
    dsimp only
    split
    · rfl
    · rfl

theorem decode_append (decoder : TextDecoder) (bytes more : List UInt8) :
    decoder.decode (bytes ++ more) =
      ((decoder.decode bytes).1 ++ ((decoder.decode bytes).2.decode more).1,
        ((decoder.decode bytes).2.decode more).2) := by
  unfold decode
  dsimp only
  rw [Utf8Decoder.run_append, skipByteOrderMark_append]
  dsimp only
  have hseen : (decoder.bomSeen || !((decoder.utf8.run bytes).1 ++
      ((decoder.utf8.run bytes).2.run more).1).isEmpty) =
      (decoder.bomSeen || !(decoder.utf8.run bytes).1.isEmpty ||
        !((decoder.utf8.run bytes).2.run more).1.isEmpty) := by
    cases (decoder.utf8.run bytes).1 with
    | nil => rw [List.nil_append, List.isEmpty_nil, Bool.not_true, Bool.or_false]
    | cons c text => simp
  rw [hseen]

@[simp] theorem decode_nil (decoder : TextDecoder) : decoder.decode [] = ([], decoder) := by
  unfold decode Utf8Decoder.run
  dsimp only
  rw [List.isEmpty_nil, Bool.not_true, Bool.or_false]
  rfl

theorem skipByteOrderMark_of_head {bomSeen : Bool} {text : List Char}
    (h : text.head? ≠ some byteOrderMark) : skipByteOrderMark bomSeen text = text := by
  cases text with
  | nil => rfl
  | cons c text =>
    unfold skipByteOrderMark
    dsimp only
    rw [if_neg]
    rintro ⟨_, rfl⟩
    exact h rfl

theorem decode_utf8 {decoder : TextDecoder} (hidle : decoder.utf8 = {}) {text : List Char}
    (hmark : text.head? ≠ some byteOrderMark) {c : Char} {rest tail : List UInt8}
    (hrest : String.utf8EncodeChar c = rest ++ tail) (htail : tail ≠ []) :
    (decoder.decode (WebSerial.utf8 text ++ rest)).1 = text := by
  unfold decode
  dsimp only
  rw [hidle, Utf8Decoder.run_append, Utf8Decoder.run_utf8]
  dsimp only
  rw [Utf8Decoder.run_incomplete hrest htail, List.append_nil]
  exact skipByteOrderMark_of_head hmark

end TextDecoder

end FluxPurr.WebSerial
