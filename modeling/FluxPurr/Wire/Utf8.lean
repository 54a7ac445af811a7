/-!
# Text in UTF-8

`fromUtf8` reads bytes as text, if they are text.  At a line feed the bytes can be cut in two: the
whole is text exactly if both parts are (`fromUtf8_append_lineFeed`).
-/

namespace FluxPurr.Wire

def bytesOf (text : List Char) : List UInt8 := text.flatMap String.utf8EncodeChar

def fromUtf8 (bytes : List UInt8) : Option (List Char) :=
  bytes.toByteArray.utf8Decode?.map Array.toList

theorem bytesOf_append (text other : List Char) :
    bytesOf (text ++ other) = bytesOf text ++ bytesOf other := List.flatMap_append

theorem utf8Encode_eq (text : List Char) : text.utf8Encode = (bytesOf text).toByteArray := rfl

theorem toByteArray_inj {bytes other : List UInt8}
    (h : bytes.toByteArray = other.toByteArray) : bytes = other := by
  have hlist := congrArg (fun array : ByteArray => array.data.toList) h
  simpa using hlist

theorem fromUtf8_bytesOf (text : List Char) : fromUtf8 (bytesOf text) = some text := by
  rw [fromUtf8, ← utf8Encode_eq, List.utf8Decode?_utf8Encode]
  rfl

theorem fromUtf8_eq_some_iff {bytes : List UInt8} {text : List Char} :
    fromUtf8 bytes = some text ↔ bytesOf text = bytes := by
  constructor
  · intro h
    obtain ⟨decoded, hdecoded, rfl⟩ := Option.map_eq_some_iff.mp h
    have hsome : bytes.toByteArray.utf8Decode?.isSome = true := by
      rw [hdecoded]
      rfl
    obtain ⟨original, horiginal⟩ := ByteArray.isSome_utf8Decode?_iff.mp hsome
    rw [horiginal, List.utf8Decode?_utf8Encode] at hdecoded
    obtain rfl := Option.some.inj hdecoded
    exact (toByteArray_inj horiginal).symm
  · rintro rfl
    exact fromUtf8_bytesOf text

/-- The first byte tells a line feed from every other character. -/
theorem eq_lineFeed {c : Char} {rest : List UInt8} (h : String.utf8EncodeChar c = 10 :: rest) :
    c = '\n' := by
  have hbytes : [c].utf8Encode = ['\n'].utf8Encode ++ rest.toByteArray := by
    rw [List.utf8Encode_singleton, List.utf8Encode_singleton, h, ← List.toByteArray_append]
    rfl
  have hdecoded := congrArg (fun bytes : ByteArray => bytes.utf8DecodeChar? 0) hbytes
  simpa [List.utf8DecodeChar?_utf8Encode_singleton_append] using hdecoded

theorem eq_nil_of_encoded {c : Char} {before rest : List UInt8}
    (h : String.utf8EncodeChar c = before ++ 10 :: rest) : before = [] := by
  have hindex : before.length < (String.utf8EncodeChar c).length := by
    rw [h, List.length_append, List.length_cons]
    omega
  have hbyte : (String.utf8EncodeChar c)[before.length] = 10 := by
    simp only [h, List.getElem_append_right (Nat.le_refl _), Nat.sub_self, List.getElem_cons_zero]
  have hfirst : UInt8.IsUTF8FirstByte (String.utf8EncodeChar c)[before.length] := by
    rw [hbyte]
    decide
  exact List.length_eq_zero_iff.mp (UInt8.isUTF8FirstByte_getElem_utf8EncodeChar.mp hfirst)

theorem bytesOf_cut {text : List Char} {before rest : List UInt8}
    (h : bytesOf text = before ++ 10 :: rest) :
    ∃ front back, text = front ++ '\n' :: back ∧ bytesOf front = before ∧ bytesOf back = rest := by
  induction text generalizing before with
  | nil =>
    have hlength := congrArg List.length h
    simp [bytesOf] at hlength
  | cons c text ih =>
    have hcons : String.utf8EncodeChar c ++ bytesOf text = before ++ 10 :: rest := h
    rcases List.append_eq_append_iff.mp hcons with
      ⟨before', hbefore, htext⟩ | ⟨inside, hchar, hinside⟩
    · -- the line feed comes behind the first character
      obtain ⟨front, back, rfl, hfront, hback⟩ := ih htext
      refine ⟨c :: front, back, rfl, ?_, hback⟩
      show String.utf8EncodeChar c ++ bytesOf front = before
      rw [hfront, hbefore]
    · cases inside with
      | nil =>
        have htext : bytesOf text = [] ++ 10 :: rest := hinside.symm
        obtain ⟨front, back, rfl, hfront, hback⟩ := ih htext
        refine ⟨c :: front, back, rfl, ?_, hback⟩
        show String.utf8EncodeChar c ++ bytesOf front = before
        rw [hfront, hchar]
        simp
      | cons byte inside =>
        obtain ⟨rfl, hrest⟩ := List.cons.inj hinside
        obtain rfl := eq_nil_of_encoded hchar
        obtain rfl := eq_lineFeed hchar
        obtain rfl : inside = [] := (List.cons.inj hchar).2.symm
        exact ⟨[], text, rfl, rfl, hrest.symm⟩

theorem fromUtf8_append_lineFeed (before rest : List UInt8) :
    fromUtf8 (before ++ 10 :: rest) =
      (fromUtf8 before).bind fun front => (fromUtf8 rest).map fun back =>
        front ++ '\n' :: back := by
  cases hwhole : fromUtf8 (before ++ 10 :: rest) with
  | some text =>
    obtain ⟨front, back, rfl, hfront, hback⟩ := bytesOf_cut (fromUtf8_eq_some_iff.mp hwhole)
    rw [fromUtf8_eq_some_iff.mpr hfront, fromUtf8_eq_some_iff.mpr hback]
    rfl
  | none =>
    cases hfront : fromUtf8 before with
    | none => rfl
    | some front =>
      cases hback : fromUtf8 rest with
      | none => rfl
      | some back =>
        have htext : bytesOf (front ++ '\n' :: back) = before ++ 10 :: rest := by
          rw [bytesOf_append, fromUtf8_eq_some_iff.mp hfront, ← fromUtf8_eq_some_iff.mp hback]
          rfl
        rw [fromUtf8_eq_some_iff.mpr htext] at hwhole
        cases hwhole

end FluxPurr.Wire
