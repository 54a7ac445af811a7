import FluxPurr.Lan.Access

/-!
# The bearer token

A token is handed out in hexadecimal and comes back in the header of a request.  The strict
decoder refuses a text with a byte that is no hexadecimal digit.  The comparison reads such a
byte as 0xff, which it shifts and joins with the other half of the pair, so a pair that is no
number can stand for a byte of the token after all (`PassesFor`).  Only a token with bytes from
0xf0 on can be met that way (`comparison_agrees_iff`).
-/

namespace FluxPurr.Lan

/-! ## The encoding -/

def hexDigit (value : UInt8) : Char :=
  if value < 10 then Char.ofNat (0x30 + value.toNat) else Char.ofNat (0x61 + (value.toNat - 10))

/-- Two digits, in lower case. -/
def hexPair (byte : UInt8) : List Char := [hexDigit (byte >>> 4), hexDigit (byte &&& 0x0f)]

variable (token : LanToken)

def writeHex : String := String.ofList (token.flatMap hexPair)

/-- The bytes of the pairs, unless one is no number. -/
def decodePairs : List UInt8 → Option LanToken
  | high :: low :: bearer =>
      (hexNibble high).bind fun high =>
        (hexNibble low).bind fun low =>
          (decodePairs bearer).map fun token => (high <<< 4 ||| low) :: token
  | _ => some []

def fromHex (value : String) : Option LanToken :=
  let bytes := asBytes value
  if bytes.length ≠ lanTokenHexLen then none else decodePairs bytes

/-! ## The pairs that pass -/

/-- What the comparison takes for a byte of the token. -/
def PassesFor (expected high low : UInt8) : Prop :=
  match hexNibble high, hexNibble low with
  | some high, some low => expected = high <<< 4 ||| low
  | none, some low => expected = 0xf0 ||| low
  | _, none => expected = 0xff

instance (expected high low : UInt8) : Decidable (PassesFor expected high low) := by
  unfold PassesFor
  split <;> infer_instance

def Passes : LanToken → List UInt8 → Prop
  | expected :: token, high :: low :: bearer => PassesFor expected high low ∧ Passes token bearer
  | _, _ => True

/-- A text that is not all hexadecimal passes for the token. -/
def PassesUnread (value : String) : Prop :=
  (asBytes value).length = lanTokenHexLen ∧ (∃ byte ∈ asBytes value, hexNibble byte = none) ∧
    Passes token (asBytes value)

theorem xor_eq_zero_iff_passesFor (expected high low : UInt8) :
    expected ^^^ ((hexNibbleOrInvalid high <<< 4) ||| hexNibbleOrInvalid low) = 0 ↔
      PassesFor expected high low := by
  rw [UInt8.xor_eq_zero_iff]
  unfold PassesFor hexNibbleOrInvalid
  cases hexNibble low with
  | none =>
    have hones : ∀ value : UInt8, value ||| 0xff = 0xff := fun value => UInt8.or_neg_one
    rw [Option.getD_none, hones]
    cases hexNibble high <;> exact Iff.rfl
  | some low =>
    cases hexNibble high with
    | none => exact Iff.rfl
    | some high => exact Iff.rfl

theorem tokenDifference_eq_zero_iff (bearer : List UInt8) :
    tokenDifference token bearer = 0 ↔ Passes token bearer := by
  induction token, bearer using tokenDifference.induct with
  | case1 expected token high low bearer ih =>
    rw [tokenDifference, Passes, UInt8.or_eq_zero_iff, xor_eq_zero_iff_passesFor, ih]
  | case2 token bearer hnot =>
    rw [tokenDifference.eq_2 token bearer hnot, Passes.eq_2 token bearer hnot]
    exact iff_of_true rfl trivial

theorem matchesBearer_iff (value : String) :
    matchesBearer token value = true ↔
      (asBytes value).length = lanTokenHexLen ∧ Passes token (asBytes value) := by
  unfold matchesBearer
  dsimp only
  split_ifs with hlength
  · exact iff_of_false id fun h => hlength h.1
  · rw [decide_eq_true_iff, tokenDifference_eq_zero_iff, and_iff_right (not_not.mp hlength)]

/-! ## Decoding -/

theorem decodePairs_cons (high low : UInt8) (bearer : List UInt8) (expected : UInt8)
    (token : LanToken) :
    decodePairs (high :: low :: bearer) = some (expected :: token) ↔
      ((∃ value, hexNibble high = some value) ∧ (∃ value, hexNibble low = some value) ∧
        PassesFor expected high low) ∧ decodePairs bearer = some token := by
  unfold PassesFor
  rw [decodePairs]
  cases hexNibble high with
  | none => simp
  | some high =>
    cases hexNibble low with
    | none => simp
    | some low =>
      simp only [Option.bind_some, Option.map_eq_some_iff, List.cons.injEq]
      constructor
      · rintro ⟨token, htoken, rfl, rfl⟩
        exact ⟨⟨⟨high, rfl⟩, ⟨low, rfl⟩, rfl⟩, htoken⟩
      · rintro ⟨⟨-, -, rfl⟩, htoken⟩
        exact ⟨token, htoken, rfl, rfl⟩

/-- The decoder reads a token from a text that passes for it and is all hexadecimal. -/
theorem decodePairs_eq_some_iff (bearer : List UInt8) (hlength : bearer.length = 2 * token.length) :
    decodePairs bearer = some token ↔
      (∀ byte ∈ bearer, ∃ value, hexNibble byte = some value) ∧ Passes token bearer := by
  induction token generalizing bearer with
  | nil =>
    obtain rfl := List.length_eq_zero_iff.mp hlength
    exact iff_of_true rfl ⟨fun _ h => absurd h List.not_mem_nil, trivial⟩
  | cons expected token ih =>
    obtain ⟨high, low, bearer, rfl⟩ : ∃ high low rest, bearer = high :: low :: rest := by
      match bearer, hlength with
      | high :: low :: rest, _ => exact ⟨high, low, rest, rfl⟩
    have hrest : bearer.length = 2 * token.length := by
      simp only [List.length_cons] at hlength
      omega
    rw [decodePairs_cons, ih bearer hrest, Passes, List.forall_mem_cons, List.forall_mem_cons]
    tauto

theorem fromHex_eq_some_iff {token : LanToken} (htoken : token.length = lanTokenBytes)
    (value : String) :
    fromHex value = some token ↔ (asBytes value).length = lanTokenHexLen ∧
      (∀ byte ∈ asBytes value, ∃ value, hexNibble byte = some value) ∧
        Passes token (asBytes value) := by
  unfold fromHex
  dsimp only
  split_ifs with hlength
  · exact iff_of_false nofun fun h => hlength h.1
  · rw [not_not] at hlength
    rw [decodePairs_eq_some_iff token _ (by rw [hlength, htoken]), and_iff_right hlength]

/-! ## The round trip -/

theorem toList_loop (bytes : ByteArray) (index : ℕ) (read : List UInt8) :
    ByteArray.toList.loop bytes index read = read.reverse ++ bytes.data.toList.drop index := by
  induction index, read using ByteArray.toList.loop.induct bytes with
  | case1 index read hlt ih =>
    have hlt' : index < bytes.data.toList.length := hlt
    have hget : bytes.get! index = bytes.data.toList[index] := getElem!_pos bytes.data index hlt
    rw [ByteArray.toList.loop, if_pos hlt, ih, List.reverse_cons, List.append_assoc,
      List.drop_eq_getElem_cons hlt', hget]
    rfl
  | case2 index read hnot =>
    have hle : bytes.data.toList.length ≤ index := Nat.le_of_not_lt hnot
    rw [ByteArray.toList.loop, if_neg hnot, List.drop_eq_nil_of_le hle, List.append_nil]

theorem asBytes_ofList (chars : List Char) :
    asBytes (String.ofList chars) = chars.flatMap String.utf8EncodeChar := by
  have hbytes : (String.ofList chars).toUTF8.data.toList =
      chars.flatMap String.utf8EncodeChar := List.toList_data_toByteArray
  rw [asBytes, ByteArray.toList, toList_loop, hbytes]
  rfl

theorem hexDigit_spec : ∀ value : Fin 16,
    (String.utf8EncodeChar (hexDigit (UInt8.ofNat value))).length = 1 ∧
      (String.utf8EncodeChar (hexDigit (UInt8.ofNat value))).head?.bind hexNibble =
        some (UInt8.ofNat value) := by
  decide +kernel

theorem hexNibble_hexDigit (value : Fin 16) :
    ∃ byte, String.utf8EncodeChar (hexDigit (UInt8.ofNat value)) = [byte] ∧
      hexNibble byte = some (UInt8.ofNat value) := by
  obtain ⟨hlength, hread⟩ := hexDigit_spec value
  obtain ⟨byte, hbyte⟩ := List.length_eq_one_iff.mp hlength
  rw [hbyte] at hread
  exact ⟨byte, hbyte, hread⟩

theorem exists_digits (byte : UInt8) :
    ∃ high low, (hexPair byte).flatMap String.utf8EncodeChar = [high, low] ∧
      hexNibble high = some (byte >>> 4) ∧ hexNibble low = some (byte &&& 0x0f) := by
  have hlt := byte.toNat_lt
  have hhigh : byte >>> 4 = UInt8.ofNat (byte.toNat / 16) := by
    apply UInt8.toNat_inj.mp
    rw [UInt8.toNat_shiftRight, UInt8.toNat_ofNat']
    show byte.toNat >>> 4 = _
    rw [Nat.shiftRight_eq_div_pow]
    omega
  have hlow : byte &&& 0x0f = UInt8.ofNat (byte.toNat % 16) := by
    apply UInt8.toNat_inj.mp
    rw [UInt8.toNat_and, UInt8.toNat_ofNat']
    show byte.toNat &&& (2 ^ 4 - 1) = _
    rw [Nat.and_two_pow_sub_one_eq_mod]
    omega
  obtain ⟨high, hhighByte, hhighRead⟩ := hexNibble_hexDigit ⟨byte.toNat / 16, by omega⟩
  obtain ⟨low, hlowByte, hlowRead⟩ := hexNibble_hexDigit ⟨byte.toNat % 16, by omega⟩
  refine ⟨high, low, ?_, hhigh ▸ hhighRead, hlow ▸ hlowRead⟩
  rw [hexPair, hhigh, hlow, List.flatMap_cons, List.flatMap_cons, hhighByte, hlowByte]
  rfl

theorem halves (byte : UInt8) : (byte >>> 4) <<< 4 ||| (byte &&& 0x0f) = byte := by
  have hall : ∀ value : Fin 256, (UInt8.ofNat value >>> 4) <<< 4 ||| (UInt8.ofNat value &&& 0x0f) =
      UInt8.ofNat value := by
    decide +kernel
  have hbyte := hall ⟨byte.toNat, byte.toNat_lt⟩
  rwa [UInt8.ofNat_toNat] at hbyte

theorem decodePairs_writeHex :
    decodePairs ((token.flatMap hexPair).flatMap String.utf8EncodeChar) = some token ∧
      ((token.flatMap hexPair).flatMap String.utf8EncodeChar).length = 2 * token.length := by
  induction token with
  | nil => exact ⟨rfl, rfl⟩
  | cons byte token ih =>
    obtain ⟨high, low, hpair, hhigh, hlow⟩ := exists_digits byte
    rw [List.flatMap_cons, List.flatMap_append, hpair]
    constructor
    · show decodePairs (high :: low :: List.flatMap _ _) = _
      rw [decodePairs, hhigh, hlow, ih.1]
      simp only [Option.bind_some, Option.map_some, halves]
    · show (high :: low :: List.flatMap _ _).length = _
      rw [List.length_cons, List.length_cons, ih.2, List.length_cons]
      omega

theorem fromHex_writeHex {token : LanToken} (htoken : token.length = lanTokenBytes) :
    fromHex (writeHex token) = some token := by
  obtain ⟨hdecoded, hlength⟩ := decodePairs_writeHex token
  unfold fromHex writeHex
  rw [asBytes_ofList]
  dsimp only
  rw [hlength, htoken, if_neg (not_not.mpr rfl)]
  exact hdecoded

/-! ## The comparison -/

/-- The comparison agrees with the decoder unless a text with other bytes passes. -/
theorem comparison_agrees_iff (token : LanToken) (value : String)
    (htoken : token.length = lanTokenBytes) :
    ((matchesBearer token value = true ↔ fromHex value = some token) ∧
      fromHex (writeHex token) = some token) ↔ ¬PassesUnread token value := by
  have hunread : (¬∀ byte ∈ asBytes value, ∃ nibble, hexNibble byte = some nibble) ↔
      ∃ byte ∈ asBytes value, hexNibble byte = none := by
    simp only [not_forall, ← Option.isSome_iff_exists, Option.not_isSome_iff_eq_none, exists_prop]
  rw [and_iff_left (fromHex_writeHex htoken), matchesBearer_iff, fromHex_eq_some_iff htoken]
  unfold PassesUnread
  rw [← hunread]
  tauto

theorem comparison_agrees_ab : (matchesBearer (List.replicate 32 0xab) "not-a-token" = true ↔
        fromHex "not-a-token" = some (List.replicate 32 0xab)) ∧
      fromHex (writeHex (List.replicate 32 0xab)) = some (List.replicate 32 0xab) :=
  (comparison_agrees_iff (List.replicate 32 0xab) "not-a-token" (by decide)).mpr
    fun h => absurd h.1 (by decide +kernel)

/-- A token of ones is met by any text of its length without a hexadecimal digit. -/
theorem not_comparison_agrees_ones :
    ¬∀ (token : LanToken) (value : String), token.length = lanTokenBytes →
      (matchesBearer token value = true ↔ fromHex value = some token) ∧
        fromHex (writeHex token) = some token := by
  intro h
  have hagrees := (h (List.replicate 32 0xff)
    "zzzzzzzzzzzzzzzzzzzzzzzzzzzzzzzzzzzzzzzzzzzzzzzzzzzzzzzzzzzzzzzz" (by decide)).1
  exact absurd (hagrees.mp (by decide +kernel)) (by decide +kernel)

end FluxPurr.Lan
