import FluxPurr.Wire.Bytes

/-!
# Tag, length, value

A payload is a run of elements, each a tag byte, a little-endian length and that
many bytes.  The number of length bytes is a parameter: old records use one, newer
ones two.  `parseTlvs` cuts a payload into its elements and fails when the last
one is cut short; it is the left inverse of writing elements one after another
(`parseTlvs_encodeTlvs`).
-/

namespace FluxPurr.Wire

structure Tlv where
  tag : UInt8
  value : List UInt8
deriving DecidableEq, Repr

variable (lenWidth : ℕ)

/-- The bytes of one element. -/
def encodeTlv (tlv : Tlv) : List UInt8 :=
  tlv.tag :: (leBytes lenWidth tlv.value.length ++ tlv.value)

def encodeTlvs (tlvs : List Tlv) : List UInt8 := tlvs.flatMap (encodeTlv lenWidth)

/-- The elements of a payload.  Every element is at least one byte long, so the
length of the payload is enough fuel. -/
def parseTlvs (lenWidth : ℕ) : ℕ → List UInt8 → Option (List Tlv)
  | _, [] => some []
  | 0, _ :: _ => none
  | fuel + 1, tag :: bytes =>
      if bytes.length < lenWidth then
        none
      else
        let len := readLe bytes 0 lenWidth
        let rest := bytes.drop lenWidth
        if rest.length < len then
          none
        else
          (parseTlvs lenWidth fuel (rest.drop len)).map (⟨tag, rest.take len⟩ :: ·)

/-- The elements of a whole payload. -/
def tlvsOf (payload : List UInt8) : Option (List Tlv) := parseTlvs lenWidth payload.length payload

@[simp] theorem length_encodeTlv (tlv : Tlv) :
    (encodeTlv lenWidth tlv).length = 1 + lenWidth + tlv.value.length := by
  simp only [encodeTlv, List.length_cons, List.length_append, length_leBytes]
  omega

theorem parseTlvs_encodeTlv {lenWidth : ℕ} {tlv : Tlv} (h : tlv.value.length < 256 ^ lenWidth)
    (fuel : ℕ) (rest : List UInt8) :
    parseTlvs lenWidth (fuel + 1) (encodeTlv lenWidth tlv ++ rest) =
      (parseTlvs lenWidth fuel rest).map (tlv :: ·) := by
  have hlen : readLe (leBytes lenWidth tlv.value.length ++ (tlv.value ++ rest)) 0 lenWidth =
      tlv.value.length := by
    rw [readLe_leBytes, Nat.mod_eq_of_lt h]
  have hdrop : (leBytes lenWidth tlv.value.length ++ (tlv.value ++ rest)).drop lenWidth =
      tlv.value ++ rest := List.drop_left' (length_leBytes _ _)
  have henough : ¬ (tlv.value ++ rest).length < tlv.value.length := by
    rw [List.length_append]
    omega
  have hroom : ¬ (leBytes lenWidth tlv.value.length ++ (tlv.value ++ rest)).length < lenWidth := by
    rw [List.length_append, length_leBytes]
    omega
  rw [encodeTlv, List.cons_append, List.append_assoc, parseTlvs, if_neg hroom]
  simp only [hlen, hdrop]
  rw [if_neg henough, List.drop_left, List.take_left]

theorem parseTlvs_encodeTlvs {lenWidth : ℕ} {tlvs : List Tlv}
    (h : ∀ tlv ∈ tlvs, tlv.value.length < 256 ^ lenWidth) {fuel : ℕ} (hfuel : tlvs.length ≤ fuel) :
    parseTlvs lenWidth fuel (encodeTlvs lenWidth tlvs) = some tlvs := by
  induction tlvs generalizing fuel with
  | nil => cases fuel <;> rfl
  | cons tlv rest ih =>
    obtain ⟨fuel, rfl⟩ : ∃ n, fuel = n + 1 := ⟨fuel - 1, by
      rw [List.length_cons] at hfuel
      omega⟩
    have hlen : rest.length ≤ fuel := by simpa using hfuel
    have hrest := ih (fun t ht => h t (by simp [ht])) hlen
    rw [encodeTlvs, List.flatMap_cons, parseTlvs_encodeTlv (h tlv (by simp))]
    rw [encodeTlvs] at hrest
    rw [hrest, Option.map_some]

theorem length_le_length_encodeTlvs (tlvs : List Tlv) :
    tlvs.length ≤ (encodeTlvs lenWidth tlvs).length := by
  induction tlvs with
  | nil => simp
  | cons tlv rest ih =>
    rw [encodeTlvs, List.flatMap_cons, List.length_append, length_encodeTlv, List.length_cons]
    rw [encodeTlvs] at ih
    omega

theorem tlvsOf_encodeTlvs {lenWidth : ℕ} {tlvs : List Tlv}
    (h : ∀ tlv ∈ tlvs, tlv.value.length < 256 ^ lenWidth) :
    tlvsOf lenWidth (encodeTlvs lenWidth tlvs) = some tlvs :=
  parseTlvs_encodeTlvs h (length_le_length_encodeTlvs lenWidth tlvs)

theorem length_lt_of_parseTlvs {lenWidth fuel : ℕ} {payload : List UInt8} {tlvs : List Tlv}
    (h : parseTlvs lenWidth fuel payload = some tlvs) :
    ∀ tlv ∈ tlvs, tlv.value.length < 256 ^ lenWidth := by
  induction fuel generalizing payload tlvs with
  | zero =>
    cases payload with
    | nil =>
      obtain rfl : [] = tlvs := by simpa [parseTlvs] using h
      simp
    | cons tag bytes => simp [parseTlvs] at h
  | succ fuel ih =>
    cases payload with
    | nil =>
      obtain rfl : [] = tlvs := by simpa [parseTlvs] using h
      simp
    | cons tag bytes =>
      rw [parseTlvs] at h
      simp only at h
      split_ifs at h with hheader hvalue
      obtain ⟨rest, hrest, rfl⟩ := Option.map_eq_some_iff.mp h
      intro tlv hmem
      rcases List.mem_cons.mp hmem with rfl | hin
      · have hlen := readLe_lt bytes 0 lenWidth
        have htake := List.length_take_le (readLe bytes 0 lenWidth) (bytes.drop lenWidth)
        exact lt_of_le_of_lt htake hlen
      · exact ih hrest tlv hin

end FluxPurr.Wire
