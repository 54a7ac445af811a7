import Mathlib.Data.List.Basic
import Mathlib.Data.Nat.Bitwise

/-!
# A bit cursor over a byte string

Bit `index` of a byte string is bit `index % 8` of byte `index / 8`, so the
stream runs from the low bit of the first byte upwards.  `writeBits` ors a value
into the stream at a cursor, lowest bit first, and `readBits` reads one back.
Both advance the cursor by the width, so a record of fields is a run of writes
(`writeFields`) and is read by a run of reads (`readFields`).

## Strategy

A write changes no bit outside its window (`getBit_writeBits`), hence the bits
past the cursor stay clear while the record is written (`ClearFrom`), and a field
written once keeps its bits during the later writes.
-/

namespace FluxPurr.Wire

variable (bytes : List UInt8)

/-- Bit `index` of the stream; bits past the end are clear. -/
def getBit (index : ℕ) : Bool := (bytes.getD (index / 8) 0).toNat.testBit (index % 8)

/-- `bytes[index / 8] |= 1 << (index % 8)`. -/
def setBit (index : ℕ) : List UInt8 :=
  bytes.modify (index / 8) fun byte => byte ||| UInt8.ofNat (1 <<< (index % 8))

@[simp] theorem length_setBit (index : ℕ) : (setBit bytes index).length = bytes.length := by
  simp [setBit]

theorem testBit_or_one_shiftLeft (byte : UInt8) {bit : ℕ} (h : bit < 8) (j : ℕ) :
    (byte ||| UInt8.ofNat (1 <<< bit)).toNat.testBit j =
      (byte.toNat.testBit j || decide (bit = j)) := by
  have hpow : 1 <<< bit < 2 ^ 8 := by
    rw [Nat.one_shiftLeft]
    exact Nat.pow_lt_pow_right (by decide) h
  rw [UInt8.toNat_or, UInt8.toNat_ofNat', Nat.mod_eq_of_lt hpow, Nat.testBit_or,
    Nat.one_shiftLeft, Nat.testBit_two_pow]

theorem getBit_setBit {bytes : List UInt8} {index : ℕ} (h : index < 8 * bytes.length) (j : ℕ) :
    getBit (setBit bytes index) j = (getBit bytes j || decide (index = j)) := by
  have hbyte : index / 8 < bytes.length := by omega
  unfold getBit setBit
  rw [List.getD_eq_getElem?_getD, List.getElem?_modify, List.getD_eq_getElem?_getD]
  by_cases hsame : index / 8 = j / 8
  · have hj : j / 8 < bytes.length := by omega
    have hbit : index % 8 = j % 8 ↔ index = j := by omega
    have hread := testBit_or_one_shiftLeft bytes[j / 8] (Nat.mod_lt index (by decide)) (j % 8)
    simp only [hbit] at hread
    simpa [hsame, hj] using hread
  · have hne : index ≠ j := by
      rintro rfl
      exact hsame rfl
    simp [hsame, hne]

/-! ## Writing and reading a value -/

/-- Set the bits of `value` below `width` at the cursor.  The write only sets
bits: it does not clear the window first. -/
def writeBits (bytes : List UInt8) (cursor value : ℕ) : ℕ → List UInt8
  | 0 => bytes
  | width + 1 =>
      let written := writeBits bytes cursor value width
      if value.testBit width then setBit written (cursor + width) else written

/-- The `width` bits at the cursor as a number. -/
def readBits (bytes : List UInt8) (cursor : ℕ) : ℕ → ℕ
  | 0 => 0
  | width + 1 =>
      let value := readBits bytes cursor width
      if getBit bytes (cursor + width) then value ||| 1 <<< width else value

@[simp] theorem length_writeBits (cursor value width : ℕ) :
    (writeBits bytes cursor value width).length = bytes.length := by
  induction width with
  | zero => rfl
  | succ width ih =>
    rw [writeBits]
    split
    · rw [length_setBit, ih]
    · exact ih

theorem getBit_writeBits {bytes : List UInt8} {cursor width : ℕ}
    (h : cursor + width ≤ 8 * bytes.length) (value j : ℕ) :
    getBit (writeBits bytes cursor value width) j =
      (getBit bytes j ||
        (decide (cursor ≤ j ∧ j < cursor + width) && value.testBit (j - cursor))) := by
  induction width with
  | zero =>
    simp [writeBits]
  | succ width ih =>
    have hih := ih (by omega)
    have hroom : cursor + width < 8 * (writeBits bytes cursor value width).length := by
      rw [length_writeBits]
      omega
    by_cases hj : cursor + width = j
    · have hin : cursor ≤ j ∧ j < cursor + (width + 1) := by omega
      have hout : ¬ (cursor ≤ j ∧ j < cursor + width) := by omega
      have hbit : j - cursor = width := by omega
      rw [writeBits]
      by_cases hset : value.testBit width = true
      · rw [if_pos hset, getBit_setBit hroom, hbit, hset]
        simp [hj, hin]
      · simp [hset, hih, hin, hbit]
    · have hiff :
          (cursor ≤ j ∧ j < cursor + (width + 1)) ↔ (cursor ≤ j ∧ j < cursor + width) := by
        omega
      rw [writeBits]
      simp only [hiff]
      split
      · rw [getBit_setBit hroom, hih]
        simp [hj]
      · exact hih

theorem testBit_readBits (cursor width i : ℕ) :
    (readBits bytes cursor width).testBit i =
      (decide (i < width) && getBit bytes (cursor + i)) := by
  induction width with
  | zero => simp [readBits]
  | succ width ih =>
    rw [readBits]
    by_cases hbit : getBit bytes (cursor + width) = true
    · rw [if_pos hbit, Nat.testBit_or, ih, Nat.one_shiftLeft, Nat.testBit_two_pow]
      by_cases hi : width = i
      · simp [← hi, hbit]
      · have hiff : i < width + 1 ↔ i < width := by omega
        simp [hi, hiff]
    · rw [if_neg hbit, ih]
      by_cases hi : i = width
      · simp [hi, hbit]
      · have hiff : i < width + 1 ↔ i < width := by omega
        simp [hiff]

theorem readBits_congr {bytes other : List UInt8} {cursor width : ℕ}
    (h : ∀ i < width, getBit bytes (cursor + i) = getBit other (cursor + i)) :
    readBits bytes cursor width = readBits other cursor width := by
  apply Nat.eq_of_testBit_eq
  intro i
  rw [testBit_readBits, testBit_readBits]
  by_cases hi : i < width
  · rw [h i hi]
  · simp [hi]

/-- All bits from `cursor` on are clear. -/
def ClearFrom (cursor : ℕ) : Prop := ∀ j, cursor ≤ j → getBit bytes j = false

theorem clearFrom_replicate (size cursor : ℕ) : ClearFrom (List.replicate size 0) cursor := by
  intro j _
  simp [getBit]

theorem clearFrom_writeBits {bytes : List UInt8} {cursor width : ℕ}
    (hroom : cursor + width ≤ 8 * bytes.length) (hclear : ClearFrom bytes cursor) (value : ℕ) :
    ClearFrom (writeBits bytes cursor value width) (cursor + width) := by
  intro j hj
  have hout : ¬ (cursor ≤ j ∧ j < cursor + width) := by omega
  rw [getBit_writeBits hroom, hclear j (by omega)]
  simp [hout]

theorem readBits_writeBits {bytes : List UInt8} {cursor width value : ℕ}
    (hroom : cursor + width ≤ 8 * bytes.length) (hclear : ClearFrom bytes cursor)
    (hvalue : value < 2 ^ width) :
    readBits (writeBits bytes cursor value width) cursor width = value := by
  apply Nat.eq_of_testBit_eq
  intro i
  rw [testBit_readBits, getBit_writeBits hroom, hclear _ (by omega)]
  by_cases hi : i < width
  · simp [hi]
  · have hhigh : value.testBit i = false := by
      apply Nat.testBit_lt_two_pow
      exact hvalue.trans_le (Nat.pow_le_pow_right (by decide) (by omega))
    simp [hi, hhigh]

/-! ## Records of fields -/

/-- Write the values one after another, each in its own width. -/
def writeFields (bytes : List UInt8) (cursor : ℕ) : List (ℕ × ℕ) → List UInt8
  | [] => bytes
  | (value, width) :: rest =>
      writeFields (writeBits bytes cursor value width) (cursor + width) rest

/-- Read values of the given widths one after another. -/
def readFields (bytes : List UInt8) (cursor : ℕ) : List ℕ → List ℕ
  | [] => []
  | width :: rest => readBits bytes cursor width :: readFields bytes (cursor + width) rest

@[simp] theorem length_writeFields (cursor : ℕ) (fields : List (ℕ × ℕ)) :
    (writeFields bytes cursor fields).length = bytes.length := by
  induction fields generalizing bytes cursor with
  | nil => rfl
  | cons field rest ih =>
    obtain ⟨value, width⟩ := field
    rw [writeFields, ih, length_writeBits]

theorem getBit_writeFields_of_lt {bytes : List UInt8} {cursor : ℕ} {fields : List (ℕ × ℕ)}
    (hroom : cursor + (fields.map Prod.snd).sum ≤ 8 * bytes.length) {j : ℕ} (hj : j < cursor) :
    getBit (writeFields bytes cursor fields) j = getBit bytes j := by
  induction fields generalizing bytes cursor with
  | nil => rfl
  | cons field rest ih =>
    obtain ⟨value, width⟩ := field
    rw [List.map_cons, List.sum_cons] at hroom
    have hout : ¬ (cursor ≤ j ∧ j < cursor + width) := by omega
    rw [writeFields, ih (by rw [length_writeBits]; omega) (by omega), getBit_writeBits (by omega)]
    simp [hout]

theorem readFields_writeFields {bytes : List UInt8} {cursor : ℕ} {fields : List (ℕ × ℕ)}
    (hroom : cursor + (fields.map Prod.snd).sum ≤ 8 * bytes.length)
    (hclear : ClearFrom bytes cursor) (hfits : ∀ field ∈ fields, field.1 < 2 ^ field.2) :
    readFields (writeFields bytes cursor fields) cursor (fields.map Prod.snd) =
      fields.map Prod.fst := by
  induction fields generalizing bytes cursor with
  | nil => rfl
  | cons field rest ih =>
    obtain ⟨value, width⟩ := field
    rw [List.map_cons, List.sum_cons] at hroom
    have hvalue : value < 2 ^ width := hfits (value, width) (by simp)
    have hrest : cursor + width + (rest.map Prod.snd).sum ≤
        8 * (writeBits bytes cursor value width).length := by
      rw [length_writeBits]
      omega
    have hhead : readBits (writeFields bytes cursor ((value, width) :: rest)) cursor width =
        value := by
      calc readBits (writeFields bytes cursor ((value, width) :: rest)) cursor width
          = readBits (writeBits bytes cursor value width) cursor width := by
            apply readBits_congr
            intro i hi
            exact getBit_writeFields_of_lt hrest (by omega)
        _ = value := readBits_writeBits (by omega) hclear hvalue
    rw [List.map_cons, List.map_cons, readFields, hhead, writeFields]
    rw [ih hrest (clearFrom_writeBits (by omega) hclear value)
      (fun f hf => hfits f (by simp [hf]))]

end FluxPurr.Wire
