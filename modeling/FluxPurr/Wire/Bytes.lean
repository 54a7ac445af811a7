import Mathlib.Data.List.Basic
import Mathlib.Tactic.Ring
import Mathlib.Tactic.Linarith

/-!
# Little-endian byte strings

Numbers on the wire are little-endian: `leBytes width n` is the `width`-byte
form of `n`, and `ofLeBytes` reads a byte string back.  `readLe bytes offset
width` reads a field out of a longer record; a record is a concatenation of
fields, so the lemmas here say what a read at an offset sees when the record is
an append (`readLe_append_left`, `readLe_append_right`) or a run of
equally long chunks (`readLe_flatMap`).

A read past the end of a byte string yields the bytes that are there, padded
with zeros.  The programs that use these reads check the length first.
-/

namespace FluxPurr.Wire

variable (bytes : List UInt8) {left : List UInt8}

/-- Byte `index` of a record that is known to be long enough. -/
def byteAt (index : ℕ) : UInt8 := bytes.getD index 0

/-- The `width` little-endian bytes of `n`, truncating `n` to that width. -/
def leBytes : ℕ → ℕ → List UInt8
  | 0, _ => []
  | width + 1, n => UInt8.ofNat n :: leBytes width (n / 256)

/-- The number a little-endian byte string stands for. -/
def ofLeBytes : List UInt8 → ℕ
  | [] => 0
  | byte :: rest => byte.toNat + 256 * ofLeBytes rest

@[simp] theorem ofLeBytes_nil : ofLeBytes [] = 0 := rfl

@[simp] theorem ofLeBytes_cons (byte : UInt8) (rest : List UInt8) :
    ofLeBytes (byte :: rest) = byte.toNat + 256 * ofLeBytes rest := rfl

@[simp] theorem length_leBytes (width n : ℕ) : (leBytes width n).length = width := by
  induction width generalizing n with
  | zero => rfl
  | succ width ih => simp [leBytes, ih]

theorem ofLeBytes_leBytes (width n : ℕ) : ofLeBytes (leBytes width n) = n % 256 ^ width := by
  induction width generalizing n with
  | zero => simp [leBytes, Nat.mod_one]
  | succ width ih =>
    rw [leBytes, ofLeBytes_cons, ih]
    have hbyte : (UInt8.ofNat n).toNat = n % 256 := by simp
    rw [hbyte, pow_succ', Nat.mod_mul]

theorem ofLeBytes_leBytes_of_lt {width n : ℕ} (h : n < 256 ^ width) :
    ofLeBytes (leBytes width n) = n := by
  rw [ofLeBytes_leBytes, Nat.mod_eq_of_lt h]

theorem ofLeBytes_lt : ofLeBytes bytes < 256 ^ bytes.length := by
  induction bytes with
  | nil => simp
  | cons byte rest ih =>
    have hbyte : byte.toNat < 256 := byte.toNat_lt
    rw [ofLeBytes_cons, List.length_cons, pow_succ']
    omega

/-! ## Reading a field out of a record -/

/-- The little-endian number in the `width` bytes at `offset`. -/
def readLe (offset width : ℕ) : ℕ := ofLeBytes ((bytes.drop offset).take width)

theorem readLe_lt (offset width : ℕ) : readLe bytes offset width < 256 ^ width := by
  refine (ofLeBytes_lt _).trans_le (Nat.pow_le_pow_right (by norm_num) ?_)
  exact List.length_take_le _ _

theorem readLe_append_left {offset width : ℕ}
    (h : offset + width ≤ left.length) (right : List UInt8) :
    readLe (left ++ right) offset width = readLe left offset width := by
  unfold readLe
  rw [List.drop_append_of_le_length (by omega), List.take_append_of_le_length]
  rw [List.length_drop]
  omega

theorem readLe_append_right {offset : ℕ} (h : left.length ≤ offset)
    (right : List UInt8) (width : ℕ) :
    readLe (left ++ right) offset width = readLe right (offset - left.length) width := by
  unfold readLe
  rw [List.drop_append, List.drop_eq_nil_of_le h, List.nil_append]

theorem readLe_leBytes (width n : ℕ) (rest : List UInt8) :
    readLe (leBytes width n ++ rest) 0 width = n % 256 ^ width := by
  unfold readLe
  rw [List.drop_zero, List.take_append_of_le_length (by simp), List.take_of_length_le (by simp),
    ofLeBytes_leBytes]

/-- A field read inside one chunk of a run of equally long chunks sees only
that chunk. -/
theorem readLe_flatMap {α : Type*} {chunk : α → List UInt8} {size : ℕ}
    (hsize : ∀ item, (chunk item).length = size) (items : List α) {index : ℕ}
    (hindex : index < items.length) (offset width : ℕ) (h : offset + width ≤ size) :
    readLe (items.flatMap chunk) (size * index + offset) width =
      readLe (chunk items[index]) offset width := by
  induction items generalizing index with
  | nil => simp at hindex
  | cons head tail ih =>
    rw [List.flatMap_cons]
    cases index with
    | zero =>
      rw [Nat.mul_zero, Nat.zero_add, readLe_append_left (by rw [hsize]; exact h)]
      rfl
    | succ index =>
      have hskip : (chunk head).length ≤ size * (index + 1) + offset := by
        rw [hsize, Nat.mul_succ]
        omega
      rw [readLe_append_right hskip, hsize]
      have hoffset : size * (index + 1) + offset - size = size * index + offset := by
        rw [Nat.mul_succ]
        omega
      rw [hoffset, ih (by simpa using hindex)]
      rfl

theorem length_flatMap_chunk {α : Type*} {chunk : α → List UInt8} {size : ℕ}
    (hsize : ∀ item, (chunk item).length = size) (items : List α) :
    (items.flatMap chunk).length = size * items.length := by
  induction items with
  | nil => simp
  | cons head tail ih =>
    rw [List.flatMap_cons, List.length_append, hsize, ih, List.length_cons, Nat.mul_succ]
    omega

theorem readLe_drop (start offset width : ℕ) :
    readLe (bytes.drop start) offset width = readLe bytes (start + offset) width := by
  unfold readLe
  rw [List.drop_drop]

theorem exists_drop_flatMap_chunk {α : Type*} {chunk : α → List UInt8} {size : ℕ}
    (hsize : ∀ item, (chunk item).length = size) (items : List α) {index : ℕ}
    (hindex : index < items.length) (right : List UInt8) :
    ∃ rest, (items.flatMap chunk ++ right).drop (size * index) = chunk items[index] ++ rest := by
  induction items generalizing index with
  | nil => simp at hindex
  | cons head tail ih =>
    rw [List.flatMap_cons, List.append_assoc]
    cases index with
    | zero => exact ⟨tail.flatMap chunk ++ right, rfl⟩
    | succ index =>
      have hlt : index < tail.length := by simpa using hindex
      obtain ⟨rest, hrest⟩ := ih hlt
      refine ⟨rest, ?_⟩
      have hskip : size * (index + 1) = (chunk head).length + size * index := by
        rw [hsize, Nat.mul_succ, Nat.add_comm]
      rw [hskip, List.drop_append, List.drop_eq_nil_of_le (by omega), List.nil_append,
        Nat.add_sub_cancel_left, hrest]
      rfl

/-- A decoder at a cursor, applied to a run of equally long chunks, sees the chunk
the cursor points at. -/
theorem decode_flatMap_chunk {α β : Type*} {chunk : α → List UInt8} {size : ℕ}
    (decode : List UInt8 → ℕ → β) (stored : α → β)
    (hdrop : ∀ bytes cursor, decode bytes cursor = decode (bytes.drop cursor) 0)
    (hsize : ∀ item, (chunk item).length = size)
    (hstored : ∀ item rest, decode (chunk item ++ rest) 0 = stored item) (items : List α)
    {index : ℕ} (hindex : index < items.length) (right : List UInt8) :
    decode (items.flatMap chunk ++ right) (size * index) = stored items[index] := by
  obtain ⟨rest, hrest⟩ := exists_drop_flatMap_chunk hsize items hindex right
  rw [hdrop, hrest, hstored]

/-! ## Words of a fixed width -/

/-- `u16::to_le_bytes`. -/
def u16Le (value : UInt16) : List UInt8 := leBytes 2 value.toNat

/-- `u32::to_le_bytes`. -/
def u32Le (value : UInt32) : List UInt8 := leBytes 4 value.toNat

/-- `i16::to_le_bytes`: the two's complement bytes. -/
def i16Le (value : Int16) : List UInt8 := u16Le value.toUInt16

/-- `u16::from_le_bytes` of the two bytes at `offset`. -/
def readU16 (offset : ℕ) : UInt16 := UInt16.ofNat (readLe bytes offset 2)

/-- `u32::from_le_bytes` of the four bytes at `offset`. -/
def readU32 (offset : ℕ) : UInt32 := UInt32.ofNat (readLe bytes offset 4)

/-- `i16::from_le_bytes` of the two bytes at `offset`. -/
def readI16 (offset : ℕ) : Int16 := (readU16 bytes offset).toInt16

@[simp] theorem length_u16Le (value : UInt16) : (u16Le value).length = 2 := length_leBytes _ _

@[simp] theorem length_u32Le (value : UInt32) : (u32Le value).length = 4 := length_leBytes _ _

@[simp] theorem length_i16Le (value : Int16) : (i16Le value).length = 2 := length_leBytes _ _

@[simp] theorem readU16_cons (byte : UInt8) (rest : List UInt8) (offset : ℕ) :
    readU16 (byte :: rest) (offset + 1) = readU16 rest offset := rfl

@[simp] theorem readU32_cons (byte : UInt8) (rest : List UInt8) (offset : ℕ) :
    readU32 (byte :: rest) (offset + 1) = readU32 rest offset := rfl

@[simp] theorem readI16_cons (byte : UInt8) (rest : List UInt8) (offset : ℕ) :
    readI16 (byte :: rest) (offset + 1) = readI16 rest offset := rfl

theorem readU16_drop (start offset : ℕ) :
    readU16 (bytes.drop start) offset = readU16 bytes (start + offset) := by
  rw [readU16, readLe_drop, readU16]

theorem readU32_drop (start offset : ℕ) :
    readU32 (bytes.drop start) offset = readU32 bytes (start + offset) := by
  rw [readU32, readLe_drop, readU32]

theorem readI16_drop (start offset : ℕ) :
    readI16 (bytes.drop start) offset = readI16 bytes (start + offset) := by
  rw [readI16, readU16_drop, readI16]

theorem readU16_append_right {offset : ℕ} (h : left.length ≤ offset) (right : List UInt8) :
    readU16 (left ++ right) offset = readU16 right (offset - left.length) := by
  rw [readU16, readLe_append_right h, readU16]

theorem readU32_append_right {offset : ℕ} (h : left.length ≤ offset) (right : List UInt8) :
    readU32 (left ++ right) offset = readU32 right (offset - left.length) := by
  rw [readU32, readLe_append_right h, readU32]

@[simp] theorem readU16_u16Le (value : UInt16) (rest : List UInt8) :
    readU16 (u16Le value ++ rest) 0 = value := by
  have hvalue : value.toNat < 256 ^ 2 := value.toNat_lt
  rw [readU16, u16Le, readLe_leBytes, Nat.mod_eq_of_lt hvalue]
  exact UInt16.ofNat_toNat

@[simp] theorem readU32_u32Le (value : UInt32) (rest : List UInt8) :
    readU32 (u32Le value ++ rest) 0 = value := by
  have hvalue : value.toNat < 256 ^ 4 := value.toNat_lt
  rw [readU32, u32Le, readLe_leBytes, Nat.mod_eq_of_lt hvalue]
  exact UInt32.ofNat_toNat

@[simp] theorem readI16_i16Le (value : Int16) (rest : List UInt8) :
    readI16 (i16Le value ++ rest) 0 = value := by
  rw [readI16, i16Le, readU16_u16Le]
  exact Int16.toInt16_toUInt16 value

theorem readU16_words (a b c d : UInt16) (rest : List UInt8) :
    readU16 (u16Le a ++ (u16Le b ++ (u16Le c ++ (u16Le d ++ rest)))) 0 = a ∧
    readU16 (u16Le a ++ (u16Le b ++ (u16Le c ++ (u16Le d ++ rest)))) 2 = b ∧
    readU16 (u16Le a ++ (u16Le b ++ (u16Le c ++ (u16Le d ++ rest)))) 4 = c ∧
    readU16 (u16Le a ++ (u16Le b ++ (u16Le c ++ (u16Le d ++ rest)))) 6 = d := by
  refine ⟨readU16_u16Le _ _, ?_, ?_, ?_⟩
  · rw [readU16_append_right (by simp), length_u16Le, readU16_u16Le]
  · rw [readU16_append_right (by simp), length_u16Le, readU16_append_right (by simp),
      length_u16Le, readU16_u16Le]
  · rw [readU16_append_right (by simp), length_u16Le, readU16_append_right (by simp),
      length_u16Le, readU16_append_right (by simp), length_u16Le, readU16_u16Le]

theorem readU32_words (a b c d : UInt32) (rest : List UInt8) :
    readU32 (u32Le a ++ (u32Le b ++ (u32Le c ++ (u32Le d ++ rest)))) 0 = a ∧
    readU32 (u32Le a ++ (u32Le b ++ (u32Le c ++ (u32Le d ++ rest)))) 4 = b ∧
    readU32 (u32Le a ++ (u32Le b ++ (u32Le c ++ (u32Le d ++ rest)))) 8 = c ∧
    readU32 (u32Le a ++ (u32Le b ++ (u32Le c ++ (u32Le d ++ rest)))) 12 = d := by
  refine ⟨readU32_u32Le _ _, ?_, ?_, ?_⟩
  · rw [readU32_append_right (by simp), length_u32Le, readU32_u32Le]
  · rw [readU32_append_right (by simp), length_u32Le, readU32_append_right (by simp),
      length_u32Le, readU32_u32Le]
  · rw [readU32_append_right (by simp), length_u32Le, readU32_append_right (by simp),
      length_u32Le, readU32_append_right (by simp), length_u32Le, readU32_u32Le]

end FluxPurr.Wire
