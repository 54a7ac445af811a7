import FluxPurr.Wire.JsonRoundTrip
import Mathlib.Data.Vector.Basic

/-!
# Values as JSON

A type that is written and read through its derived implementations is a `Serde` instance.
`FaithfulSerde` is the assumption under which such an implementation can be relied on:
what it writes it reads again.  A value that may stand in an optional field is besides never
written as `null` (`NonNullSerde`), for `null` is read as an absent field.

An object is written field by field, leaving out what is `None` (`optionalField`), and read
by name (`readField`): names that the reader does not know are skipped, one that it knows
may occur only once.
-/

namespace FluxPurr.Wire

open Json

/-! ## Numbers -/

namespace Json

variable (n : ℕ)

def ofNat : Json := number n.repr

def ofInt (i : ℤ) : Json := if i < 0 then number ("-" ++ i.natAbs.repr) else ofNat i.toNat

def digitsToNat? (digits : List Char) : Option ℕ :=
  if digits ≠ [] ∧ digits.all Char.isDigit then some (Nat.ofDigitChars 10 digits 0) else none

def toNat? : Json → Option ℕ
  | number literal => digitsToNat? literal.toList
  | _ => none

def toInt? : Json → Option ℤ
  | number literal =>
      match literal.toList with
      | '-' :: digits => (digitsToNat? digits).map fun n : ℕ => -(n : ℤ)
      | digits => (digitsToNat? digits).map fun n : ℕ => (n : ℤ)
  | _ => none

theorem all_isDigit_repr : n.repr.toList.all Char.isDigit = true := by
  rw [Nat.toList_repr, List.all_eq_true]
  exact fun c hc => Nat.isDigit_of_mem_toDigits (by decide) (by decide) hc

theorem repr_ne_nil : n.repr.toList ≠ [] := by
  rw [Nat.toList_repr]
  exact Nat.toDigits_ne_nil

theorem digitsToNat?_repr : digitsToNat? n.repr.toList = some n := by
  rw [digitsToNat?, if_pos ⟨repr_ne_nil n, all_isDigit_repr n⟩, Nat.toList_repr,
    Nat.ofDigitChars_ten_toDigits]

@[simp] theorem toNat?_ofNat : (ofNat n).toNat? = some n := digitsToNat?_repr n

@[simp] theorem toInt?_ofInt (i : ℤ) : (ofInt i).toInt? = some i := by
  by_cases hneg : i < 0
  · have htext : ("-" ++ i.natAbs.repr).toList = '-' :: i.natAbs.repr.toList := by simp
    simp only [ofInt, if_pos hneg, toInt?, htext, digitsToNat?_repr, Option.map_some]
    congr 1
    omega
  · simp only [ofInt, if_neg hneg, ofNat, toInt?]
    have hdigits := all_isDigit_repr i.toNat
    split
    · simp_all
    · rw [digitsToNat?_repr, Option.map_some, Int.toNat_of_nonneg (by omega)]

theorem toDigits_head {n : ℕ} (hn : 0 < n) :
    ∃ c digits, Nat.toDigits 10 n = c :: digits ∧ c ≠ '0' := by
  induction n using Nat.strongRecOn with
  | ind n ih =>
    by_cases hsmall : n < 10
    · refine ⟨_, [], Nat.toDigits_of_lt_base hsmall, ?_⟩
      have hdigit : ∀ d < 10, 0 < d → d.digitChar ≠ '0' := by decide
      exact hdigit n hsmall hn
    · obtain ⟨c, digits, hdigits, hc⟩ := ih (n / 10) (by omega) (by omega)
      refine ⟨c, digits ++ [(n % 10).digitChar], ?_, hc⟩
      rw [Nat.toDigits_of_base_le (by decide) (by omega), hdigits, List.cons_append]

theorem isMagnitude_repr : isMagnitude n.repr.toList = true := by
  have hdigits := all_isDigit_repr n
  by_cases hn : n = 0
  · subst hn
    decide
  · obtain ⟨c, digits, heq, hc⟩ := toDigits_head (Nat.pos_of_ne_zero hn)
    rw [Nat.toList_repr, heq] at hdigits ⊢
    simp only [List.all_cons, Bool.and_eq_true, List.all_eq_true] at hdigits
    have hdrop : digits.dropWhile Char.isDigit = [] := List.dropWhile_eq_nil_iff.mpr hdigits.2
    rw [isMagnitude.eq_2 _ _ hc, hdigits.1, hdrop]
    rfl

theorem all_isNumberChar_repr : n.repr.toList.all isNumberChar = true := by
  have hdigits := all_isDigit_repr n
  rw [List.all_eq_true] at hdigits ⊢
  intro c hc
  simp [isNumberChar, hdigits c hc]

theorem isNumber_of_isMagnitude {text : List Char} (h : isMagnitude text = true) :
    isNumber text = true := by
  unfold isNumber
  split
  · simp [isMagnitude] at h
  · exact h

theorem isNumberLiteral_repr : isNumberLiteral n.repr = true := by
  rw [isNumberLiteral, isNumber_of_isMagnitude (isMagnitude_repr n), all_isNumberChar_repr,
    Bool.and_self]

theorem isNumberLiteral_neg_repr : isNumberLiteral ("-" ++ n.repr) = true := by
  have htext : ("-" ++ n.repr).toList = '-' :: n.repr.toList := by simp
  rw [isNumberLiteral, htext, isNumber, isMagnitude_repr, List.all_cons, all_isNumberChar_repr]
  rfl

end Json

/-! ## Instances -/

class Serde (α : Type*) where
  serialize : α → Json
  deserialize : Json → Option α

export Serde (serialize deserialize)

/-- What is written is read again. -/
class FaithfulSerde (α : Type*) [Serde α] : Prop where
  deserialize_serialize (a : α) : deserialize (serialize a) = some a
  numbersValid_serialize (a : α) : (serialize a).numbersValid = true

/-- No value is written as `null`. -/
class NonNullSerde (α : Type*) [Serde α] : Prop where
  serialize_ne_null (a : α) : serialize a ≠ Json.null

export FaithfulSerde (deserialize_serialize numbersValid_serialize)
export NonNullSerde (serialize_ne_null)

attribute [simp] FaithfulSerde.deserialize_serialize FaithfulSerde.numbersValid_serialize
  NonNullSerde.serialize_ne_null

instance : Serde Bool where
  serialize := Json.bool
  deserialize
    | .bool value => some value
    | _ => none

instance : FaithfulSerde Bool := ⟨fun _ => rfl, fun _ => rfl⟩

instance : NonNullSerde Bool := ⟨nofun⟩

theorem numbersValid_ofNat (n : ℕ) : (Json.ofNat n).numbersValid = true := isNumberLiteral_repr n

theorem numbersValid_ofInt (i : ℤ) : (Json.ofInt i).numbersValid = true := by
  rw [ofInt]
  split
  · exact isNumberLiteral_neg_repr _
  · exact numbersValid_ofNat _

theorem ofInt_ne_null (i : ℤ) : Json.ofInt i ≠ Json.null := by
  rw [ofInt]
  split <;> exact nofun

instance : Serde UInt8 where
  serialize n := Json.ofNat n.toNat
  deserialize json := json.toNat?.bind fun n =>
    if h : n < 2 ^ 8 then some (.ofNatLT n h) else none

instance : FaithfulSerde UInt8 where
  deserialize_serialize n := by
    simp only [serialize, deserialize, toNat?_ofNat, Option.bind_some]
    rw [dif_pos n.toNat_lt, UInt8.ofNatLT_toNat]
  numbersValid_serialize n := numbersValid_ofNat _

instance : NonNullSerde UInt8 := ⟨nofun⟩

instance : Serde UInt16 where
  serialize n := Json.ofNat n.toNat
  deserialize json := json.toNat?.bind fun n =>
    if h : n < 2 ^ 16 then some (.ofNatLT n h) else none

instance : FaithfulSerde UInt16 where
  deserialize_serialize n := by
    simp only [serialize, deserialize, toNat?_ofNat, Option.bind_some]
    rw [dif_pos n.toNat_lt, UInt16.ofNatLT_toNat]
  numbersValid_serialize n := numbersValid_ofNat _

instance : NonNullSerde UInt16 := ⟨nofun⟩

instance : Serde UInt32 where
  serialize n := Json.ofNat n.toNat
  deserialize json := json.toNat?.bind fun n =>
    if h : n < 2 ^ 32 then some (.ofNatLT n h) else none

instance : FaithfulSerde UInt32 where
  deserialize_serialize n := by
    simp only [serialize, deserialize, toNat?_ofNat, Option.bind_some]
    rw [dif_pos n.toNat_lt, UInt32.ofNatLT_toNat]
  numbersValid_serialize n := numbersValid_ofNat _

instance : NonNullSerde UInt32 := ⟨nofun⟩

instance : Serde Int16 where
  serialize i := Json.ofInt i.toInt
  deserialize json := json.toInt?.bind fun i =>
    if -2 ^ 15 ≤ i ∧ i < 2 ^ 15 then some (.ofInt i) else none

instance : FaithfulSerde Int16 where
  deserialize_serialize i := by
    have hlow := i.le_toInt
    have hhigh := i.toInt_lt
    simp only [serialize, deserialize, toInt?_ofInt, Option.bind_some]
    rw [if_pos ⟨hlow, hhigh⟩, Int16.ofInt_toInt]
  numbersValid_serialize i := numbersValid_ofInt _

instance : NonNullSerde Int16 := ⟨fun _ => ofInt_ne_null _⟩

/-! ### Optional values and collections -/

section

variable {α : Type*} [Serde α]

/-- As an item of an array; a field of an object is left out instead. -/
instance : Serde (Option α) where
  serialize
    | some a => serialize a
    | none => .null
  deserialize
    | .null => some none
    | json => (deserialize json).map some

theorem deserialize_some [NonNullSerde α] [FaithfulSerde α] (a : α) :
    (deserialize (serialize a) : Option (Option α)) = some (some a) := by
  simp [deserialize]

instance [FaithfulSerde α] [NonNullSerde α] : FaithfulSerde (Option α) where
  deserialize_serialize
    | some a => deserialize_some a
    | none => rfl
  numbersValid_serialize
    | some a => numbersValid_serialize a
    | none => rfl

theorem mapM_deserialize [FaithfulSerde α] (items : List α) :
    (items.map serialize).mapM deserialize = some items := by
  induction items with
  | nil => rfl
  | cons a items ih => simp [ih]

theorem allItems_serialize [FaithfulSerde α] (items : List α) :
    allItems isNumberLiteral (fun _ => true) (items.map serialize) = true := by
  induction items with
  | nil => rfl
  | cons a items ih =>
    rw [List.map_cons, allItems, Bool.and_eq_true]
    exact ⟨numbersValid_serialize a, ih⟩

instance (n : ℕ) : Serde (Vector α n) where
  serialize items := .array (items.toList.map serialize)
  deserialize
    | .array items => (items.mapM deserialize).bind fun items =>
        if h : items.length = n then some ⟨items.toArray, h⟩ else none
    | _ => none

instance (n : ℕ) [FaithfulSerde α] : FaithfulSerde (Vector α n) where
  deserialize_serialize items := by
    simp only [serialize, deserialize, mapM_deserialize, Option.bind_some]
    rw [dif_pos items.length_toList]
    rfl
  numbersValid_serialize items := allItems_serialize items.toList

instance (n : ℕ) : NonNullSerde (Vector α n) := ⟨nofun⟩

/-- `heapless::Vec<α, cap>`. -/
structure BoundedVec (α : Type*) (cap : ℕ) where
  items : List α
  fits : items.length ≤ cap
deriving DecidableEq

instance (cap : ℕ) : Serde (BoundedVec α cap) where
  serialize vec := .array (vec.items.map serialize)
  deserialize
    | .array items => (items.mapM deserialize).bind fun items =>
        if h : items.length ≤ cap then some ⟨items, h⟩ else none
    | _ => none

instance (cap : ℕ) [FaithfulSerde α] : FaithfulSerde (BoundedVec α cap) where
  deserialize_serialize vec := by
    simp only [serialize, deserialize, mapM_deserialize, Option.bind_some]
    rw [dif_pos vec.fits]
  numbersValid_serialize vec := allItems_serialize vec.items

instance (cap : ℕ) : NonNullSerde (BoundedVec α cap) := ⟨nofun⟩

end

/-! ### Enumerations -/

/-- The values of an enumeration go by their names. -/
abbrev enumerationSerde {α : Type*} (name : α → String) (values : List α) : Serde α where
  serialize a := .string (name a)
  deserialize
    | .string text => values.find? fun a => name a = text
    | _ => none

/-! ## Objects -/

section

variable {α : Type*} [Serde α] (name : String) (names : List String)

/-- The field of an `Option` that is left out when it is `None`. -/
def optionalField (value : Option α) : List (String × Json) :=
  value.toList.map fun a => (name, serialize a)

variable (fields : List (String × Json))

/-- The fields with one of the `names`. -/
def selected : List (String × Json) := fields.filter fun field => field.1 ∈ names

/-- The value of a field that may not be there twice. -/
def onlyValue : List (String × Json) → Option (Option Json)
  | [] => some none
  | [field] => some (some field.2)
  | _ => none

def readOnly : Option (Option α) :=
  (onlyValue fields).bind fun value =>
    match value with
    | none => some none
    | some json => deserialize json

/-- A field of type `Option<α>`: absent and `null` are both `None`. -/
def readField : Option (Option α) := readOnly (selected names fields)

/-- A field of any other type, which has to be there. -/
def requiredField : Option α :=
  (onlyValue (selected names fields)).bind fun value => value.bind deserialize

/-- A field of type `Option<Option<α>>` with `default`: absent leaves it out, `null` clears
it. -/
def readPatch : Option (Option (Option α)) :=
  (onlyValue (selected names fields)).bind fun value =>
    match value with
    | none => some none
    | some json => (deserialize json).map some

@[simp] theorem optionalField_none : optionalField name (none : Option α) = [] := rfl

@[simp] theorem selected_nil : selected names [] = [] := rfl

@[simp] theorem selected_cons (name : String) (value : Json) (fields : List (String × Json)) :
    selected names ((name, value) :: fields) =
      if name ∈ names then (name, value) :: selected names fields else selected names fields := by
  simp [selected, List.filter_cons]

@[simp] theorem selected_append (first second : List (String × Json)) :
    selected names (first ++ second) = selected names first ++ selected names second :=
  List.filter_append ..

@[simp] theorem selected_optionalField (name : String) (value : Option α) :
    selected names (optionalField name value) =
      if name ∈ names then optionalField name value else [] := by
  cases value with
  | none => simp
  | some a => simp [optionalField, selected_cons]

@[simp] theorem readField_eq :
    (readField names fields : Option (Option α)) = readOnly (selected names fields) := rfl

@[simp] theorem readOnly_nil : (readOnly [] : Option (Option α)) = some none := rfl

@[simp] theorem onlyValue_optionalField (value : Option α) :
    onlyValue (optionalField name value) = some (value.map serialize) := by
  cases value <;> rfl

@[simp] theorem readOnly_optionalField [FaithfulSerde α] [NonNullSerde α]
    (value : Option α) : readOnly (optionalField name value) = some value := by
  cases value with
  | none => rfl
  | some a => exact deserialize_some a

theorem requiredField_eq [FaithfulSerde α] {names : List String} {name : String}
    {fields : List (String × Json)} {a : α}
    (h : selected names fields = [(name, serialize a)]) :
    requiredField names fields = some a := by
  rw [requiredField, h]
  exact deserialize_serialize a

theorem readPatch_eq [FaithfulSerde α] [NonNullSerde α] {names : List String}
    {fields : List (String × Json)} {value : Option (Option α)}
    (h : selected names fields = optionalField name value) :
    readPatch names fields = some value := by
  rw [readPatch, h, onlyValue_optionalField]
  cases value with
  | none => rfl
  | some a => simp

@[simp] theorem all_serialize [FaithfulSerde α] (a : α) :
    Json.all isNumberLiteral (fun _ => true) (serialize a) = true := numbersValid_serialize a

@[simp] theorem allFields_append (onNumber onText : String → Bool)
    (first second : List (String × Json)) :
    allFields onNumber onText (first ++ second) =
      (allFields onNumber onText first && allFields onNumber onText second) := by
  induction first with
  | nil => rfl
  | cons field first ih => simp [allFields, ih, Bool.and_assoc]

@[simp] theorem allFields_optionalField [FaithfulSerde α] (value : Option α) :
    allFields isNumberLiteral (fun _ => true) (optionalField name value) = true := by
  cases value with
  | none => rfl
  | some a => simp [optionalField, allFields]

theorem numbersValid_object :
    (Json.object fields).numbersValid = allFields isNumberLiteral (fun _ => true) fields := rfl

end

end FluxPurr.Wire
