import Mathlib.Data.List.AList

/-!
# Finite maps

A map with finitely many keys, each with one value.  Its entries stand in some order, on
which nothing depends: every lemma here is about `lookup`.
-/

namespace FluxPurr.Collections

/-- The entries of the map have different keys. -/
abbrev HashMap (Key Value : Type*) := AList fun _ : Key => Value

namespace HashMap

variable {Key Value : Type*} (map : HashMap Key Value)

/-- The values, one for each key. -/
def values : List Value := map.entries.map Sigma.snd

/-- Keeps the entries that pass a test. -/
def retain (keep : Key → Value → Bool) (map : HashMap Key Value) : HashMap Key Value where
  entries := map.entries.filter fun entry => keep entry.1 entry.2
  nodupKeys := map.nodupKeys.sublist List.filter_sublist

/-- Changes every value. -/
def mapValues (f : Value → Value) (map : HashMap Key Value) : HashMap Key Value where
  entries := map.entries.map fun entry => ⟨entry.1, f entry.2⟩
  nodupKeys := by
    have hkeys : List.keys (map.entries.map fun entry : (_ : Key) × Value =>
        (⟨entry.1, f entry.2⟩ : (_ : Key) × Value)) = map.entries.keys := by
      rw [List.keys, List.map_map]
      rfl
    rw [List.NodupKeys, hkeys]
    exact map.nodupKeys

variable [DecidableEq Key]

/-- Changes the value under a key, if there is one. -/
def modify (key : Key) (f : Value → Value) (map : HashMap Key Value) : HashMap Key Value :=
  match map.lookup key with
  | some value => map.insert key (f value)
  | none => map

@[simp] theorem lookup_retain (keep : Key → Value → Bool) (map : HashMap Key Value) (key : Key) :
    (map.retain keep).lookup key = (map.lookup key).filter (keep key) := by
  ext value
  rw [← Option.mem_def, AList.mem_lookup_iff, retain, List.mem_filter, ← AList.mem_lookup_iff,
    Option.mem_def, Option.filter_eq_some_iff]

@[simp] theorem lookup_mapValues (f : Value → Value) (map : HashMap Key Value) (key : Key) :
    (map.mapValues f).lookup key = (map.lookup key).map f := by
  ext value
  rw [← Option.mem_def, AList.mem_lookup_iff, mapValues, Option.map_eq_some_iff]
  simp only [List.mem_map, Sigma.exists, Sigma.mk.injEq, heq_eq_eq, ← AList.mem_lookup_iff,
    Option.mem_def]
  constructor
  · rintro ⟨key', value', h, rfl, rfl⟩
    exact ⟨value', h, rfl⟩
  · rintro ⟨value', h, rfl⟩
    exact ⟨key, value', h, rfl, rfl⟩

theorem lookup_insert_eq (key other : Key) (value : Value) :
    (map.insert key value).lookup other = if other = key then some value else map.lookup other := by
  split
  · rename_i h
    rw [h, AList.lookup_insert]
  · rename_i h
    exact AList.lookup_insert_ne h

theorem lookup_erase_eq (key other : Key) :
    (map.erase key).lookup other = if other = key then none else map.lookup other := by
  split
  · rename_i h
    rw [h, AList.lookup_erase]
  · rename_i h
    exact AList.lookup_erase_ne h

theorem lookup_modify (key other : Key) (f : Value → Value) (map : HashMap Key Value) :
    (map.modify key f).lookup other =
      if other = key then (map.lookup key).map f else map.lookup other := by
  unfold modify
  split
  · rename_i value h
    rw [lookup_insert_eq, h, Option.map_some]
  · rename_i h
    split
    · rename_i heq
      rw [heq, h, Option.map_none]
    · rfl

end HashMap

end FluxPurr.Collections
