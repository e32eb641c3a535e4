import HamLogger.Library.KeyMap
import Mathlib.Data.List.Induction

/-! Maps that hold every value under its own key, such as records by their
identifiers. A set is a catalog whose values are their own keys. -/
namespace HamLogger

/-- A map from keys to values that has each value under the key of the value. -/
structure Catalog {Key Value : Type} [DecidableEq Key] (keyOf : Value → Key) where
  map : KeyMap Key Value
  keyed : ∀ key value, map.lookup key = some value → keyOf value = key

namespace Catalog
variable {Key Value : Type} [DecidableEq Key] {keyOf : Value → Key}

def empty : Catalog keyOf := ⟨∅, fun _ _ h => by cases h⟩

instance catalogEmptyCollection : EmptyCollection (Catalog keyOf) := ⟨empty⟩

def lookup (catalog : Catalog keyOf) (key : Key) : Option Value := catalog.map.lookup key

/-- The stored values, in no meaningful order. -/
def values (catalog : Catalog keyOf) : List Value := catalog.map.values

def contains (catalog : Catalog keyOf) (key : Key) : Bool := (catalog.lookup key).isSome

def isEmpty (catalog : Catalog keyOf) : Bool := catalog.values.isEmpty

def insert (catalog : Catalog keyOf) (value : Value) : Catalog keyOf where
  map := catalog.map.insert (keyOf value) value
  keyed := by
    intro key found h
    rw [KeyMap.lookup_insert_eq_ite] at h
    split at h
    · next hSame => rw [← Option.some.inj h, hSame]
    · exact catalog.keyed key found h

def insertAll (catalog : Catalog keyOf) (values : List Value) : Catalog keyOf :=
  values.foldl insert catalog

/-- Change the value of a key that is present, which keeps its key. -/
def modify (catalog : Catalog keyOf) (key : Key) (change : Value → Value)
    (hKey : ∀ value, keyOf (change value) = keyOf value) : Catalog keyOf where
  map := KeyMap.modify catalog.map key change
  keyed := KeyMap.forall_modify catalog.keyed fun old hOld =>
    (hKey old).trans (catalog.keyed key old hOld)

/-- Change every value, and no key. -/
def mapValues (catalog : Catalog keyOf) (change : Value → Value)
    (hKey : ∀ value, keyOf (change value) = keyOf value) : Catalog keyOf where
  map := KeyMap.mapValues catalog.map change
  keyed := by
    intro key value h
    rw [KeyMap.lookup_mapValues] at h
    obtain ⟨old, hOld, rfl⟩ := Option.map_eq_some_iff.mp h
    exact (hKey old).trans (catalog.keyed key old hOld)

def erase (catalog : Catalog keyOf) (key : Key) : Catalog keyOf where
  map := catalog.map.erase key
  keyed := by
    intro other value h
    by_cases hSame : other = key
    · rw [hSame, AList.lookup_erase] at h
      cases h
    · rw [AList.lookup_erase_ne hSame] at h
      exact catalog.keyed other value h

theorem keyOf_of_lookup {catalog : Catalog keyOf} {key : Key} {value : Value}
    (h : catalog.lookup key = some value) : keyOf value = key :=
  catalog.keyed key value h

@[simp] theorem lookup_empty (key : Key) : (∅ : Catalog keyOf).lookup key = none := rfl

@[simp] theorem values_empty : (∅ : Catalog keyOf).values = [] := rfl

@[simp] theorem lookup_insert (catalog : Catalog keyOf) (value : Value) (key : Key) :
    (catalog.insert value).lookup key =
      if key = keyOf value then some value else catalog.lookup key :=
  KeyMap.lookup_insert_eq_ite catalog.map (keyOf value) key value

@[simp] theorem lookup_modify (catalog : Catalog keyOf) (key other : Key)
    (change : Value → Value) (hKey : ∀ value, keyOf (change value) = keyOf value) :
    (catalog.modify key change hKey).lookup other =
      if other = key then (catalog.lookup key).map change else catalog.lookup other :=
  KeyMap.lookup_modify catalog.map key other change

@[simp] theorem lookup_mapValues (catalog : Catalog keyOf) (change : Value → Value)
    (hKey : ∀ value, keyOf (change value) = keyOf value) (key : Key) :
    (catalog.mapValues change hKey).lookup key = (catalog.lookup key).map change :=
  KeyMap.lookup_mapValues catalog.map change key

/-- Changing a value is putting the changed one in its place. -/
theorem modify_eq_insert {catalog : Catalog keyOf} {key : Key} {change : Value → Value}
    {hKey : ∀ value, keyOf (change value) = keyOf value} {value : Value}
    (h : catalog.lookup key = some value) :
    catalog.modify key change hKey = catalog.insert (change value) := by
  have hSame : keyOf (change value) = key := (hKey value).trans (keyOf_of_lookup h)
  have hMap : KeyMap.modify catalog.map key change = catalog.map.insert key (change value) := by
    unfold KeyMap.modify
    unfold lookup at h
    rw [h]
  simp only [modify, insert, hMap, hSame]

/-- A value is stored where its key says. -/
theorem mem_values {catalog : Catalog keyOf} {value : Value} :
    value ∈ catalog.values ↔ catalog.lookup (keyOf value) = some value := by
  refine KeyMap.mem_values.trans ?_
  constructor
  · intro h
    obtain ⟨key, hLookup⟩ := h
    rw [catalog.keyed key value hLookup]
    exact hLookup
  · intro h
    exact ⟨keyOf value, h⟩

theorem mem_values_of_lookup {catalog : Catalog keyOf} {key : Key} {value : Value}
    (h : catalog.lookup key = some value) : value ∈ catalog.values := by
  rw [mem_values, keyOf_of_lookup h, h]

theorem mem_values_insert {catalog : Catalog keyOf} {value other : Value} :
    other ∈ (catalog.insert value).values ↔
      other = value ∨ (other ∈ catalog.values ∧ keyOf other ≠ keyOf value) := by
  rw [mem_values, lookup_insert, mem_values]
  by_cases hKey : keyOf other = keyOf value
  · rw [if_pos hKey]
    constructor
    · intro h
      exact Or.inl (Option.some.inj h).symm
    · intro h
      rcases h with hSame | hOther
      · rw [hSame]
      · exact absurd hKey hOther.2
  · rw [if_neg hKey]
    constructor
    · intro h
      exact Or.inr ⟨h, hKey⟩
    · intro h
      rcases h with hSame | hOther
      · exact absurd (congrArg keyOf hSame) hKey
      · exact hOther.1

theorem mem_values_mapValues {catalog : Catalog keyOf} {change : Value → Value}
    {hKey : ∀ value, keyOf (change value) = keyOf value} {value : Value} :
    value ∈ (catalog.mapValues change hKey).values ↔
      ∃ old ∈ catalog.values, change old = value := by
  rw [mem_values, lookup_mapValues, Option.map_eq_some_iff]
  constructor
  · intro h
    obtain ⟨old, hOld, rfl⟩ := h
    refine ⟨old, ?_, rfl⟩
    rw [hKey] at hOld
    exact mem_values.mpr hOld
  · intro h
    obtain ⟨old, hOld, rfl⟩ := h
    exact ⟨old, by rw [hKey]; exact mem_values.mp hOld, rfl⟩

/-- Values with keys of their own are all there after they were inserted. -/
theorem mem_values_insertAll {values : List Value} (h : (values.map keyOf).Nodup)
    {value : Value} : value ∈ ((∅ : Catalog keyOf).insertAll values).values ↔ value ∈ values := by
  induction values using List.reverseRecOn with
  | nil => rfl
  | append_singleton values last ih =>
      rw [List.map_append, List.nodup_append] at h
      rw [insertAll, List.foldl_append]
      refine mem_values_insert.trans ?_
      rw [List.mem_append, List.mem_singleton]
      constructor
      · intro hMem
        rcases hMem with hLast | hEarly
        · exact Or.inr hLast
        · exact Or.inl ((ih h.1).mp hEarly.1)
      · intro hMem
        rcases hMem with hEarly | hLast
        · refine Or.inr ⟨(ih h.1).mpr hEarly, ?_⟩
          exact h.2.2 _ (List.mem_map_of_mem hEarly) _ (by simp)
        · exact Or.inl hLast

theorem nodup_keys (catalog : Catalog keyOf) : (catalog.values.map keyOf).Nodup := by
  have hKeys : catalog.values.map keyOf = catalog.map.keys := by
    simp only [values, KeyMap.values, List.map_map, AList.keys, List.keys]
    refine List.map_congr_left fun entry hEntry => ?_
    exact catalog.keyed entry.1 entry.2 (AList.mem_lookup_iff.mpr hEntry)
  rw [hKeys]
  exact catalog.map.nodupKeys

/-- The values have keys of their own under every injective coding of keys. -/
theorem nodup_identified {Id : Type} (catalog : Catalog keyOf) {identify : Key → Id}
    (h : Function.Injective identify) :
    (catalog.values.map fun value => identify (keyOf value)).Nodup := by
  have hMap := catalog.nodup_keys.map h
  rw [List.map_map] at hMap
  exact hMap

theorem insertAll_append (catalog : Catalog keyOf) (values : List Value) (last : Value) :
    catalog.insertAll (values ++ [last]) = (catalog.insertAll values).insert last := by
  simp only [insertAll, List.foldl_append, List.foldl_cons, List.foldl_nil]

/-- Values are inserted after a change that keeps their keys. -/
theorem lookup_insertAll_map (catalog : Catalog keyOf) (change : Value → Value)
    (hKey : ∀ value, keyOf (change value) = keyOf value) (values : List Value) (key : Key) :
    (catalog.insertAll (values.map change)).lookup key =
      ((((∅ : Catalog keyOf).insertAll values).lookup key).map change).or
        (catalog.lookup key) := by
  induction values using List.reverseRecOn with
  | nil => rfl
  | append_singleton values last ih =>
      rw [List.map_append, List.map_singleton, insertAll_append, insertAll_append, lookup_insert,
        lookup_insert, hKey, ih]
      by_cases hSame : key = keyOf last
      · rw [if_pos hSame, if_pos hSame]
        rfl
      · rw [if_neg hSame, if_neg hSame]

/-- A value after changed values were inserted is one of them, or it was there
and its key is not among them. -/
theorem mem_values_insertAll_map {catalog : Catalog keyOf} (change : Value → Value)
    (hKey : ∀ value, keyOf (change value) = keyOf value) {values : List Value} {value : Value}
    (h : value ∈ (catalog.insertAll (values.map change)).values) :
    (∃ read ∈ ((∅ : Catalog keyOf).insertAll values).values, change read = value) ∨
      (value ∈ catalog.values ∧
        ((∅ : Catalog keyOf).insertAll values).lookup (keyOf value) = none) := by
  rw [mem_values, lookup_insertAll_map catalog change hKey] at h
  cases hRead : ((∅ : Catalog keyOf).insertAll values).lookup (keyOf value) with
  | none =>
      rw [hRead] at h
      exact Or.inr ⟨mem_values.mpr h, rfl⟩
  | some read =>
      rw [hRead] at h
      exact Or.inl ⟨read, mem_values_of_lookup hRead, Option.some.inj h⟩

/-- A catalog is rebuilt under a key that its own key is made of. -/
theorem mem_insertAll {Other : Type} [DecidableEq Other] {otherKey : Value → Other}
    (catalog : Catalog keyOf) (identify : Other → Key)
    (h : ∀ value, keyOf value = identify (otherKey value)) {value : Value} :
    value ∈ ((∅ : Catalog otherKey).insertAll catalog.values).values ↔ value ∈ catalog.values := by
  apply mem_values_insertAll
  have hKeys := catalog.nodup_keys
  rw [show catalog.values.map keyOf = (catalog.values.map otherKey).map identify by
    rw [List.map_map]
    exact List.map_congr_left fun value _ => h value] at hKeys
  exact hKeys.of_map identify

theorem isEmpty_iff {catalog : Catalog keyOf} : catalog.isEmpty = true ↔ catalog.values = [] :=
  List.isEmpty_iff

end Catalog
end HamLogger
