import Mathlib.Data.List.AList

/-! Finite maps as association lists with distinct keys. The library type is
`AList`; what is added is updating a present entry in place and rewriting
every value, the two operations a mutable map offers and `AList` does not. -/
namespace HamLogger

/-- A finite map from keys to values of one type. -/
abbrev KeyMap (Key Value : Type) := AList fun _ : Key => Value

namespace KeyMap
variable {Key Value : Type} [DecidableEq Key]

/-- Change the value of a key that is present; otherwise do nothing. -/
def modify (map : KeyMap Key Value) (key : Key) (change : Value → Value) : KeyMap Key Value :=
  match map.lookup key with
  | some value => map.insert key (change value)
  | none => map

/-- Rewrite every value, keeping the keys. -/
def mapValues (map : KeyMap Key Value) (change : Value → Value) : KeyMap Key Value :=
  ⟨map.entries.map (Sigma.map id fun _ value => change value),
    List.NodupKeys.map₂ (fun _ value => change value) map.entries map.nodupKeys⟩

/-- The stored values, in no meaningful order. -/
def values (map : KeyMap Key Value) : List Value :=
  map.entries.map Sigma.snd

/-- Keep the entries whose values pass a test. -/
def retain (map : KeyMap Key Value) (keep : Value → Bool) : KeyMap Key Value :=
  ⟨map.entries.filter fun entry => keep entry.2,
    map.nodupKeys.sublist List.filter_sublist⟩

theorem mem_values {map : KeyMap Key Value} {value : Value} :
    value ∈ map.values ↔ ∃ key, map.lookup key = some value := by
  simp only [values, List.mem_map]
  constructor
  · rintro ⟨⟨key, found⟩, hMem, rfl⟩
    exact ⟨key, AList.mem_lookup_iff.mpr hMem⟩
  · rintro ⟨key, hLookup⟩
    exact ⟨⟨key, value⟩, AList.mem_lookup_iff.mp hLookup, rfl⟩

theorem lookup_retain (map : KeyMap Key Value) (keep : Value → Bool) (key : Key) :
    (map.retain keep).lookup key = (map.lookup key).filter keep := by
  have hMem : ∀ value, value ∈ (map.retain keep).lookup key ↔
      value ∈ map.lookup key ∧ keep value = true := by
    intro value
    rw [AList.mem_lookup_iff, AList.mem_lookup_iff]
    simp [retain]
  cases hOld : map.lookup key with
  | none =>
      refine Option.eq_none_iff_forall_not_mem.mpr fun value hValue => ?_
      have hFound := ((hMem value).mp hValue).1
      rw [hOld] at hFound
      cases hFound
  | some value =>
      cases hKeep : keep value with
      | true =>
          have hFound : (map.retain keep).lookup key = some value := (hMem value).mpr ⟨hOld, hKeep⟩
          rw [hFound, Option.filter_some, if_pos hKeep]
      | false =>
          rw [Option.filter_some, if_neg (by simp [hKeep])]
          refine Option.eq_none_iff_forall_not_mem.mpr fun other hOther => ?_
          obtain ⟨hFound, hKept⟩ := (hMem other).mp hOther
          obtain rfl : value = other := Option.some.inj (hOld.symm.trans hFound)
          rw [hKeep] at hKept
          cases hKept

/-- Searching the values for one that has the key of its entry is looking the
key up. -/
theorem find?_values {map : KeyMap Key Value} (keyOf : Value → Key)
    (h : ∀ key value, map.lookup key = some value → keyOf value = key) (key : Key) :
    (map.values.find? fun value => keyOf value = key) = map.lookup key := by
  cases hFound : map.lookup key with
  | none =>
      refine List.find?_eq_none.mpr fun value hMem hKey => ?_
      obtain ⟨other, hOther⟩ := mem_values.mp hMem
      have hSame : other = key := (h other value hOther).symm.trans (of_decide_eq_true hKey)
      rw [hSame, hFound] at hOther
      cases hOther
  | some value =>
      have hSome : (map.values.find? fun value => keyOf value = key).isSome :=
        List.find?_isSome.mpr ⟨value, mem_values.mpr ⟨key, hFound⟩,
          decide_eq_true (h key value hFound)⟩
      obtain ⟨found, hSearch⟩ := Option.isSome_iff_exists.mp hSome
      obtain ⟨other, hOther⟩ := mem_values.mp (List.mem_of_find?_eq_some hSearch)
      have hTest := List.find?_some hSearch
      have hKey : keyOf found = key := of_decide_eq_true hTest
      have hSame : other = key := (h other found hOther).symm.trans hKey
      rw [hSame, hFound] at hOther
      rw [hSearch, hOther]

@[simp] theorem lookup_modify (map : KeyMap Key Value) (key other : Key)
    (change : Value → Value) :
    (modify map key change).lookup other =
      if other = key then (map.lookup key).map change else map.lookup other := by
  unfold modify
  split
  · rename_i value hValue
    by_cases h : other = key
    · subst h
      simp [hValue]
    · simp [h, AList.lookup_insert_ne h]
  · rename_i hNone
    by_cases h : other = key
    · subst h
      simp [hNone]
    · simp [h]

@[simp] theorem lookup_mapValues (map : KeyMap Key Value) (change : Value → Value)
    (key : Key) : (mapValues map change).lookup key = (map.lookup key).map change :=
  List.dlookup_map₂ key

@[simp] theorem mem_modify (map : KeyMap Key Value) (key other : Key)
    (change : Value → Value) : other ∈ modify map key change ↔ other ∈ map := by
  rw [← AList.lookup_isSome, ← AList.lookup_isSome, lookup_modify]
  by_cases h : other = key
  · subst h
    simp
  · simp [h]

@[simp] theorem mem_mapValues (map : KeyMap Key Value) (change : Value → Value)
    (key : Key) : key ∈ mapValues map change ↔ key ∈ map := by
  rw [← AList.lookup_isSome, ← AList.lookup_isSome, lookup_mapValues, Option.isSome_map]

theorem lookup_insert_eq_ite (map : KeyMap Key Value) (key other : Key) (value : Value) :
    (map.insert key value).lookup other = if other = key then some value else map.lookup other := by
  by_cases h : other = key
  · subst h
    simp
  · simp [h, AList.lookup_insert_ne h]

theorem forall_modify {map : KeyMap Key Value} {key : Key} {change : Value → Value}
    {Q : Key → Value → Prop}
    (hMap : ∀ other value, map.lookup other = some value → Q other value)
    (hChange : ∀ old, map.lookup key = some old → Q key (change old)) :
    ∀ other value, (modify map key change).lookup other = some value → Q other value := by
  intro other value hLookup
  rw [lookup_modify] at hLookup
  split at hLookup
  · next hSame =>
      obtain ⟨old, hOld, rfl⟩ := Option.map_eq_some_iff.mp hLookup
      rw [hSame]
      exact hChange old hOld
  · exact hMap other value hLookup

section Fallible
variable {Error : Type}

/-- Insert a value that is built by code that can fail. -/
def tryInsert (map : KeyMap Key Value) (key : Key) (build : Except Error Value) :
    Except Error (KeyMap Key Value) :=
  match build with
  | .ok value => .ok (map.insert key value)
  | .error error => .error error

/-- Change a present value by code that can fail. An absent key is skipped. -/
def tryModify (map : KeyMap Key Value) (key : Key) (change : Value → Except Error Value) :
    Except Error (KeyMap Key Value) :=
  match map.lookup key with
  | some value => tryInsert map key (change value)
  | none => .ok map

theorem tryInsert_eq_ok_iff (map result : KeyMap Key Value) (key : Key)
    (build : Except Error Value) :
    tryInsert map key build = .ok result ↔
      ∃ value, build = .ok value ∧ map.insert key value = result := by
  cases build <;> simp [tryInsert]

/-- A change succeeds unless the key is present and its value refuses. -/
theorem tryModify_succeeds_iff (map : KeyMap Key Value) (key : Key)
    (change : Value → Except Error Value) :
    (∃ result, tryModify map key change = .ok result) ↔
      ∀ value, map.lookup key = some value → ∃ next, change value = .ok next := by
  unfold tryModify
  split
  · rename_i value hValue
    simp [tryInsert_eq_ok_iff, hValue]
  · rename_i hNone
    simp [hNone]

theorem lookup_of_tryModify {map result : KeyMap Key Value} {key : Key}
    {change : Value → Except Error Value} (h : tryModify map key change = .ok result)
    (other : Key) :
    (other ≠ key ∧ result.lookup other = map.lookup other) ∨
      (other = key ∧ map.lookup key = none ∧ result.lookup key = none) ∨
      (other = key ∧ ∃ old new, map.lookup key = some old ∧ change old = .ok new ∧
        result.lookup key = some new) := by
  unfold tryModify at h
  split at h
  · rename_i value hValue
    obtain ⟨next, hChange, rfl⟩ := (tryInsert_eq_ok_iff ..).mp h
    by_cases hKey : other = key
    · exact Or.inr (Or.inr ⟨hKey, value, next, hValue, hChange, AList.lookup_insert map⟩)
    · exact Or.inl ⟨hKey, AList.lookup_insert_ne hKey⟩
  · rename_i hNone
    obtain rfl : map = result := by simpa using h
    by_cases hKey : other = key
    · exact Or.inr (Or.inl ⟨hKey, hNone, hNone⟩)
    · exact Or.inl ⟨hKey, rfl⟩

/-- What holds of every entry holds after an insertion of one more. -/
theorem forall_of_tryInsert {map result : KeyMap Key Value} {key : Key}
    {build : Except Error Value} {Q : Key → Value → Prop}
    (hMap : ∀ other value, map.lookup other = some value → Q other value)
    (hBuild : ∀ value, build = .ok value → Q key value)
    (h : tryInsert map key build = .ok result) :
    ∀ other value, result.lookup other = some value → Q other value := by
  obtain ⟨new, hNew, rfl⟩ := (tryInsert_eq_ok_iff ..).mp h
  intro other value hLookup
  rw [lookup_insert_eq_ite] at hLookup
  split at hLookup
  · next hSame =>
      rw [hSame, ← Option.some.inj hLookup]
      exact hBuild new hNew
  · exact hMap other value hLookup

/-- It holds after a change that keeps it. -/
theorem forall_of_tryModify {map result : KeyMap Key Value} {key : Key}
    {change : Value → Except Error Value} {Q : Key → Value → Prop}
    (hMap : ∀ other value, map.lookup other = some value → Q other value)
    (hChange : ∀ old new, map.lookup key = some old → change old = .ok new → Q key new)
    (h : tryModify map key change = .ok result) :
    ∀ other value, result.lookup other = some value → Q other value := by
  unfold tryModify at h
  split at h
  · next old hOld => exact forall_of_tryInsert hMap (fun new hNew => hChange old new hOld hNew) h
  · rw [← Except.ok.inj h]
    exact hMap

/-- Changing a value neither adds nor removes a key. -/
theorem mem_of_tryModify {map result : KeyMap Key Value} {key : Key}
    {change : Value → Except Error Value} (h : tryModify map key change = .ok result)
    (other : Key) : other ∈ result ↔ other ∈ map := by
  rw [← AList.lookup_isSome, ← AList.lookup_isSome]
  rcases lookup_of_tryModify h other with ⟨_, hSame⟩ | ⟨rfl, hOld, hNew⟩ |
    ⟨rfl, old, new, hOld, _, hNew⟩
  · rw [hSame]
  · simp [hOld, hNew]
  · simp [hOld, hNew]

end Fallible
end KeyMap
end HamLogger
