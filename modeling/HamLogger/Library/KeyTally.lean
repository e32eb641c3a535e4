import HamLogger.Library.KeyMap
import Mathlib

/-! Counters in a map, one for each key, of what is held under the key. -/
namespace HamLogger.KeyTally
variable {Key : Type} [DecidableEq Key]

/-- Subtracting one stops at zero. -/
def saturatingPred (count : UInt32) : UInt32 :=
  if count = 0 then 0 else count - 1

theorem toNat_saturatingPred (count : UInt32) :
    (saturatingPred count).toNat = count.toNat - 1 := by
  unfold saturatingPred
  split
  · rename_i hZero
    rw [hZero]
    rfl
  · rename_i hNonzero
    have hPositive : 1 ≤ count.toNat := by
      have hNat : count.toNat ≠ 0 := fun hNone => hNonzero (UInt32.toNat_inj.mp hNone)
      omega
    have hOne : (1 : UInt32) ≤ count := UInt32.le_iff_toNat_le.mpr hPositive
    rw [UInt32.toNat_sub_of_le _ _ hOne]
    rfl

theorem toNat_add_one {count bound : UInt32} (h : count < bound) :
    (count + 1).toNat = count.toNat + 1 := by
  have hLess := UInt32.lt_iff_toNat_lt.mp h
  have hBound := bound.toNat_lt
  rw [UInt32.toNat_add]
  exact Nat.mod_eq_of_lt (by simp; omega)

/-- The count of a key that has no counter is zero. -/
def held (map : KeyMap Key UInt32) (key : Key) : UInt32 :=
  (map.lookup key).getD 0

def total (map : KeyMap Key UInt32) : Nat :=
  (map.entries.map fun entry => entry.2.toNat).sum

def increment (map : KeyMap Key UInt32) (key : Key) : KeyMap Key UInt32 :=
  map.insert key (held map key + 1)

/-- Without a counter nothing happens. -/
def decrement (map : KeyMap Key UInt32) (key : Key) : KeyMap Key UInt32 :=
  map.modify key saturatingPred

theorem sum_kerase (entries : List (Sigma fun _ : Key => UInt32)) (key : Key) :
    ((entries.kerase key).map fun entry => entry.2.toNat).sum +
        ((entries.dlookup key).getD 0).toNat =
      (entries.map fun entry => entry.2.toNat).sum := by
  induction entries with
  | nil => simp
  | cons entry rest ih =>
      obtain ⟨name, count⟩ := entry
      by_cases hKey : key = name
      · subst hKey
        simp [Nat.add_comm]
      · have hErased : List.kerase key (⟨name, count⟩ :: rest) =
            ⟨name, count⟩ :: rest.kerase key := List.kerase_cons_ne hKey
        have hFound : List.dlookup key (⟨name, count⟩ :: rest) = rest.dlookup key :=
          List.dlookup_cons_ne rest ⟨name, count⟩ hKey
        rw [hErased, hFound, List.map_cons, List.sum_cons, List.map_cons, List.sum_cons, ← ih]
        omega

theorem total_insert (map : KeyMap Key UInt32) (key : Key) (count : UInt32) :
    total (map.insert key count) + (held map key).toNat = total map + count.toNat := by
  have hSum := sum_kerase map.entries key
  have hInsert : total (map.insert key count) =
      count.toNat + ((map.entries.kerase key).map fun entry => entry.2.toNat).sum := by
    rw [total, AList.entries_insert, List.map_cons, List.sum_cons]
  have hHeld : (held map key).toNat = ((map.entries.dlookup key).getD 0).toNat := rfl
  rw [hInsert, hHeld, total, ← hSum]
  omega

/-- The counters of a map count what is held. -/
structure Tallies (keys : List Key) (map : KeyMap Key UInt32) : Prop where
  count : ∀ key, (held map key).toNat = keys.count key
  total : total map = keys.length

variable {keys : List Key} {map : KeyMap Key UInt32} {key : Key}

theorem Tallies.nil : Tallies ([] : List Key) ∅ where
  count := fun _ => rfl
  total := rfl

theorem Tallies.perm {others : List Key} (h : Tallies keys map) (hPerm : keys.Perm others) :
    Tallies others map :=
  ⟨fun key => (h.count key).trans (hPerm.count_eq key), h.total.trans hPerm.length_eq⟩

theorem held_insert (map : KeyMap Key UInt32) (key other : Key) (count : UInt32) :
    held (map.insert key count) other = if other = key then count else held map other := by
  rw [held, KeyMap.lookup_insert_eq_ite]
  split <;> rfl

theorem Tallies.increment {bound : UInt32} (h : Tallies keys map) (hBelow : held map key < bound) :
    Tallies (keys ++ [key]) (increment map key) := by
  have hOne := toNat_add_one hBelow
  refine ⟨fun other => ?_, ?_⟩
  · rw [KeyTally.increment, held_insert, List.count_append, List.count_singleton]
    split
    · rename_i hSame
      rw [hSame, hOne, h.count key]
      simp
    · rename_i hOther
      rw [h.count other]
      simp [Ne.symm hOther]
  · have hTotal := total_insert map key (held map key + 1)
    have hOld := h.total
    rw [hOne] at hTotal
    rw [KeyTally.increment, List.length_append, List.length_singleton]
    omega

theorem Tallies.decrement (h : Tallies keys map) (hMem : key ∈ keys) :
    Tallies (keys.erase key) (decrement map key) := by
  have hPositive : 0 < (held map key).toNat := by
    rw [h.count key]
    exact List.count_pos_iff.mpr hMem
  have hPresent : ∃ count, map.lookup key = some count := by
    cases hLookup : map.lookup key with
    | some count => exact ⟨count, rfl⟩
    | none =>
        rw [held, hLookup] at hPositive
        cases hPositive
  obtain ⟨count, hLookup⟩ := hPresent
  have hHeld : held map key = count := by rw [held, hLookup]; rfl
  have hInsert : KeyTally.decrement map key = map.insert key (saturatingPred count) := by
    rw [KeyTally.decrement, KeyMap.modify, hLookup]
  refine ⟨fun other => ?_, ?_⟩
  · rw [hInsert, held_insert]
    split
    · rename_i hSame
      rw [hSame, toNat_saturatingPred, ← hHeld, h.count key, List.count_erase_self]
    · rename_i hOther
      rw [h.count other, List.count_erase_of_ne hOther]
  · have hTotal := total_insert map key (saturatingPred count)
    rw [toNat_saturatingPred, hHeld] at hTotal
    rw [hHeld] at hPositive
    have hOld := h.total
    rw [hInsert, List.length_erase_of_mem hMem]
    omega

end HamLogger.KeyTally
