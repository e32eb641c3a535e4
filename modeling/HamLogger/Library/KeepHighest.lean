import HamLogger.Library.KeyMap
import Mathlib

/-! A map that keeps, for every key, the first item of the highest rank that it
was offered. -/
namespace HamLogger.KeepHighest

section Offers
variable {Key Item Rank : Type} [DecidableEq Key] [LinearOrder Rank]
variable (keyOf : Item → Key) (rank : Item → Rank)

/-- An item is taken when its key is free or holds an item of a lower rank. -/
def taken (map : KeyMap Key Item) (item : Item) : Bool :=
  (map.lookup (keyOf item)).all fun old => rank old < rank item

def offer (map : KeyMap Key Item) (item : Item) : KeyMap Key Item :=
  if taken keyOf rank map item then map.insert (keyOf item) item else map

/-- Offering the items to a map leaves, for every key, its old value when no item
is above it, and otherwise an item of the highest rank. -/
structure Raised (start : KeyMap Key Item) (items : List Item) (map : KeyMap Key Item) :
    Prop where
  highest : ∀ key,
    (map.lookup key = start.lookup key ∧ ∀ item ∈ items, keyOf item = key →
      ∃ old, start.lookup key = some old ∧ rank item ≤ rank old) ∨
    ∃ best ∈ items, map.lookup key = some best ∧ keyOf best = key ∧
      (∀ old, start.lookup key = some old → rank old < rank best) ∧
      ∀ item ∈ items, keyOf item = key → rank item ≤ rank best

variable {keyOf rank} {start map : KeyMap Key Item} {items : List Item}

theorem Raised.nil (start : KeyMap Key Item) : Raised keyOf rank start [] start :=
  ⟨fun _ => .inl ⟨rfl, fun _ hMem => absurd hMem List.not_mem_nil⟩⟩

theorem Raised.offer (h : Raised keyOf rank start items map) (item : Item) :
    Raised keyOf rank start (items ++ [item]) (offer keyOf rank map item) := by
  refine ⟨fun key => ?_⟩
  have hOld := h.highest key
  by_cases hKey : keyOf item = key
  · subst hKey
    unfold KeepHighest.offer
    split
    · rename_i hTaken
      have hAbove : ∀ old, map.lookup (keyOf item) = some old → rank old < rank item := by
        intro old hLookup
        rw [taken, hLookup] at hTaken
        simpa using hTaken
      refine .inr ⟨item, by simp, AList.lookup_insert _, rfl, fun old hStart => ?_,
        fun other hMem hOther => ?_⟩
      · rcases hOld with ⟨hSame, _⟩ | ⟨best, _, hBest, _, hStartBelow, _⟩
        · exact hAbove old (hSame.trans hStart)
        · exact lt_trans (hStartBelow old hStart) (hAbove best hBest)
      · rcases List.mem_append.mp hMem with hItem | hNew
        · rcases hOld with ⟨hSame, hNone⟩ | ⟨best, _, hBest, _, _, hHighest⟩
          · obtain ⟨old, hStart, hLe⟩ := hNone other hItem hOther
            exact le_of_lt (lt_of_le_of_lt hLe (hAbove old (hSame.trans hStart)))
          · exact le_of_lt (lt_of_le_of_lt (hHighest other hItem hOther) (hAbove best hBest))
        · rw [List.mem_singleton.mp hNew]
    · rename_i hKept
      -- the value that stays is not below the item
      obtain ⟨kept, hLookup, hLe⟩ : ∃ kept, map.lookup (keyOf item) = some kept ∧
          rank item ≤ rank kept := by
        cases hLookup : map.lookup (keyOf item) with
        | none =>
            rw [taken, hLookup] at hKept
            exact absurd rfl hKept
        | some kept =>
            rw [taken, hLookup] at hKept
            exact ⟨kept, rfl, by simpa using hKept⟩
      rcases hOld with ⟨hSame, hNone⟩ | ⟨best, hMem, hBest, hBestKey, hStartBelow, hHighest⟩
      · refine .inl ⟨hSame, fun other hOther hOtherKey => ?_⟩
        rcases List.mem_append.mp hOther with hItem | hNew
        · exact hNone other hItem hOtherKey
        · rw [List.mem_singleton.mp hNew]
          exact ⟨kept, hSame.symm.trans hLookup, hLe⟩
      · obtain rfl : best = kept := Option.some.inj (hBest.symm.trans hLookup)
        refine .inr ⟨best, by simp [hMem], hBest, hBestKey, hStartBelow,
          fun other hOther hOtherKey => ?_⟩
        rcases List.mem_append.mp hOther with hItem | hNew
        · exact hHighest other hItem hOtherKey
        · rw [List.mem_singleton.mp hNew]
          exact hLe
  · have hSame : (KeepHighest.offer keyOf rank map item).lookup key = map.lookup key := by
      unfold KeepHighest.offer
      split
      · exact AList.lookup_insert_ne (Ne.symm hKey)
      · rfl
    rw [hSame]
    have hDrop : ∀ other ∈ items ++ [item], keyOf other = key → other ∈ items := by
      intro other hOther hOtherKey
      rcases List.mem_append.mp hOther with hItem | hNew
      · exact hItem
      · rw [List.mem_singleton.mp hNew] at hOtherKey
        exact absurd hOtherKey hKey
    rcases hOld with ⟨hLookup, hNone⟩ | ⟨best, hMem, hBest, hBestKey, hStartBelow, hHighest⟩
    · exact .inl ⟨hLookup, fun other hOther hOtherKey =>
        hNone other (hDrop other hOther hOtherKey) hOtherKey⟩
    · exact .inr ⟨best, by simp [hMem], hBest, hBestKey, hStartBelow, fun other hOther hOtherKey =>
        hHighest other (hDrop other hOther hOtherKey) hOtherKey⟩

/-- Any number of offers. -/
theorem Raised.foldl (h : Raised keyOf rank start items map) (offers : List Item) :
    Raised keyOf rank start (items ++ offers)
      (offers.foldl (KeepHighest.offer keyOf rank) map) := by
  induction offers generalizing items map with
  | nil => simpa using h
  | cons item rest ih =>
      have hRest := ih (h.offer item)
      rwa [List.append_assoc] at hRest

/-- An item that was offered before is not taken again. -/
theorem Raised.not_taken (h : Raised keyOf rank start items map) {item : Item}
    (hMem : item ∈ items) : taken keyOf rank map item = false := by
  rcases h.highest (keyOf item) with ⟨hSame, hNone⟩ | ⟨best, _, hBest, _, _, hHighest⟩
  · obtain ⟨old, hStart, hLe⟩ := hNone item hMem rfl
    rw [taken, hSame, hStart]
    simpa using hLe
  · rw [taken, hBest]
    simpa using hHighest item hMem rfl

/-- Where items of one key and one rank look the same, the order of the offers
does not show. -/
theorem Raised.lookup_unique {View : Type} {view : Item → View} {others : List Item}
    {otherMap : KeyMap Key Item} (h : Raised keyOf rank start items map)
    (hOther : Raised keyOf rank start others otherMap)
    (hSame : ∀ item, item ∈ items ↔ item ∈ others)
    (hTie : ∀ first ∈ items, ∀ second ∈ items, keyOf first = keyOf second →
      rank first = rank second → view first = view second) (key : Key) :
    (map.lookup key).map view = (otherMap.lookup key).map view := by
  rcases h.highest key with ⟨hKeep, hNone⟩ | ⟨best, hMem, hBest, hBestKey, hBelow, hHighest⟩ <;>
    rcases hOther.highest key with ⟨hKeep', hNone'⟩ | ⟨best', hMem', hBest', hKey', hBelow', hHigh'⟩
  · rw [hKeep, hKeep']
  · obtain ⟨old, hOld, hLe⟩ := hNone best' ((hSame best').mpr hMem') hKey'
    exact absurd (hBelow' old hOld) (not_lt_of_ge hLe)
  · obtain ⟨old, hOld, hLe⟩ := hNone' best ((hSame best).mp hMem) hBestKey
    exact absurd (hBelow old hOld) (not_lt_of_ge hLe)
  · have hRank : rank best = rank best' :=
      le_antisymm (hHigh' best ((hSame best).mp hMem) hBestKey)
        (hHighest best' ((hSame best').mpr hMem') hKey')
    rw [hBest, hBest', Option.map_some, Option.map_some,
      hTie best hMem best' ((hSame best').mpr hMem') (hBestKey.trans hKey'.symm) hRank]

end Offers
end HamLogger.KeepHighest
