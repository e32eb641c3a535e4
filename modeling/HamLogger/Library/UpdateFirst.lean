import Mathlib.Data.List.Forall2

/-! Changing the first element of a list that satisfies a condition, as code
does that finds an element by a mutable iterator and writes through it. -/
namespace HamLogger

/-- Change the first element that satisfies a condition. -/
def updateFirst {α : Type} (condition : α → Bool) (change : α → α) : List α → List α
  | [] => []
  | x :: rest => if condition x then change x :: rest else x :: updateFirst condition change rest

section UpdateFirst
variable {α β : Type} {condition : α → Bool} {change : α → α}

/-- The list around the element that is found stays as it is. -/
theorem updateFirst_of_find? {list : List α} {found : α} (h : list.find? condition = some found) :
    ∃ before after, list = before ++ found :: after ∧
      updateFirst condition change list = before ++ change found :: after := by
  induction list with
  | nil => cases h
  | cons x rest ih =>
      rw [List.find?_cons] at h
      unfold updateFirst
      cases hx : condition x with
      | true =>
          rw [hx] at h
          obtain rfl : x = found := Option.some.inj h
          exact ⟨[], rest, rfl, rfl⟩
      | false =>
          rw [hx] at h
          obtain ⟨before, after, rfl, hAfter⟩ := ih h
          exact ⟨x :: before, after, rfl, by rw [if_neg (by simp), hAfter, List.cons_append]⟩

/-- Each element stays, or is the one that was found and changed. -/
theorem forall₂_updateFirst (list : List α) :
    List.Forall₂ (fun old new => new = old ∨
        (list.find? condition = some old ∧ new = change old))
      list (updateFirst condition change list) := by
  induction list with
  | nil => exact List.Forall₂.nil
  | cons x rest ih =>
      unfold updateFirst
      cases hx : condition x with
      | true =>
          rw [if_pos rfl]
          refine List.Forall₂.cons (Or.inr ⟨by simp [hx], rfl⟩) ?_
          exact List.forall₂_same.mpr fun _ _ => Or.inl rfl
      | false =>
          rw [if_neg (by simp)]
          refine List.Forall₂.cons (Or.inl rfl) (ih.imp ?_)
          rintro old new (hSame | ⟨hFound, hChange⟩)
          · exact Or.inl hSame
          · exact Or.inr ⟨by simpa [hx] using hFound, hChange⟩

/-- A quantity that the change keeps is kept by the whole list. -/
theorem map_updateFirst {key : α → β} {list : List α}
    (h : ∀ x, list.find? condition = some x → key (change x) = key x) :
    (updateFirst condition change list).map key = list.map key := by
  have hRelated := @forall₂_updateFirst α condition change list
  refine (List.forall₂_eq_eq_eq ▸ (List.forall₂_map_left_iff.mpr
    (List.forall₂_map_right_iff.mpr (hRelated.imp ?_)))).symm
  rintro old new (rfl | ⟨hFound, rfl⟩)
  · rfl
  · exact (h old hFound).symm

/-- Searching by a key after the first element with one key was replaced by
another with the same key. -/
theorem find?_updateFirst [DecidableEq β] (key : α → β) {target : β} {new : α}
    (hNew : key new = target) (list : List α) (other : β) :
    (updateFirst (fun x => key x = target) (fun _ => new) list).find? (fun x => key x = other) =
      if other = target then (list.find? fun x => key x = target).map fun _ => new
      else list.find? fun x => key x = other := by
  induction list with
  | nil => simp [updateFirst]
  | cons x rest ih =>
      unfold updateFirst
      by_cases hx : key x = target
      · rw [if_pos (decide_eq_true hx), List.find?_cons]
        by_cases hOther : other = target
        · simp [hNew, hOther, hx]
        · have hApart : ¬ target = other := fun hSame => hOther hSame.symm
          simp [hNew, hx, hOther, hApart]
      · rw [if_neg (by simpa using hx), List.find?_cons, ih]
        by_cases hOther : other = target
        · simp [hOther, hx]
        · simp [hOther, List.find?_cons]

/-- What a list of distinct keys holds after the element with one of them was
replaced. -/
theorem mem_updateFirst_of_nodup [DecidableEq β] {key : α → β} {target : β} {new : α}
    {list : List α} (hNodup : (list.map key).Nodup) {old : α} (hOld : old ∈ list)
    (hKey : key old = target) {x : α} :
    x ∈ updateFirst (fun y => key y = target) (fun _ => new) list ↔
      x = new ∨ (x ∈ list ∧ key x ≠ target) := by
  induction list with
  | nil => cases hOld
  | cons y rest ih =>
      rw [List.map_cons, List.nodup_cons] at hNodup
      unfold updateFirst
      by_cases hy : key y = target
      · rw [if_pos (decide_eq_true hy), List.mem_cons, List.mem_cons]
        have hApart : ∀ z ∈ rest, key z ≠ target := by
          intro z hz hSame
          exact hNodup.1 (List.mem_map.mpr ⟨z, hz, hSame.trans hy.symm⟩)
        constructor
        · intro hMem
          rcases hMem with hNew | hRest
          · exact Or.inl hNew
          · exact Or.inr ⟨Or.inr hRest, hApart x hRest⟩
        · intro hMem
          rcases hMem with hNew | ⟨rfl | hRest, hOther⟩
          · exact Or.inl hNew
          · exact absurd hy hOther
          · exact Or.inr hRest
      · rw [if_neg (by simpa using hy), List.mem_cons, List.mem_cons]
        have hRest : old ∈ rest := by
          rcases List.mem_cons.mp hOld with rfl | hRest
          · exact absurd hKey hy
          · exact hRest
        rw [ih hNodup.2 hRest]
        constructor
        · intro hMem
          rcases hMem with rfl | hNew | ⟨hMem, hOther⟩
          · exact Or.inr ⟨Or.inl rfl, hy⟩
          · exact Or.inl hNew
          · exact Or.inr ⟨Or.inr hMem, hOther⟩
        · intro hMem
          rcases hMem with hNew | ⟨hHead | hMem, hOther⟩
          · exact Or.inr (Or.inl hNew)
          · exact Or.inl hHead
          · exact Or.inr (Or.inr ⟨hMem, hOther⟩)

end UpdateFirst

section Related
variable {α β : Type} {R : α → β → Prop} {xs : List α} {ys : List β}

/-- Each element of one of two related lists has a partner in the other. -/
theorem exists_right_of_forall₂ (h : List.Forall₂ R xs ys) {x : α} (hx : x ∈ xs) :
    ∃ y ∈ ys, R x y := by
  induction h with
  | nil => cases hx
  | @cons a b as bs hHead _ ih =>
      rcases List.mem_cons.mp hx with rfl | hRest
      · exact ⟨b, List.mem_cons_self, hHead⟩
      · obtain ⟨y, hy, hRelated⟩ := ih hRest
        exact ⟨y, List.mem_cons_of_mem b hy, hRelated⟩

theorem exists_left_of_forall₂ (h : List.Forall₂ R xs ys) {y : β} (hy : y ∈ ys) :
    ∃ x ∈ xs, R x y :=
  exists_right_of_forall₂ (List.Forall₂.flip h) hy

end Related
end HamLogger
