import Mathlib.Data.List.Perm.Basic

/-! Taking the first element of a sorted list. What is taken is best among all
elements. -/
namespace HamLogger.SortedChoice

variable {α : Type} (le : α → α → Bool)

def first (list : List α) : Option α := (list.mergeSort le).head?

/-- The order of the sort. -/
structure IsPreorder : Prop where
  trans : ∀ a b c, le a b = true → le b c = true → le a c = true
  total : ∀ a b, (le a b || le b a) = true

variable {le} {list : List α}

theorem first_eq_none_iff : first le list = none ↔ list = [] := by
  rw [first, List.head?_eq_none_iff]
  constructor
  · intro h
    have hLength := congrArg List.length h
    rw [List.length_mergeSort] at hLength
    exact List.length_eq_zero_iff.mp hLength
  · rintro rfl
    rw [List.mergeSort_nil]

theorem first_mem {a : α} (h : first le list = some a) : a ∈ list :=
  List.mem_mergeSort.mp (List.mem_of_mem_head? h)

theorem first_le (hLe : IsPreorder le) {a : α} (h : first le list = some a) :
    ∀ b ∈ list, le a b = true := by
  intro b hMem
  have hSorted := List.pairwise_mergeSort hLe.trans hLe.total list
  obtain ⟨rest, hRest⟩ := List.head?_eq_some_iff.mp h
  rw [hRest] at hSorted
  have hCases : b ∈ a :: rest := hRest ▸ List.mem_mergeSort.mpr hMem
  rcases List.mem_cons.mp hCases with rfl | hLater
  · simpa using hLe.total b b
  · exact (List.pairwise_cons.mp hSorted).1 b hLater

end HamLogger.SortedChoice
