import Mathlib

/-! Lines kept in blocks, the newest block first. A line that would make the
newest block too large starts a block of its own, and only so many older
blocks are kept. -/
namespace HamLogger.BlockRotation

variable {α : Type} (size : α → Nat) (bound retained : Nat)

def blockSize (block : List α) : Nat := (block.map size).sum

@[simp] theorem blockSize_append (first second : List α) :
    blockSize size (first ++ second) = blockSize size first + blockSize size second := by
  simp [blockSize]

@[simp] theorem blockSize_singleton (line : α) : blockSize size [line] = size line := by
  simp [blockSize]

/-- The newest block has no room for the line. -/
def Overflows (newest : List α) (line : α) : Prop :=
  0 < blockSize size newest ∧ bound < blockSize size newest + size line

instance (newest : List α) (line : α) : Decidable (Overflows size bound newest line) :=
  inferInstanceAs (Decidable (_ ∧ _))

def push (blocks : List (List α)) (line : α) : List (List α) :=
  match blocks with
  | [] => [[line]]
  | newest :: older =>
      if Overflows size bound newest line then [line] :: (newest :: older).take retained
      else (newest ++ [line]) :: older

/-- The lines from the oldest block to the newest. -/
def kept (blocks : List (List α)) : List α := blocks.reverse.flatten

/-- A block keeps to the bound, or is no larger than a line in it. -/
def Bounded (block : List α) : Prop :=
  blockSize size block ≤ bound ∨ ∃ line ∈ block, blockSize size block ≤ size line

variable {size bound retained}

@[simp] theorem kept_cons (newest : List α) (older : List (List α)) :
    kept (newest :: older) = kept older ++ newest := by
  simp [kept]

theorem kept_append (newer older : List (List α)) :
    kept (newer ++ older) = kept older ++ kept newer := by
  simp [kept]

theorem kept_take_suffix (count : Nat) (blocks : List (List α)) :
    kept (blocks.take count) <:+ kept blocks := by
  refine ⟨kept (blocks.drop count), ?_⟩
  rw [← kept_append, List.take_append_drop]

theorem kept_push_suffix (blocks : List (List α)) (line : α) :
    kept (push size bound retained blocks line) <:+ kept blocks ++ [line] := by
  cases blocks with
  | nil => exact List.suffix_refl _
  | cons newest older =>
      rw [push]
      split
      · obtain ⟨dropped, hDropped⟩ := kept_take_suffix retained (newest :: older)
        exact ⟨dropped, by rw [kept_cons [line], ← List.append_assoc, hDropped]⟩
      · exact ⟨[], by simp⟩

/-- A suffix of all lines stays one when a line is added. -/
theorem kept_push {blocks : List (List α)} {lines : List α} (h : kept blocks <:+ lines)
    (line : α) : kept (push size bound retained blocks line) <:+ lines ++ [line] := by
  refine (kept_push_suffix blocks line).trans ?_
  obtain ⟨before, hLines⟩ := h
  exact ⟨before, by rw [← hLines, List.append_assoc]⟩

/-- The line that was added last is the last one kept. -/
theorem getLast?_kept_push (blocks : List (List α)) (line : α) :
    (kept (push size bound retained blocks line)).getLast? = some line := by
  cases blocks with
  | nil => rfl
  | cons newest older =>
      rw [push]
      split
      · simp
      · rw [kept_cons, ← List.append_assoc]
        exact List.getLast?_concat

theorem length_push {blocks : List (List α)} (h : blocks.length ≤ retained + 1) (line : α) :
    (push size bound retained blocks line).length ≤ retained + 1 := by
  unfold push
  split
  · simp
  · split
    · simp only [List.length_cons, List.length_take]
      omega
    · simpa using h

theorem bounded_singleton (line : α) : Bounded size bound [line] :=
  Or.inr ⟨line, List.mem_singleton.mpr rfl, by simp⟩

theorem bounded_push {blocks : List (List α)} (h : ∀ block ∈ blocks, Bounded size bound block)
    (line : α) : ∀ block ∈ push size bound retained blocks line, Bounded size bound block := by
  intro block hMem
  unfold push at hMem
  split at hMem
  · rw [List.mem_singleton.mp hMem]
    exact bounded_singleton line
  · rename_i newest older
    split at hMem
    · rcases List.mem_cons.mp hMem with rfl | hOld
      · exact bounded_singleton line
      · exact h block (List.mem_of_mem_take hOld)
    · rename_i hRoom
      rcases List.mem_cons.mp hMem with rfl | hOld
      · -- either there is room, or nothing but the line takes any
        unfold Overflows at hRoom
        by_cases hEmpty : blockSize size newest = 0
        · exact Or.inr ⟨line, by simp, by simp [hEmpty]⟩
        · refine Or.inl ?_
          simp only [blockSize_append, blockSize_singleton]
          omega
      · exact h block (List.mem_cons_of_mem newest hOld)

/-- What is known of the blocks when these lines were added, starting without any. -/
structure Tracks (size : α → Nat) (bound retained : Nat) (lines : List α)
    (blocks : List (List α)) : Prop where
  suffix : kept blocks <:+ lines
  last : (kept blocks).getLast? = lines.getLast?
  length_le : blocks.length ≤ retained + 1
  bounded : ∀ block ∈ blocks, Bounded size bound block

theorem Tracks.nil : Tracks size bound retained [] [] :=
  ⟨List.suffix_refl _, rfl, Nat.zero_le _, fun _ h => absurd h List.not_mem_nil⟩

theorem Tracks.push {lines : List α} {blocks : List (List α)}
    (h : Tracks size bound retained lines blocks) (line : α) :
    Tracks size bound retained (lines ++ [line]) (push size bound retained blocks line) where
  suffix := kept_push h.suffix line
  last := by rw [getLast?_kept_push, List.getLast?_concat]
  length_le := length_push h.length_le line
  bounded := bounded_push h.bounded line

end HamLogger.BlockRotation
