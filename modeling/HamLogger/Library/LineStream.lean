import Mathlib.Data.List.Basic

/-! A stream read line by line. A line ends with its stop mark; the last one
may lack it. -/
namespace HamLogger.LineStream

variable {α : Type} [DecidableEq α] (stop : α)

/-- The first line, with its stop mark, and what is left of the stream. -/
def readLine : List α → List α × List α
  | [] => ([], [])
  | value :: rest =>
      if value = stop then ([value], rest)
      else (value :: (readLine rest).1, (readLine rest).2)

variable {stop}

theorem readLine_append (stream : List α) :
    (readLine stop stream).1 ++ (readLine stop stream).2 = stream := by
  induction stream with
  | nil => rfl
  | cons value rest ih =>
      by_cases hStop : value = stop
      · simp [readLine, hStop]
      · simp [readLine, hStop, ih]

/-- Reading goes on as long as lines are not empty. -/
theorem length_readLine_lt {stream : List α} (h : (readLine stop stream).1 ≠ []) :
    (readLine stop stream).2.length < stream.length := by
  have hWhole : (readLine stop stream).1 ++ (readLine stop stream).2 = stream :=
    readLine_append stream
  have hLength := congrArg List.length hWhole
  have hLine := List.length_pos_of_ne_nil h
  rw [List.length_append] at hLength
  omega

theorem readLine_line {line : List α} (h : stop ∉ line) (rest : List α) :
    readLine stop (line ++ stop :: rest) = (line ++ [stop], rest) := by
  induction line with
  | nil => simp [readLine]
  | cons value more ih =>
      have hValue : value ≠ stop := fun hSame => h (by simp [hSame])
      have hMore : stop ∉ more := fun hMem => h (List.mem_cons_of_mem value hMem)
      simp [readLine, hValue, ih hMore]

/-- A line that ended is not changed by what comes later. -/
theorem readLine_append_of_mem {stream : List α} (h : stop ∈ (readLine stop stream).1)
    (more : List α) :
    readLine stop (stream ++ more) =
      ((readLine stop stream).1, (readLine stop stream).2 ++ more) := by
  induction stream with
  | nil => cases h
  | cons value rest ih =>
      by_cases hStop : value = stop
      · simp [readLine, hStop]
      · have hRest : stop ∈ (readLine stop rest).1 := by
          rw [readLine, if_neg hStop] at h
          rcases List.mem_cons.mp h with hSame | hLater
          · exact absurd hSame.symm hStop
          · exact hLater
        simp [readLine, hStop, ih hRest]

/-- A line that did not end is the rest of the stream. -/
theorem readLine_of_not_mem {stream : List α} (h : stop ∉ (readLine stop stream).1) :
    (readLine stop stream).2 = [] := by
  induction stream with
  | nil => rfl
  | cons value rest ih =>
      by_cases hStop : value = stop
      · simp [readLine, hStop] at h
      · rw [readLine, if_neg hStop] at h ⊢
        exact ih fun hMem => h (List.mem_cons_of_mem value hMem)

end HamLogger.LineStream
