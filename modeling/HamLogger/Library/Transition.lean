import Mathlib.Data.List.Induction

/-! Labelled transition systems and their finite runs. A label records what
one step was asked and, where that matters, what it answered. Results about
whole runs are obtained from facts about one step by the rules below. -/
namespace HamLogger.Transition

universe u v w x
variable {State : Type u} {Label : Type v}

/-- A transition system is its step relation. -/
structure System (State : Type u) (Label : Type v) where
  step : State → Label → State → Prop

/-- A finite run, with the labels of its steps in chronological order. -/
inductive Run (M : System State Label) : State → List Label → State → Prop where
  | nil (s : State) : Run M s [] s
  | snoc {s t u : State} {labels : List Label} {label : Label}
      (prior : Run M s labels t) (last : M.step t label u) :
      Run M s (labels ++ [label]) u

variable {M : System State Label}

theorem Run.single {s t : State} {label : Label} (h : M.step s label t) :
    Run M s [label] t :=
  Run.snoc (Run.nil s) h

/-- Runs compose, and their labels are concatenated. -/
theorem Run.trans {s t u : State} {first second : List Label}
    (left : Run M s first t) (right : Run M t second u) :
    Run M s (first ++ second) u := by
  induction right with
  | nil => simpa using left
  | snoc prior last ih =>
      rw [← List.append_assoc]
      exact Run.snoc ih last

/-- An invariant kept by every step is kept by every run. -/
theorem Run.invariant {P : State → Prop}
    (hStep : ∀ s label t, P s → M.step s label t → P t)
    {s t : State} {labels : List Label} (run : Run M s labels t) (h : P s) : P t := by
  induction run with
  | nil => exact h
  | snoc prior last ih => exact hStep _ _ _ ih last

/-- An invariant that also speaks about the labels read so far. -/
theorem Run.history {P : List Label → State → Prop} {s t : State} {labels : List Label}
    (run : Run M s labels t) (h : P [] s)
    (hStep : ∀ seen t label u, P seen t → M.step t label u → P (seen ++ [label]) u) :
    P labels t := by
  induction run with
  | nil => exact h
  | snoc prior last ih => exact hStep _ _ _ _ ih last

/-- A preorder that contains every step contains every run. -/
theorem Run.relation {R : State → State → Prop} (hRefl : ∀ s, R s s)
    (hTrans : ∀ s t u, R s t → R t u → R s u)
    (hStep : ∀ s label t, M.step s label t → R s t)
    {s t : State} {labels : List Label} (run : Run M s labels t) : R s t := by
  induction run with
  | nil => exact hRefl _
  | snoc prior last ih => exact hTrans _ _ _ ih (hStep _ _ _ last)

/-- The same for steps taken from states that satisfy an invariant. -/
theorem Run.relation_of_invariant {P : State → Prop} {R : State → State → Prop}
    (hKeep : ∀ s label t, P s → M.step s label t → P t) (hRefl : ∀ s, R s s)
    (hTrans : ∀ s t u, R s t → R t u → R s u)
    (hStep : ∀ s label t, P s → M.step s label t → R s t)
    {s t : State} {labels : List Label} (run : Run M s labels t) (h : P s) : R s t := by
  induction run with
  | nil => exact hRefl _
  | snoc prior last ih =>
      exact hTrans _ _ _ ih (hStep _ _ _ (prior.invariant hKeep h) last)

/-- Some label starts what no later label stops. -/
def Since (start stop : Label → Prop) (labels : List Label) : Prop :=
  ∃ before label after, labels = before ++ label :: after ∧ start label ∧
    ∀ later ∈ after, ¬ stop later

theorem not_since_nil (start stop : Label → Prop) : ¬ Since start stop [] := by
  rintro ⟨before, label, after, hLabels, _⟩
  simp at hLabels

/-- A label of a history is the newest one or one of those before. -/
theorem split_snoc {labels before after : List Label} {label first : Label}
    (h : labels ++ [label] = before ++ first :: after) :
    (after = [] ∧ first = label ∧ before = labels) ∨
      ∃ middle, after = middle ++ [label] ∧ labels = before ++ first :: middle := by
  rcases List.eq_nil_or_concat after with rfl | ⟨middle, last, rfl⟩
  · obtain ⟨hInit, hLast⟩ := List.append_inj' h rfl
    exact Or.inl ⟨rfl, (List.singleton_inj.mp hLast).symm, hInit.symm⟩
  · have hSame : labels ++ [label] = (before ++ first :: middle) ++ [last] := by
      rw [h]
      simp
    obtain ⟨hInit, hLast⟩ := List.append_inj' hSame rfl
    obtain rfl := List.singleton_inj.mp hLast
    exact Or.inr ⟨middle, List.concat_eq_append, hInit⟩

theorem since_snoc {start stop : Label → Prop} {labels : List Label} {label : Label} :
    Since start stop (labels ++ [label]) ↔
      start label ∨ (Since start stop labels ∧ ¬ stop label) := by
  constructor
  · rintro ⟨before, first, after, hLabels, hStart, hStop⟩
    rcases split_snoc hLabels with ⟨_, rfl, _⟩ | ⟨middle, rfl, hInit⟩
    · exact Or.inl hStart
    · refine Or.inr ⟨⟨before, first, middle, hInit, hStart, ?_⟩, hStop label (by simp)⟩
      intro later hLater
      exact hStop later (List.mem_append_left _ hLater)
  · rintro (hStart | ⟨⟨before, first, after, rfl, hStart, hStop⟩, hLabel⟩)
    · exact ⟨labels, label, [], rfl, hStart, nofun⟩
    · refine ⟨before, first, after ++ [label], by simp, hStart, ?_⟩
      intro later hLater
      rcases List.mem_append.mp hLater with hEarly | hLast
      · exact hStop later hEarly
      · rw [List.mem_singleton.mp hLast]
        exact hLabel

/-- What started in a history has started since in one of its parts. -/
theorem since_append {start stop : Label → Prop} {before after : List Label} :
    Since start stop (before ++ after) ↔
      Since start stop after ∨ (Since start stop before ∧ ∀ label ∈ after, ¬ stop label) := by
  induction after using List.reverseRecOn with
  | nil =>
      rw [List.append_nil]
      simp [not_since_nil]
  | append_singleton labels label ih =>
      rw [← List.append_assoc, since_snoc, since_snoc, ih]
      simp only [List.mem_append, List.mem_singleton]
      grind

/-- Whether something has started since a label that stops it shows in what
came after that label. -/
theorem since_of_stopped {start stop : Label → Prop} {before after : List Label} {label : Label}
    (hStop : stop label) (hStart : ¬ start label) :
    Since start stop (before ++ label :: after) ↔ Since start stop after := by
  have hNot : ¬ Since start stop (before ++ [label]) := by
    rw [since_snoc]
    rintro (hStarted | ⟨_, hKept⟩)
    · exact hStart hStarted
    · exact hKept hStop
  rw [List.append_cons, since_append]
  exact or_iff_left fun h => hNot h.1

/-- The system restricted to the steps that a guard allows. The guard may
look at the state before the step and at the label. -/
def System.restrict (M : System State Label) (allowed : State → Label → Prop) :
    System State Label where
  step s label t := allowed s label ∧ M.step s label t

/-- A restricted run is a run. -/
theorem Run.of_restrict {allowed : State → Label → Prop} {s t : State} {labels : List Label}
    (run : Run (M.restrict allowed) s labels t) : Run M s labels t := by
  induction run with
  | nil => exact Run.nil _
  | snoc prior last ih => exact ih.snoc last.2

end HamLogger.Transition
