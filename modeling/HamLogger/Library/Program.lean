import Mathlib.Data.List.Basic

/-! Programs that change a state and can fail. A program that fails keeps the
state it has reached, so a postcondition speaks of both: the state that is
left and the outcome. The rules below follow the structure of a program. -/
namespace HamLogger

/-- A program over a state, with failures. -/
abbrev Program (State Error : Type) := ExceptT Error (StateM State)

namespace Program
variable {State Error α β : Type}

/-- The state a program leaves, and its outcome. -/
def execute (program : Program State Error α) (state : State) : State × Except Error α :=
  ((program.run.run state).2, (program.run.run state).1)

/-- A program made of a function that returns the new state and an outcome. -/
def ofFunction (f : State → State × Except Error α) : Program State Error α :=
  ExceptT.mk fun state => ((f state).2, (f state).1)

/-- A program that reads the state and does not change it. -/
def reading (f : State → Except Error α) : Program State Error α :=
  ofFunction fun state => (state, f state)

/-- Hand the outcome of a program to the code after it, failures included,
except those that the filter does not catch. -/
def attempt {Caught : Type} (catches : Error → Option Caught) (program : Program State Error α) :
    Program State Error (Except Caught α) :=
  ofFunction fun state =>
    match program.execute state with
    | (later, .ok value) => (later, .ok (.ok value))
    | (later, .error error) =>
        match catches error with
        | some caught => (later, .ok (.error caught))
        | none => (later, .error error)

@[simp] theorem execute_pure (value : α) (state : State) :
    (pure value : Program State Error α).execute state = (state, .ok value) := rfl

@[simp] theorem execute_throw (error : Error) (state : State) :
    (throw error : Program State Error α).execute state = (state, .error error) := rfl

@[simp] theorem execute_ofFunction (f : State → State × Except Error α) (state : State) :
    (ofFunction f).execute state = f state := rfl

@[simp] theorem execute_reading (f : State → Except Error α) (state : State) :
    (reading f).execute state = (state, f state) := rfl

@[simp] theorem execute_get (state : State) :
    (get : Program State Error State).execute state = (state, .ok state) := rfl

@[simp] theorem execute_set (later state : State) :
    (set later : Program State Error PUnit).execute state = (later, .ok ⟨⟩) := rfl

@[simp] theorem execute_modify (change : State → State) (state : State) :
    (modify change : Program State Error PUnit).execute state = (change state, .ok ⟨⟩) := rfl

theorem execute_bind (first : Program State Error α) (next : α → Program State Error β)
    (state : State) :
    (first >>= next).execute state =
      match first.execute state with
      | (later, .ok value) => (next value).execute later
      | (later, .error error) => (later, .error error) := by
  show (StateT.run (first.run >>= ExceptT.bindCont next) state |> fun r => (r.2, r.1)) = _
  unfold execute
  rw [StateT.run_bind]
  rcases hFirst : first.run.run state with ⟨outcome, later⟩
  cases outcome <;> rfl

/-- A sequence returns where both its parts do. -/
theorem execute_bind_ok {first : Program State Error α} {next : α → Program State Error β}
    {state later : State} {value : β} :
    (first >>= next).execute state = (later, .ok value) ↔
      ∃ middle result, first.execute state = (middle, .ok result) ∧
        (next result).execute middle = (later, .ok value) := by
  rw [execute_bind]
  rcases first.execute state with ⟨middle, outcome⟩
  cases outcome <;> simp

theorem execute_ite (test : Prop) [Decidable test] (yes no : Program State Error α)
    (state : State) :
    (if test then yes else no).execute state =
      if test then yes.execute state else no.execute state := by
  split <;> rfl

/-- Started in the given state, the program ends as the postcondition says. -/
def Ensures (program : Program State Error α) (state : State)
    (Q : State → Except Error α → Prop) : Prop :=
  Q (program.execute state).1 (program.execute state).2

section Rules
variable {state : State}

theorem Ensures.mono {program : Program State Error α} {Q weaker : State → Except Error α → Prop}
    (h : Ensures program state Q)
    (hWeaker : ∀ later outcome, Q later outcome → weaker later outcome) :
    Ensures program state weaker :=
  hWeaker _ _ h

/-- A sequence fails with its first part, or goes on from what that part left. -/
theorem Ensures.bind {first : Program State Error α} {next : α → Program State Error β}
    {R : State → Except Error α → Prop} {Q : State → Except Error β → Prop}
    (hFirst : Ensures first state R)
    (hError : ∀ later error, R later (.error error) → Q later (.error error))
    (hNext : ∀ later value, R later (.ok value) → Ensures (next value) later Q) :
    Ensures (first >>= next) state Q := by
  unfold Ensures at hFirst ⊢
  rw [execute_bind]
  rcases hRun : first.execute state with ⟨later, outcome⟩
  rw [hRun] at hFirst
  cases outcome with
  | error error => exact hError later error hFirst
  | ok value => exact hNext later value hFirst

theorem Ensures.pure {value : α} {Q : State → Except Error α → Prop}
    (h : Q state (.ok value)) : Ensures (Pure.pure value) state Q := h

theorem Ensures.throw {error : Error} {Q : State → Except Error α → Prop}
    (h : Q state (.error error)) :
    Ensures (MonadExcept.throw error : Program State Error α) state Q := h

theorem Ensures.reading {f : State → Except Error α} {Q : State → Except Error α → Prop}
    (h : Q state (f state)) : Ensures (Program.reading f) state Q := h

theorem Ensures.get_bind {next : State → Program State Error β}
    {Q : State → Except Error β → Prop} (h : Ensures (next state) state Q) :
    Ensures (get >>= next) state Q := h

theorem Ensures.modify_bind {change : State → State} {next : PUnit → Program State Error β}
    {Q : State → Except Error β → Prop} (h : Ensures (next ⟨⟩) (change state) Q) :
    Ensures (modify change >>= next) state Q := h

/-- A program goes on from what it has read, or ends where reading fails. -/
theorem Ensures.reading_bind {f : State → Except Error α} {next : α → Program State Error β}
    {Q : State → Except Error β → Prop}
    (hError : ∀ error, f state = .error error → Q state (.error error))
    (hNext : ∀ value, f state = .ok value → Ensures (next value) state Q) :
    Ensures (Program.reading f >>= next) state Q := by
  refine Ensures.bind (R := fun later outcome => later = state ∧ outcome = f state)
    ⟨rfl, rfl⟩ ?_ ?_
  · intro later error h
    rw [h.1]
    exact hError error h.2.symm
  · intro later value h
    rw [h.1]
    exact hNext value h.2.symm

/-- What an attempt hands on. -/
theorem Ensures.attempt {Caught : Type} {catches : Error → Option Caught}
    {program : Program State Error α} {R : State → Except Error α → Prop}
    {Q : State → Except Error (Except Caught α) → Prop} (h : Ensures program state R)
    (hOk : ∀ later value, R later (.ok value) → Q later (.ok (.ok value)))
    (hCaught : ∀ later error caught, R later (.error error) → catches error = some caught →
      Q later (.ok (.error caught)))
    (hPassed : ∀ later error, R later (.error error) → catches error = none →
      Q later (.error error)) :
    Ensures (Program.attempt catches program) state Q := by
  unfold Ensures at h ⊢
  rw [Program.attempt, execute_ofFunction]
  rcases hRun : program.execute state with ⟨later, outcome⟩
  rw [hRun] at h
  cases outcome with
  | ok value => exact hOk later value h
  | error error =>
      dsimp only
      cases hCatches : catches error with
      | some caught => exact hCaught later error caught h hCatches
      | none => exact hPassed later error h hCatches

end Rules

/-! What is seen of the state. -/

section Views
variable {View : Type} {view : State → View}

/-- Whatever comes of it, the program leaves what is seen of the state. -/
def Keeps (view : State → View) (program : Program State Error α) : Prop :=
  ∀ state, view (program.execute state).1 = view state

/-- From a state that is seen so, the program ends in one that is seen as the
postcondition says. -/
def Leads (view : State → View) (program : Program State Error α) (before : View)
    (Q : View → Except Error α → Prop) : Prop :=
  ∀ state, view state = before →
    Ensures program state fun later outcome => Q (view later) outcome

theorem keeps_pure (value : α) : Keeps view (pure value : Program State Error α) :=
  fun _ => rfl

theorem keeps_throw (error : Error) :
    Keeps view (throw error : Program State Error α) :=
  fun _ => rfl

theorem keeps_get : Keeps view (get : Program State Error State) := fun _ => rfl

theorem keeps_modify {change : State → State} (h : ∀ state, view (change state) = view state) :
    Keeps view (modify change : Program State Error PUnit) :=
  h

theorem keeps_bind {first : Program State Error α} {next : α → Program State Error β}
    (hFirst : Keeps view first) (hNext : ∀ value, Keeps view (next value)) :
    Keeps view (first >>= next) := by
  intro state
  have hState := hFirst state
  rw [execute_bind]
  rcases hRun : first.execute state with ⟨later, outcome⟩
  rw [hRun] at hState
  cases outcome with
  | error error => exact hState
  | ok value => exact (hNext value later).trans hState

theorem keeps_get_bind {next : State → Program State Error β}
    (h : ∀ state, Keeps view (next state)) : Keeps view (get >>= next) :=
  keeps_bind keeps_get h

variable {before : View}

theorem Keeps.leads {program : Program State Error α} {Q : View → Except Error α → Prop}
    (h : Keeps view program) (hOutcome : ∀ outcome, Q before outcome) :
    Leads view program before Q := by
  intro state hState
  show Q (view (program.execute state).1) _
  rw [h state, hState]
  exact hOutcome _

theorem ensures_of_leads (view : State → View) {program : Program State Error α} {state : State}
    {Q : View → Except Error α → Prop} (h : Leads view program (view state) Q) :
    Ensures program state fun later outcome => Q (view later) outcome :=
  h state rfl

theorem Leads.mono {program : Program State Error α} {Q weaker : View → Except Error α → Prop}
    (h : Leads view program before Q)
    (hWeaker : ∀ later outcome, Q later outcome → weaker later outcome) :
    Leads view program before weaker :=
  fun state hState => hWeaker _ _ (h state hState)

theorem leads_pure {value : α} {Q : View → Except Error α → Prop} (h : Q before (.ok value)) :
    Leads view (pure value : Program State Error α) before Q := by
  intro state hState
  rw [← hState] at h
  exact h

theorem leads_bind {first : Program State Error α} {next : α → Program State Error β}
    {R : View → Except Error α → Prop} {Q : View → Except Error β → Prop}
    (hFirst : Leads view first before R)
    (hError : ∀ later error, R later (.error error) → Q later (.error error))
    (hNext : ∀ later value, R later (.ok value) → Leads view (next value) later Q) :
    Leads view (first >>= next) before Q := by
  intro state hState
  refine (hFirst state hState).bind ?_ ?_
  · intro later error hLater
    exact hError _ _ hLater
  · intro later value hLater
    exact hNext _ _ hLater later rfl

/-- A program goes on from a part that is not seen. -/
theorem leads_of_keeps_bind {first : Program State Error α} {next : α → Program State Error β}
    {Q : View → Except Error β → Prop} (hFirst : Keeps view first)
    (hError : ∀ error, Q before (.error error))
    (hNext : ∀ value, Leads view (next value) before Q) :
    Leads view (first >>= next) before Q := by
  refine leads_bind (R := fun later _ => later = before) (hFirst.leads fun _ => rfl) ?_ ?_
  · rintro _ error rfl
    exact hError error
  · rintro _ value rfl
    exact hNext value

theorem leads_get_bind {next : State → Program State Error β} {Q : View → Except Error β → Prop}
    (h : ∀ state, view state = before → Leads view (next state) before Q) :
    Leads view (get >>= next) before Q :=
  fun state hState => h state hState state hState

theorem leads_set_bind {later : State} {next : PUnit → Program State Error β}
    {Q : View → Except Error β → Prop} (h : Leads view (next ⟨⟩) (view later) Q) :
    Leads view (set later >>= next) before Q :=
  fun _ _ => h later rfl

theorem leads_modify_bind {change : State → State} {next : PUnit → Program State Error β}
    {Q : View → Except Error β → Prop}
    (h : ∀ state, view state = before → Leads view (next ⟨⟩) (view (change state)) Q) :
    Leads view (modify change >>= next) before Q :=
  fun state hState => h state hState (change state) rfl

theorem leads_ite {test : Prop} [Decidable test] {yes no : Program State Error α}
    {Q : View → Except Error α → Prop} (hYes : test → Leads view yes before Q)
    (hNo : ¬ test → Leads view no before Q) :
    Leads view (if test then yes else no) before Q := by
  by_cases h : test
  · rw [if_pos h]
    exact hYes h
  · rw [if_neg h]
    exact hNo h

end Views
/-! Two runs side by side. -/

section TwoRuns
variable {R : State → State → Prop} {first second : State}

/-- Two programs, each started in its state, answer the same and leave states
in the given relation. -/
def Matches (R : State → State → Prop) (left right : Program State Error α)
    (first second : State) : Prop :=
  R (left.execute first).1 (right.execute second).1 ∧
    (left.execute first).2 = (right.execute second).2

theorem matches_pure (h : R first second) (value : α) :
    Matches R (pure value : Program State Error α) (pure value) first second :=
  ⟨h, rfl⟩

theorem matches_bind {left right : Program State Error α} {next other : α → Program State Error β}
    (h : Matches R left right first second)
    (hNext : ∀ firstLater secondLater value, R firstLater secondLater →
      left.execute first = (firstLater, .ok value) →
        Matches R (next value) (other value) firstLater secondLater) :
    Matches R (left >>= next) (right >>= other) first second := by
  unfold Matches at h ⊢
  rw [execute_bind, execute_bind]
  rcases hLeft : left.execute first with ⟨firstLater, outcome⟩
  rcases hRight : right.execute second with ⟨secondLater, result⟩
  rw [hLeft, hRight] at h
  obtain ⟨hRelated, rfl⟩ := h
  cases outcome with
  | error error => exact ⟨hRelated, rfl⟩
  | ok value => exact hNext firstLater secondLater value hRelated hLeft

theorem matches_get_bind {next other : State → Program State Error β}
    (h : Matches R (next first) (other second) first second) :
    Matches R (get >>= next) (get >>= other) first second :=
  h

theorem matches_set_bind {firstLater secondLater : State}
    {next other : PUnit → Program State Error β}
    (h : Matches R (next ⟨⟩) (other ⟨⟩) firstLater secondLater) :
    Matches R (set firstLater >>= next) (set secondLater >>= other) first second :=
  h

theorem matches_ite {test : Prop} [Decidable test] {yes no other rest : Program State Error α}
    (hYes : test → Matches R yes other first second)
    (hNo : ¬ test → Matches R no rest first second) :
    Matches R (if test then yes else no) (if test then other else rest) first second := by
  by_cases h : test
  · rw [if_pos h, if_pos h]
    exact hYes h
  · rw [if_neg h, if_neg h]
    exact hNo h

end TwoRuns
end Program
end HamLogger
