import HamLogger.Library.Program

/-! Programs whose state is the list of the calls they have made, with any
answer to a call. What a program may call is proved by the structure of the
program. -/
namespace HamLogger.CallTrace

open Program

variable {Call Error Failure α β : Type}

def makeCall (made : Call) : Program (List Call) Error Unit :=
  modify fun calls => calls ++ [made]

/-- A result that ends the program if it is an error. -/
def orFail (failure : Failure → Error) (result : Except Failure α) :
    Program (List Call) Error α :=
  reading fun _ => result.mapError failure

/-- The program makes only calls that are allowed, and its result is as said. -/
def Makes (Allowed : Call → Prop) (program : Program (List Call) Error α) (Q : α → Prop) :
    Prop :=
  ∀ calls, (∀ made ∈ calls, Allowed made) →
    Ensures program calls fun later outcome =>
      (∀ made ∈ later, Allowed made) ∧ ∀ value, outcome = .ok value → Q value

variable {Allowed : Call → Prop}

/-- All the calls of a program that starts without any. -/
theorem Makes.calls {program : Program (List Call) Error α} {Q : α → Prop}
    (h : Makes Allowed program Q) : ∀ made ∈ (program.execute []).1, Allowed made :=
  (h [] fun _ hMem => by cases hMem).1

theorem Makes.mono {program : Program (List Call) Error α} {Q weaker : α → Prop}
    (h : Makes Allowed program Q) (hWeaker : ∀ value, Q value → weaker value) :
    Makes Allowed program weaker := fun calls hCalls =>
  (h calls hCalls).mono fun _ _ hLater =>
    ⟨hLater.1, fun value hValue => hWeaker value (hLater.2 value hValue)⟩

theorem makes_pure {value : α} {Q : α → Prop} (h : Q value) :
    Makes Allowed (pure value : Program (List Call) Error α) Q :=
  fun _ hCalls => ⟨hCalls, fun _ hSame => Except.ok.inj hSame ▸ h⟩

theorem makes_throw {error : Error} {Q : α → Prop} :
    Makes Allowed (throw error : Program (List Call) Error α) Q :=
  fun _ hCalls => ⟨hCalls, fun _ hSame => by cases hSame⟩

theorem makes_bind {first : Program (List Call) Error α}
    {next : α → Program (List Call) Error β} {R : α → Prop} {Q : β → Prop}
    (hFirst : Makes Allowed first R) (hNext : ∀ value, R value → Makes Allowed (next value) Q) :
    Makes Allowed (first >>= next) Q := by
  intro calls hCalls
  refine Ensures.bind (hFirst calls hCalls) ?_ ?_
  · rintro later error ⟨hLater, _⟩
    exact ⟨hLater, fun _ hSame => by cases hSame⟩
  · rintro later value ⟨hLater, hValue⟩
    exact hNext value (hValue value rfl) later hLater

theorem makes_call {made : Call} (h : Allowed made) :
    Makes Allowed (makeCall made : Program (List Call) Error Unit) fun _ => True := by
  intro calls hCalls
  refine ⟨fun other hMem => ?_, fun _ _ => trivial⟩
  rcases List.mem_append.mp hMem with hEarlier | hLast
  · exact hCalls other hEarlier
  · rw [List.mem_singleton.mp hLast]
    exact h

theorem makes_orFail {failure : Failure → Error} (result : Except Failure α) :
    Makes Allowed (orFail failure result : Program (List Call) Error α) fun value =>
      result = .ok value := by
  intro calls hCalls
  refine ⟨hCalls, fun value hSame => ?_⟩
  cases result with
  | error error => cases hSame
  | ok found => rw [Except.ok.inj hSame]

end HamLogger.CallTrace
