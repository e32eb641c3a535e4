import Mathlib.Data.List.Induction

/-! Rebuilding a state by replaying a log with a step that can fail. Whether
a replay succeeds is decided entry by entry, by a condition on the entry and
the entries before it; the rebuilt state does not occur in that condition. -/
namespace HamLogger.Replay

universe u v w
variable {State : Type u} {Entry : Type v} {Error : Type u}

/-- Replay a log from a start state, stopping at the first failure. -/
def replay (step : State → Entry → Except Error State) (start : State) :
    List Entry → Except Error State
  | [] => .ok start
  | entry :: rest =>
      match step start entry with
      | .ok next => replay step next rest
      | .error error => .error error

/-- The replay returns a state. -/
def Succeeds (step : State → Entry → Except Error State) (start : State)
    (log : List Entry) : Prop :=
  ∃ finish, replay step start log = .ok finish

/-- Every entry of the log is acceptable after the entries before it. -/
def Accepted (accepts : List Entry → Entry → Prop) (log : List Entry) : Prop :=
  ∀ seen entry rest, log = seen ++ entry :: rest → accepts seen entry

theorem replay_append (step : State → Entry → Except Error State) (start : State)
    (first second : List Entry) :
    replay step start (first ++ second) =
      match replay step start first with
      | .ok middle => replay step middle second
      | .error error => .error error := by
  induction first generalizing start with
  | nil => rfl
  | cons entry rest ih =>
      simp only [List.cons_append, replay]
      cases step start entry with
      | ok next => exact ih next
      | error error => rfl

theorem replay_snoc (step : State → Entry → Except Error State) (start : State)
    (log : List Entry) (entry : Entry) :
    replay step start (log ++ [entry]) =
      match replay step start log with
      | .ok middle => step middle entry
      | .error error => .error error := by
  rw [replay_append]
  cases replay step start log with
  | error error => rfl
  | ok middle =>
      simp only [replay]
      cases step middle entry <;> rfl

theorem accepted_nil (accepts : List Entry → Entry → Prop) : Accepted accepts [] := by
  intro seen entry rest h
  simp at h

theorem accepted_snoc (accepts : List Entry → Entry → Prop) (log : List Entry)
    (entry : Entry) :
    Accepted accepts (log ++ [entry]) ↔ Accepted accepts log ∧ accepts log entry := by
  constructor
  · intro h
    refine ⟨?_, h log entry [] rfl⟩
    rintro seen e rest rfl
    exact h seen e (rest ++ [entry]) (by simp)
  · rintro ⟨hLog, hEntry⟩ seen e rest hEq
    cases rest using List.reverseRecOn with
    | nil =>
        obtain ⟨rfl, hLast⟩ := List.append_inj' hEq rfl
        obtain rfl : entry = e := by simpa using hLast
        exact hEntry
    | append_singleton rest last =>
        have hCut : log ++ [entry] = (seen ++ e :: rest) ++ [last] := by simpa using hEq
        obtain ⟨rfl, _⟩ := List.append_inj' hCut rfl
        exact hLog seen e rest rfl

theorem Accepted.mono {accepts weaker : List Entry → Entry → Prop} {log : List Entry}
    (h : Accepted accepts log)
    (hWeaker : ∀ seen entry, accepts seen entry → weaker seen entry) : Accepted weaker log :=
  fun seen entry rest hEq => hWeaker seen entry (h seen entry rest hEq)

theorem accepted_and (first second : List Entry → Entry → Prop) (log : List Entry) :
    Accepted (fun seen entry => first seen entry ∧ second seen entry) log ↔
      Accepted first log ∧ Accepted second log :=
  ⟨fun h => ⟨fun s e r hEq => (h s e r hEq).1, fun s e r hEq => (h s e r hEq).2⟩,
    fun h s e r hEq => ⟨h.1 s e r hEq, h.2 s e r hEq⟩⟩

/-- The first entry of a log that is not acceptable is unique. -/
theorem Accepted.first_unique {accepts : List Entry → Entry → Prop}
    {first second : List Entry} (hFirst : Accepted accepts first)
    (hSecond : Accepted accepts second) {a b : Entry} (ha : ¬accepts first a)
    (hb : ¬accepts second b) {restA restB : List Entry}
    (hEq : first ++ a :: restA = second ++ b :: restB) : first = second := by
  rcases List.append_eq_append_iff.mp hEq with ⟨gap, rfl, hGap⟩ | ⟨gap, rfl, hGap⟩
  · cases gap with
    | nil => simp
    | cons x gap =>
        obtain ⟨rfl, _⟩ := List.cons.inj hGap
        exact absurd (hSecond first a gap rfl) ha
  · cases gap with
    | nil => simp
    | cons x gap =>
        obtain ⟨rfl, _⟩ := List.cons.inj hGap
        exact absurd (hFirst second b gap rfl) hb

/-- What each accepted entry keeps holds after a whole replay. It may speak
about the entries read so far, of which some were read before the replay. -/
theorem replay_invariant {step : State → Entry → Except Error State}
    {accepts : List Entry → Entry → Prop} (inv : List Entry → State → Prop)
    (hStep : ∀ seen state entry next, accepts seen entry → inv seen state →
      step state entry = .ok next → inv (seen ++ [entry]) next)
    (before : List Entry) {log : List Entry} {start finish : State} (hStart : inv before start)
    (hAccepted : Accepted accepts (before ++ log)) (hReplay : replay step start log = .ok finish) :
    inv (before ++ log) finish := by
  induction log using List.reverseRecOn generalizing finish with
  | nil =>
      obtain rfl : start = finish := by simpa [replay] using hReplay
      rw [List.append_nil]
      exact hStart
  | append_singleton log entry ih =>
      rw [replay_snoc] at hReplay
      cases hPrior : replay step start log with
      | error error => simp [hPrior] at hReplay
      | ok middle =>
          simp only [hPrior] at hReplay
          rw [← List.append_assoc, accepted_snoc] at hAccepted
          obtain ⟨hLog, hEntry⟩ := hAccepted
          rw [← List.append_assoc]
          exact hStep _ middle entry finish hEntry (ih hLog hPrior) hReplay

/-- What one step of a replay must satisfy for its success to be decided by
the log alone: a relation between the log read so far and the state. -/
structure Decided (step : State → Entry → Except Error State)
    (tracks : List Entry → State → Prop) (accepts : List Entry → Entry → Prop) : Prop where
  succeeds : ∀ seen state entry, tracks seen state →
    ((∃ next, step state entry = .ok next) ↔ accepts seen entry)
  keeps : ∀ seen state entry next, tracks seen state → step state entry = .ok next →
    tracks (seen ++ [entry]) next

namespace Decided
variable {step : State → Entry → Except Error State}
  {tracks : List Entry → State → Prop} {accepts : List Entry → Entry → Prop}

/-- A state reached by replaying tracks the whole log. -/
theorem tracks_of_replay (h : Decided step tracks accepts) {start finish : State}
    (hStart : tracks [] start) {log : List Entry} (hReplay : replay step start log = .ok finish) :
    tracks log finish := by
  induction log using List.reverseRecOn generalizing finish with
  | nil =>
      obtain rfl : start = finish := by simpa [replay] using hReplay
      exact hStart
  | append_singleton log entry ih =>
      rw [replay_snoc] at hReplay
      cases hPrior : replay step start log with
      | error error => simp [hPrior] at hReplay
      | ok middle =>
          simp only [hPrior] at hReplay
          exact h.keeps log middle entry finish (ih hPrior) hReplay

/-- A replay succeeds exactly on the logs whose entries are all accepted. -/
theorem succeeds_iff (h : Decided step tracks accepts) {start : State}
    (hStart : tracks [] start) (log : List Entry) :
    Succeeds step start log ↔ Accepted accepts log := by
  induction log using List.reverseRecOn with
  | nil => exact iff_of_true ⟨start, rfl⟩ (accepted_nil accepts)
  | append_singleton log entry ih =>
      rw [accepted_snoc, ← ih, Succeeds]
      constructor
      · rintro ⟨finish, hReplay⟩
        rw [replay_snoc] at hReplay
        cases hPrior : replay step start log with
        | error error => simp [hPrior] at hReplay
        | ok middle =>
            simp only [hPrior] at hReplay
            have hTracks := h.tracks_of_replay hStart hPrior
            exact ⟨⟨middle, hPrior⟩, (h.succeeds log middle entry hTracks).mp ⟨finish, hReplay⟩⟩
      · rintro ⟨⟨middle, hPrior⟩, hAccepts⟩
        have hTracks := h.tracks_of_replay hStart hPrior
        obtain ⟨finish, hStep⟩ := (h.succeeds log middle entry hTracks).mpr hAccepts
        exact ⟨finish, by rw [replay_snoc, hPrior]; exact hStep⟩

end Decided
end HamLogger.Replay
