import Mathlib.Data.List.Basic
import Mathlib.Algebra.Order.Group.Int

/-! A counter of a fixed window: the first request after the window is over
opens the next one, and a window grants so many requests. -/
namespace HamLogger.WindowCounter

/-- The window that is open, and what it has granted. -/
structure Counter where
  start : Int
  count : Nat

/-- A granted request and the start of the window that granted it. -/
structure Grant where
  instant : Int
  start : Int

/-- The counter a request meets: a new one where there is none or it is over. -/
def opened (window now : Int) : Option Counter → Counter
  | none => ⟨now, 0⟩
  | some counter => if window ≤ now - counter.start then ⟨now, 0⟩ else counter

/-- The counter has counted the grants. -/
def Current (window clock : Int) (grants : List Grant) : Option Counter → Prop
  | none => grants = []
  | some counter => counter.start ≤ clock ∧
      (∀ grant ∈ grants, grant.start = counter.start ∨ grant.start + window ≤ counter.start) ∧
      (grants.countP fun grant => grant.start = counter.start) = counter.count

/-- The grants of a run, with the counter it leaves. -/
structure Counted (window : Int) (limit : Nat) (clock : Int) (grants : List Grant)
    (found : Option Counter) : Prop where
  inside : ∀ grant ∈ grants, grant.start ≤ grant.instant ∧ grant.instant < grant.start + window
  apart : ∀ first ∈ grants, ∀ second ∈ grants, first.start = second.start ∨
    first.start + window ≤ second.start ∨ second.start + window ≤ first.start
  bounded : ∀ start, (grants.countP fun grant => grant.start = start) ≤ limit
  current : Current window clock grants found

section Runs
variable {window clock now : Int} {limit : Nat} {grants : List Grant} {found : Option Counter}

theorem Counted.nil (window : Int) (limit : Nat) (clock : Int) :
    Counted window limit clock [] none where
  inside := by simp
  apart := by simp
  bounded := by simp
  current := rfl

theorem Counted.wait (h : Counted window limit clock grants found) (hTime : clock ≤ now) :
    Counted window limit now grants found := by
  refine ⟨h.inside, h.apart, h.bounded, ?_⟩
  cases found with
  | none => exact h.current
  | some counter => exact ⟨h.current.1.trans hTime, h.current.2⟩

/-- What a request knows of the counter it meets. -/
theorem Counted.opened (h : Counted window limit clock grants found) (hWindow : 0 < window)
    (hTime : clock ≤ now) :
    (opened window now found).start ≤ now ∧ now < (opened window now found).start + window ∧
      Current window now grants (some (WindowCounter.opened window now found)) := by
  cases found with
  | none =>
      obtain rfl : grants = [] := h.current
      simp [WindowCounter.opened, Current, hWindow]
  | some counter =>
      obtain ⟨hStart, hGrants, hCount⟩ := h.current
      by_cases hOver : window ≤ now - counter.start
      · have hOld : ∀ grant ∈ grants, grant.start + window ≤ now := fun grant hMem => by
          have hGrant := hGrants grant hMem
          omega
        have hOpened : WindowCounter.opened window now (some counter) = ⟨now, 0⟩ := if_pos hOver
        rw [hOpened]
        refine ⟨le_refl now, by dsimp only; omega, le_refl now,
          fun grant hMem => .inr (hOld grant hMem), ?_⟩
        refine List.countP_eq_zero.mpr fun grant hMem hSame => ?_
        have hBefore := hOld grant hMem
        simp only [decide_eq_true_eq] at hSame
        omega
      · have hOpened : WindowCounter.opened window now (some counter) = counter := if_neg hOver
        rw [hOpened]
        exact ⟨hStart.trans hTime, by omega, hStart.trans hTime, hGrants, hCount⟩

/-- A window that is open grants one more request while it is below its limit. -/
theorem Counted.grant (h : Counted window limit clock grants found) (hWindow : 0 < window)
    (hTime : clock ≤ now) (hBelow : (WindowCounter.opened window now found).count < limit) :
    Counted window limit now
      (grants ++ [⟨now, (WindowCounter.opened window now found).start⟩])
      (some ⟨(WindowCounter.opened window now found).start,
        (WindowCounter.opened window now found).count + 1⟩) := by
  obtain ⟨hStart, hEnd, hClock, hGrants, hCount⟩ := h.opened hWindow hTime
  generalize WindowCounter.opened window now found = counter at *
  have hSingle : ∀ {grant : Grant}, grant ∈ grants ++ [⟨now, counter.start⟩] →
      grant ∈ grants ∨ grant = ⟨now, counter.start⟩ := fun hMem => by simpa using hMem
  refine ⟨fun grant hMem => ?_, fun first hFirst second hSecond => ?_, fun start => ?_,
    hClock, fun grant hMem => ?_, ?_⟩
  · rcases hSingle hMem with hOld | rfl
    · exact h.inside grant hOld
    · exact ⟨hStart, hEnd⟩
  · rcases hSingle hFirst with hOld | rfl <;> rcases hSingle hSecond with hOther | rfl
    · exact h.apart first hOld second hOther
    · exact (hGrants first hOld).imp_right .inl
    · exact (hGrants second hOther).imp Eq.symm .inr
    · exact .inl rfl
  · rw [List.countP_append]
    by_cases hSame : counter.start = start
    · subst hSame
      have hOne : ([⟨now, counter.start⟩] : List Grant).countP
          (fun grant => grant.start = counter.start) = 1 := by simp
      omega
    · have hZero : ([⟨now, counter.start⟩] : List Grant).countP
          (fun grant => grant.start = start) = 0 := by simp [hSame]
      rw [hZero]
      exact h.bounded start
  · rcases hSingle hMem with hOld | rfl
    · exact hGrants grant hOld
    · exact .inl rfl
  · rw [List.countP_append, hCount]
    simp

/-- Where two windows cover what a test finds, their limits bound it. -/
theorem countP_le_two {test : Grant → Bool} {first second : Int}
    (hLimit : ∀ start, (grants.countP fun grant => grant.start = start) ≤ limit)
    (hCover : ∀ grant ∈ grants, test grant = true → grant.start = first ∨ grant.start = second) :
    grants.countP test ≤ 2 * limit := by
  have hSum : grants.countP test ≤ (grants.countP fun grant => grant.start = first) +
      grants.countP fun grant => grant.start = second := by
    clear hLimit
    induction grants with
    | nil => simp
    | cons grant rest ih =>
        have hRest := ih fun other hOther => hCover other (List.mem_cons_of_mem _ hOther)
        have hHead := hCover grant List.mem_cons_self
        rw [List.countP_cons, List.countP_cons, List.countP_cons]
        by_cases hTest : test grant = true
        · rcases hHead hTest with hFirst | hSecond
          · simp only [hTest, hFirst, decide_true, if_true]
            omega
          · simp only [hTest, hSecond, decide_true, if_true]
            omega
        · rw [if_neg hTest]
          omega
  have hFirst := hLimit first
  have hSecond := hLimit second
  omega

/-- No interval as long as a window sees more than two windows' worth of grants. -/
theorem Counted.interval (h : Counted window limit clock grants found) (since : Int) :
    (grants.countP fun grant => since ≤ grant.instant ∧ grant.instant ≤ since + window) ≤
      2 * limit := by
  -- two windows that the interval meets leave no room for a third
  by_cases hAny : ∃ grant ∈ grants, since ≤ grant.instant ∧ grant.instant ≤ since + window
  · obtain ⟨one, hOne, hOneLow, hOneHigh⟩ := hAny
    by_cases hOther : ∃ grant ∈ grants, (since ≤ grant.instant ∧ grant.instant ≤ since + window) ∧
        grant.start ≠ one.start
    · obtain ⟨two, hTwo, ⟨hTwoLow, hTwoHigh⟩, hApart⟩ := hOther
      refine @countP_le_two _ _ _ one.start two.start h.bounded
        fun grant hMem hTest => ?_
      obtain ⟨hLow, hHigh⟩ := of_decide_eq_true hTest
      have hInside := h.inside grant hMem
      have hInsideOne := h.inside one hOne
      have hInsideTwo := h.inside two hTwo
      have hOneTwo := h.apart one hOne two hTwo
      have hGrantOne := h.apart grant hMem one hOne
      have hGrantTwo := h.apart grant hMem two hTwo
      omega
    · refine @countP_le_two _ _ _ one.start one.start h.bounded
        fun grant hMem hTest => .inl ?_
      by_contra hApart
      exact hOther ⟨grant, hMem, of_decide_eq_true hTest, hApart⟩
  · have hZero : (grants.countP fun grant =>
        since ≤ grant.instant ∧ grant.instant ≤ since + window) = 0 :=
      List.countP_eq_zero.mpr fun grant hMem hTest =>
        hAny ⟨grant, hMem, of_decide_eq_true hTest⟩
    rw [hZero]
    exact Nat.zero_le _

end Runs
end HamLogger.WindowCounter
