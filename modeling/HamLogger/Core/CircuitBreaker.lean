import HamLogger.Core.Crates
import HamLogger.Library.KeyTally
import HamLogger.Library.Transition

/-! The circuit breaker of a provider. A probe of a half-open period is counted
when it is allowed, and only an outcome that opens or closes the circuit takes
the count back. -/
namespace HamLogger

open Transition (Run System)

inductive ProviderOutcomeKind where
  | success | partialSuccess | retryableFailure | permanentFailure | authenticationRequired
  | authenticationRejected | authorizationDenied | rateLimited | providerUnavailable
  | malformedProviderResponse | invalidLocalConfiguration | timeout | transportFailure
  | cancelled | uncertainResult
  deriving DecidableEq

/-- The failures that count against a provider. -/
def ProviderOutcomeKind.opensCircuit : ProviderOutcomeKind → Bool
  | .retryableFailure | .providerUnavailable | .timeout | .transportFailure
  | .malformedProviderResponse => true
  | _ => false

def ProviderOutcomeKind.isSuccess : ProviderOutcomeKind → Bool
  | .success | .partialSuccess => true
  | _ => false

inductive CircuitBreakerState where
  | closed | «open» | halfOpen
  deriving DecidableEq

structure ProviderCircuitBreaker where
  state : CircuitBreakerState
  failureThreshold : UInt32
  consecutiveFailures : UInt32
  cooldownSeconds : UInt64
  openedAt : Option DateTime
  halfOpenProbeLimit : UInt32
  halfOpenInFlight : UInt32
  deriving DecidableEq

namespace ProviderCircuitBreaker

def new (failureThreshold : UInt32) (cooldownSeconds : UInt64) (halfOpenProbeLimit : UInt32) :
    ProviderCircuitBreaker where
  state := .closed
  failureThreshold := failureThreshold
  consecutiveFailures := 0
  cooldownSeconds := cooldownSeconds
  openedAt := none
  halfOpenProbeLimit := halfOpenProbeLimit
  halfOpenInFlight := 0

/-- The branch of a half-open circuit. -/
def allowProbe (breaker : ProviderCircuitBreaker) : Bool × ProviderCircuitBreaker :=
  if breaker.halfOpenInFlight < breaker.halfOpenProbeLimit then
    (true, { breaker with halfOpenInFlight := breaker.halfOpenInFlight + 1 })
  else (false, breaker)

/-- A new half-open period. -/
def halfOpened (breaker : ProviderCircuitBreaker) : ProviderCircuitBreaker :=
  { breaker with state := .halfOpen, halfOpenInFlight := 0 }

/-- The end of the cooldown panics outside the range of the crate. The call of
the function by itself meets the half-open branch. -/
def allowRequest (breaker : ProviderCircuitBreaker) (now : DateTime) :
    Option (Bool × ProviderCircuitBreaker) :=
  match breaker.state with
  | .closed => some (true, breaker)
  | .open => match breaker.openedAt with
      | none => some (false, breaker)
      | some opened =>
          (opened.addSeconds breaker.cooldownSeconds.toInt64.toInt).map fun ready =>
            if ready ≤ now then breaker.halfOpened.allowProbe else (false, breaker)
  | .halfOpen => some breaker.allowProbe

def recordSuccess (breaker : ProviderCircuitBreaker) : ProviderCircuitBreaker :=
  { breaker with
    state := .closed, consecutiveFailures := 0, openedAt := none, halfOpenInFlight := 0 }

/-- The count of failures wraps, as in a release build. -/
def recordOutcome (breaker : ProviderCircuitBreaker) (kind : ProviderOutcomeKind)
    (now : DateTime) : ProviderCircuitBreaker :=
  if !kind.opensCircuit then
    if kind.isSuccess then breaker.recordSuccess else breaker
  else
    let failures := breaker.consecutiveFailures + 1
    if breaker.state = .halfOpen ∨ breaker.failureThreshold ≤ failures then
      { breaker with
        consecutiveFailures := failures, state := .open, openedAt := some now,
        halfOpenInFlight := 0 }
    else { breaker with consecutiveFailures := failures }

end ProviderCircuitBreaker

/-! The requests under way. -/

/-- How a request reports: by `record_success`, or by `record_outcome`. -/
inductive ProviderReport where
  | success
  | outcome (kind : ProviderOutcomeKind) (now : DateTime)

def ProviderReport.record (report : ProviderReport) (breaker : ProviderCircuitBreaker) :
    ProviderCircuitBreaker :=
  match report with
  | .success => breaker.recordSuccess
  | .outcome kind now => breaker.recordOutcome kind now

/-- A report that neither closes nor opens the circuit. -/
def ProviderReport.Neutral : ProviderReport → Prop
  | .success => False
  | .outcome kind _ => kind.opensCircuit = false ∧ kind.isSuccess = false

/-- What a request was allowed as. -/
inductive RequestOrigin where
  | plain
  | probe (period : Nat)
  deriving DecidableEq

/-- A breaker, the number of half-open periods it has begun, and the requests
that have not reported. -/
structure ProviderTraffic where
  breaker : ProviderCircuitBreaker
  period : Nat
  outstanding : List RequestOrigin

namespace ProviderTraffic

/-- The probes of the current half-open period that are under way. Without a
half-open period there are none. -/
def probes (traffic : ProviderTraffic) : Nat :=
  match traffic.breaker.state with
  | .halfOpen => traffic.outstanding.count (.probe traffic.period)
  | _ => 0

/-- The traffic after a call of `allow_request` that left `next`. -/
def allowed (traffic : ProviderTraffic) (answer : Bool) (next : ProviderCircuitBreaker) :
    ProviderTraffic :=
  let period :=
    if traffic.breaker.state ≠ .halfOpen ∧ next.state = .halfOpen then traffic.period + 1
    else traffic.period
  let origin := if next.state = .halfOpen then .probe period else .plain
  { breaker := next
    period := period
    outstanding := if answer then traffic.outstanding ++ [origin] else traffic.outstanding }

def reported (traffic : ProviderTraffic) (origin : RequestOrigin) (report : ProviderReport) :
    ProviderTraffic :=
  { traffic with
    breaker := report.record traffic.breaker
    outstanding := traffic.outstanding.erase origin }

end ProviderTraffic

inductive TrafficStep where
  | allow (now : DateTime) (answer : Bool)
  | report (origin : RequestOrigin) (report : ProviderReport)

/-- Calls in any order; every allowed request reports once, at any later time. -/
def providerTraffic : System ProviderTraffic TrafficStep where
  step traffic label next :=
    match label with
    | .allow now answer => ∃ breaker,
        traffic.breaker.allowRequest now = some (answer, breaker) ∧
          next = traffic.allowed answer breaker
    | .report origin report =>
        origin ∈ traffic.outstanding ∧ next = traffic.reported origin report

/-! What one call can do. -/

namespace ProviderCircuitBreaker
variable {breaker next : ProviderCircuitBreaker} {answer : Bool} {now : DateTime}

theorem allowProbe_cases (h : breaker.allowProbe = (answer, next)) :
    (answer = true ∧ breaker.halfOpenInFlight < breaker.halfOpenProbeLimit ∧
      next = { breaker with halfOpenInFlight := breaker.halfOpenInFlight + 1 }) ∨
    (answer = false ∧ breaker.halfOpenProbeLimit ≤ breaker.halfOpenInFlight ∧
      next = breaker) := by
  unfold allowProbe at h
  split at h
  · rename_i hRoom
    obtain ⟨rfl, rfl⟩ := Prod.mk.inj h
    exact .inl ⟨rfl, hRoom, rfl⟩
  · rename_i hFull
    obtain ⟨rfl, rfl⟩ := Prod.mk.inj h
    exact .inr ⟨rfl, UInt32.not_lt.mp hFull, rfl⟩

/-- The cooldown of an open circuit is over. -/
def Ready (breaker : ProviderCircuitBreaker) (now : DateTime) : Prop :=
  ∃ opened ready, breaker.openedAt = some opened ∧
    opened.addSeconds breaker.cooldownSeconds.toInt64.toInt = some ready ∧ ready ≤ now

theorem allowRequest_cases (h : breaker.allowRequest now = some (answer, next)) :
    (breaker.state = .closed ∧ answer = true ∧ next = breaker) ∨
    (breaker.state = .open ∧ answer = false ∧ next = breaker) ∨
    (breaker.state = .open ∧ breaker.Ready now ∧
      breaker.halfOpened.allowProbe = (answer, next)) ∨
    (breaker.state = .halfOpen ∧ breaker.allowProbe = (answer, next)) := by
  unfold allowRequest at h
  split at h
  · rename_i hState
    obtain ⟨rfl, rfl⟩ := Prod.mk.inj (Option.some.inj h)
    exact .inl ⟨hState, rfl, rfl⟩
  · rename_i hState
    split at h
    · obtain ⟨rfl, rfl⟩ := Prod.mk.inj (Option.some.inj h)
      exact .inr (.inl ⟨hState, rfl, rfl⟩)
    · rename_i opened hOpened
      obtain ⟨ready, hReady, hAnswer⟩ := Option.map_eq_some_iff.mp h
      split at hAnswer
      · rename_i hLate
        exact .inr (.inr (.inl ⟨hState, ⟨opened, ready, hOpened, hReady, hLate⟩, hAnswer⟩))
      · obtain ⟨rfl, rfl⟩ := Prod.mk.inj hAnswer
        exact .inr (.inl ⟨hState, rfl, rfl⟩)
  · rename_i hState
    exact .inr (.inr (.inr ⟨hState, Option.some.inj h⟩))

end ProviderCircuitBreaker

/-- What a report does to the breaker. -/
inductive RecordResult (report : ProviderReport) (breaker : ProviderCircuitBreaker) :
    ProviderCircuitBreaker → Prop where
  | ignored (hNeutral : report.Neutral) : RecordResult report breaker breaker
  | closed (hNeutral : ¬ report.Neutral) : RecordResult report breaker breaker.recordSuccess
  | opened (hNeutral : ¬ report.Neutral) (failures : UInt32) (now : DateTime)
      (hReport : ∃ kind, report = .outcome kind now ∧ kind.opensCircuit = true) :
      RecordResult report breaker { breaker with
        consecutiveFailures := failures, state := .open, openedAt := some now,
        halfOpenInFlight := 0 }
  | counted (hNeutral : ¬ report.Neutral) (hState : breaker.state ≠ .halfOpen)
      (failures : UInt32) :
      RecordResult report breaker { breaker with consecutiveFailures := failures }

theorem ProviderReport.record_cases (report : ProviderReport)
    (breaker : ProviderCircuitBreaker) :
    RecordResult report breaker (report.record breaker) := by
  cases report with
  | success => exact .closed id
  | outcome kind now =>
      have hNeutral : (ProviderReport.outcome kind now).Neutral ↔
          kind.opensCircuit = false ∧ kind.isSuccess = false := Iff.rfl
      unfold ProviderReport.record ProviderCircuitBreaker.recordOutcome
      dsimp only
      cases hOpens : kind.opensCircuit with
      | false =>
          cases hSuccess : kind.isSuccess with
          | true => exact .closed (by rw [hNeutral, hSuccess]; simp)
          | false => exact .ignored (hNeutral.mpr ⟨hOpens, hSuccess⟩)
      | true =>
          have hCounts : ¬ (ProviderReport.outcome kind now).Neutral := by
            rw [hNeutral, hOpens]
            simp
          rw [if_neg (by simp)]
          split
          · exact .opened hCounts _ now ⟨kind, rfl, hOpens⟩
          · rename_i hBelow
            exact .counted hCounts (fun hState => hBelow (.inl hState)) _

/-! The count of the probes. -/

namespace ProviderTraffic

/-- What a call of `allow_request` leaves of the traffic. -/
inductive AllowResult (traffic : ProviderTraffic) (now : DateTime) :
    Bool → ProviderTraffic → Prop where
  | plain (hState : traffic.breaker.state = .closed) :
      AllowResult traffic now true
        { traffic with outstanding := traffic.outstanding ++ [.plain] }
  | refused (hState : traffic.breaker.state ≠ .closed)
      (hFull : traffic.breaker.state = .halfOpen →
        traffic.breaker.halfOpenProbeLimit ≤ traffic.breaker.halfOpenInFlight) :
      AllowResult traffic now false traffic
  | first (hState : traffic.breaker.state = .open) (hReady : traffic.breaker.Ready now) :
      AllowResult traffic now true
        { breaker := { traffic.breaker.halfOpened with halfOpenInFlight := 1 }
          period := traffic.period + 1
          outstanding := traffic.outstanding ++ [.probe (traffic.period + 1)] }
  | probe (hState : traffic.breaker.state = .halfOpen)
      (hRoom : traffic.breaker.halfOpenInFlight < traffic.breaker.halfOpenProbeLimit) :
      AllowResult traffic now true
        { breaker := { traffic.breaker with
            halfOpenInFlight := traffic.breaker.halfOpenInFlight + 1 }
          period := traffic.period
          outstanding := traffic.outstanding ++ [.probe traffic.period] }

theorem allowResult {traffic next : ProviderTraffic} {now : DateTime} {answer : Bool}
    (hLimit : 0 < traffic.breaker.halfOpenProbeLimit)
    (h : providerTraffic.step traffic (.allow now answer) next) :
    AllowResult traffic now answer next := by
  obtain ⟨breaker, hAllow, rfl⟩ := h
  rcases ProviderCircuitBreaker.allowRequest_cases hAllow with ⟨hState, rfl, rfl⟩ |
    ⟨hState, rfl, rfl⟩ | ⟨hState, hReady, hProbe⟩ | ⟨hState, hProbe⟩
  · have hResult := @AllowResult.plain traffic now hState
    simpa [allowed, hState] using hResult
  · have hResult := @AllowResult.refused traffic now
      (by rw [hState]; decide) (fun hHalf => by rw [hState] at hHalf; cases hHalf)
    simpa [allowed, hState] using hResult
  · rcases ProviderCircuitBreaker.allowProbe_cases hProbe with ⟨rfl, _, rfl⟩ | ⟨_, hFull, _⟩
    · have hResult := AllowResult.first hState hReady
      simpa [allowed, hState, ProviderCircuitBreaker.halfOpened] using hResult
    · exact absurd hLimit (UInt32.not_lt.mpr hFull)
  · rcases ProviderCircuitBreaker.allowProbe_cases hProbe with ⟨rfl, hRoom, rfl⟩ |
      ⟨rfl, hFull, rfl⟩
    · have hResult := @AllowResult.probe traffic now hState hRoom
      simpa [allowed, hState] using hResult
    · have hResult := @AllowResult.refused traffic now
        (by rw [hState]; decide) (fun _ => hFull)
      simpa [allowed, hState] using hResult

/-- The count of a breaker with the limit and the cooldown given: it is never
below the probes under way, nor above the limit. -/
structure Counted (limit : UInt32) (cooldown : UInt64) (traffic : ProviderTraffic) : Prop where
  sameLimit : traffic.breaker.halfOpenProbeLimit = limit
  sameCooldown : traffic.breaker.cooldownSeconds = cooldown
  opened : traffic.breaker.state = .open → ∃ opened, traffic.breaker.openedAt = some opened
  future : ∀ period, traffic.period < period → traffic.outstanding.count (.probe period) = 0
  bounded : ∀ period, traffic.outstanding.count (.probe period) ≤ limit.toNat
  probes : traffic.probes ≤ traffic.breaker.halfOpenInFlight.toNat
  inFlight : traffic.breaker.halfOpenInFlight ≤ limit
  idle : traffic.breaker.state ≠ .halfOpen → traffic.breaker.halfOpenInFlight = 0

theorem probes_of_halfOpen {traffic : ProviderTraffic}
    (h : traffic.breaker.state = .halfOpen) :
    traffic.probes = traffic.outstanding.count (.probe traffic.period) := by
  rw [probes, h]

theorem probes_of_not_halfOpen {traffic : ProviderTraffic}
    (h : traffic.breaker.state ≠ .halfOpen) : traffic.probes = 0 := by
  unfold probes
  split
  · rename_i hHalf
    exact absurd hHalf h
  · rfl

variable {traffic next : ProviderTraffic} {limit : UInt32} {cooldown : UInt64}

theorem count_append_probe (outstanding : List RequestOrigin) (period other : Nat) :
    (outstanding ++ [RequestOrigin.probe period]).count (.probe other) =
      outstanding.count (.probe other) + if other = period then 1 else 0 := by
  rw [List.count_append, List.count_singleton]
  by_cases hSame : other = period
  · simp [hSame]
  · have hOther : period ≠ other := Ne.symm hSame
    simp [hSame, hOther]

theorem count_append_plain (outstanding : List RequestOrigin) (period : Nat) :
    (outstanding ++ [RequestOrigin.plain]).count (.probe period) =
      outstanding.count (.probe period) := by
  simp [List.count_append]

theorem Counted.allow {now : DateTime} {answer : Bool} (h : Counted limit cooldown traffic)
    (hLimit : 0 < limit) (hResult : AllowResult traffic now answer next) :
    Counted limit cooldown next := by
  have hOne : (1 : UInt32) ≤ limit := by
    rw [UInt32.le_iff_toNat_le]
    exact UInt32.lt_iff_toNat_lt.mp hLimit
  cases hResult with
  | plain hState =>
      have hNot : traffic.breaker.state ≠ .halfOpen := by rw [hState]; decide
      refine ⟨h.sameLimit, h.sameCooldown, h.opened, fun period hPeriod => ?_, fun period => ?_, ?_,
        h.inFlight, h.idle⟩
      · exact (count_append_plain _ _).trans (h.future period hPeriod)
      · exact (count_append_plain _ _).trans_le (h.bounded period)
      · refine (probes_of_not_halfOpen ?_).trans_le (Nat.zero_le _)
        exact hNot
  | refused hState hFull => exact h
  | first hState hReady =>
      have hNew : traffic.outstanding.count (.probe (traffic.period + 1)) = 0 :=
        h.future _ (Nat.lt_succ_self _)
      refine ⟨h.sameLimit, h.sameCooldown, fun hOpen => (by cases hOpen), fun period hPeriod => ?_,
        fun period => ?_, ?_, hOne, fun hNot => absurd rfl hNot⟩
      · dsimp only at hPeriod
        rw [count_append_probe, if_neg (by omega), h.future period (by omega)]
      · rw [count_append_probe]
        split
        · rename_i hSame
          rw [hSame, hNew]
          exact UInt32.le_iff_toNat_le.mp hOne
        · exact h.bounded period
      · rw [probes_of_halfOpen rfl, count_append_probe, hNew, if_pos rfl]
        exact Nat.le_refl _
  | probe hState hRoom =>
      have hCount := KeyTally.toNat_add_one hRoom
      have hBelow : traffic.breaker.halfOpenInFlight.toNat < limit.toNat := by
        rw [← h.sameLimit]
        exact UInt32.lt_iff_toNat_lt.mp hRoom
      have hProbes := h.probes
      rw [probes_of_halfOpen hState] at hProbes
      refine ⟨h.sameLimit, h.sameCooldown, fun hOpen => ?_, fun period hPeriod => ?_,
        fun period => ?_, ?_,
        ?_, fun hNot => absurd hState hNot⟩
      · rw [hState] at hOpen
        cases hOpen
      · dsimp only at hPeriod
        rw [count_append_probe, if_neg (by omega), h.future period hPeriod]
      · rw [count_append_probe]
        split
        · rename_i hSame
          rw [hSame]
          omega
        · exact h.bounded period
      · refine (probes_of_halfOpen ?_).trans_le ?_
        · exact hState
        · rw [count_append_probe, if_pos rfl, hCount]
          exact Nat.add_le_add_right hProbes 1
      · rw [UInt32.le_iff_toNat_le, hCount]
        exact hBelow

theorem count_erase_le (outstanding : List RequestOrigin) (origin other : RequestOrigin) :
    (outstanding.erase origin).count other ≤ outstanding.count other :=
  List.erase_sublist.count_le _

theorem Counted.report {origin : RequestOrigin} {report : ProviderReport}
    (h : Counted limit cooldown traffic) :
    Counted limit cooldown (traffic.reported origin report) := by
  have hFuture : ∀ period, traffic.period < period →
      (traffic.outstanding.erase origin).count (.probe period) = 0 := fun period hPeriod =>
    Nat.le_zero.mp ((count_erase_le _ _ _).trans (h.future period hPeriod).le)
  have hBounded : ∀ period,
      (traffic.outstanding.erase origin).count (.probe period) ≤ limit.toNat := fun period =>
    (count_erase_le _ _ _).trans (h.bounded period)
  unfold reported
  have hRecord := report.record_cases traffic.breaker
  generalize report.record traffic.breaker = breaker at hRecord ⊢
  cases hRecord with
  | ignored hNeutral =>
      refine ⟨h.sameLimit, h.sameCooldown, h.opened, hFuture, hBounded, ?_, h.inFlight, h.idle⟩
      by_cases hState : traffic.breaker.state = .halfOpen
      · have hProbes := h.probes
        rw [probes_of_halfOpen hState] at hProbes
        refine (probes_of_halfOpen ?_).trans_le ((count_erase_le _ _ _).trans hProbes)
        exact hState
      · refine (probes_of_not_halfOpen ?_).trans_le (Nat.zero_le _)
        exact hState
  | closed hNeutral =>
      exact ⟨h.sameLimit, h.sameCooldown, fun hOpen => (by cases hOpen), hFuture, hBounded,
        Nat.zero_le _, UInt32.le_iff_toNat_le.mpr (Nat.zero_le _), fun _ => rfl⟩
  | opened hNeutral failures now hReport =>
      exact ⟨h.sameLimit, h.sameCooldown, fun _ => ⟨now, rfl⟩, hFuture, hBounded,
        Nat.zero_le _, UInt32.le_iff_toNat_le.mpr (Nat.zero_le _), fun _ => rfl⟩
  | counted hNeutral hState failures =>
      refine ⟨h.sameLimit, h.sameCooldown, h.opened, hFuture, hBounded, ?_, h.inFlight, h.idle⟩
      refine (probes_of_not_halfOpen ?_).trans_le (Nat.zero_le _)
      exact hState

theorem Counted.step {label : TrafficStep} (h : Counted limit cooldown traffic)
    (hLimit : 0 < limit) (hStep : providerTraffic.step traffic label next) :
    Counted limit cooldown next := by
  cases label with
  | allow now answer =>
      exact h.allow hLimit (allowResult (by rw [h.sameLimit]; exact hLimit) hStep)
  | report origin report =>
      obtain ⟨_, rfl⟩ := hStep
      exact h.report

/-- The count is the number of the probes of the current half-open period that
are under way. -/
def Balanced (traffic : ProviderTraffic) : Prop :=
  traffic.breaker.halfOpenInFlight.toNat = traffic.probes

theorem Balanced.allow {now : DateTime} {answer : Bool} (hBalanced : traffic.Balanced)
    (h : Counted limit cooldown traffic) (hResult : AllowResult traffic now answer next) :
    next.Balanced := by
  unfold Balanced at hBalanced ⊢
  cases hResult with
  | plain hState =>
      have hNot : traffic.breaker.state ≠ .halfOpen := by rw [hState]; decide
      refine Eq.trans ?_ (probes_of_not_halfOpen ?_).symm
      · exact hBalanced.trans (probes_of_not_halfOpen hNot)
      · exact hNot
  | refused hState hFull => exact hBalanced
  | first hState hReady =>
      refine Eq.trans ?_ (probes_of_halfOpen rfl).symm
      rw [count_append_probe, if_pos rfl, h.future _ (Nat.lt_succ_self _)]
      rfl
  | probe hState hRoom =>
      rw [probes_of_halfOpen hState] at hBalanced
      refine Eq.trans ?_ (probes_of_halfOpen ?_).symm
      · rw [count_append_probe, if_pos rfl, ← hBalanced]
        exact KeyTally.toNat_add_one hRoom
      · exact hState

end ProviderTraffic

/-- A report that the count takes notice of: no probe of the current half-open
period reports an outcome that neither closes nor opens the circuit. -/
def TrafficStep.Settles (traffic : ProviderTraffic) : TrafficStep → Prop
  | .allow .. => True
  | .report origin given =>
      ¬ (given.Neutral ∧ traffic.breaker.state = .halfOpen ∧ origin = .probe traffic.period)

namespace ProviderTraffic
variable {traffic next : ProviderTraffic} {limit : UInt32} {cooldown : UInt64}

theorem balanced_report_iff {origin : RequestOrigin} {report : ProviderReport}
    (hBalanced : traffic.Balanced) (h : Counted limit cooldown traffic)
    (hMem : origin ∈ traffic.outstanding) :
    (traffic.reported origin report).Balanced ↔
      (TrafficStep.report origin report).Settles traffic := by
  have hIdle : traffic.breaker.state ≠ .halfOpen →
      traffic.breaker.halfOpenInFlight.toNat = 0 := fun hState => by rw [h.idle hState]; rfl
  unfold Balanced at hBalanced
  unfold reported Balanced TrafficStep.Settles
  have hRecord := report.record_cases traffic.breaker
  generalize report.record traffic.breaker = breaker at hRecord ⊢
  cases hRecord with
  | ignored hNeutral =>
      by_cases hState : traffic.breaker.state = .halfOpen
      · rw [probes_of_halfOpen hState] at hBalanced
        have hProbes : ({ traffic with outstanding := traffic.outstanding.erase origin } :
            ProviderTraffic).probes =
              (traffic.outstanding.erase origin).count (.probe traffic.period) := by
          refine probes_of_halfOpen ?_
          exact hState
        rw [hProbes]
        dsimp only
        by_cases hOrigin : origin = .probe traffic.period
        · -- the probe is no longer under way and still counted
          have hOne : 0 < traffic.outstanding.count (.probe traffic.period) := by
            rw [← hOrigin]
            exact List.count_pos_iff.mpr hMem
          have hErased : (traffic.outstanding.erase origin).count (.probe traffic.period) =
              traffic.outstanding.count (.probe traffic.period) - 1 := by
            rw [hOrigin]
            exact List.count_erase_self
          rw [hErased]
          exact iff_of_false (by omega) fun hNot => hNot ⟨hNeutral, hState, hOrigin⟩
        · have hErased : (traffic.outstanding.erase origin).count (.probe traffic.period) =
              traffic.outstanding.count (.probe traffic.period) :=
            List.count_erase_of_ne (Ne.symm hOrigin)
          rw [hErased]
          exact iff_of_true hBalanced fun hBad => hOrigin hBad.2.2
      · refine iff_of_true ?_ fun hBad => hState hBad.2.1
        refine (hIdle hState).trans (probes_of_not_halfOpen ?_).symm
        exact hState
  | closed hNeutral => exact iff_of_true rfl fun hBad => hNeutral hBad.1
  | opened hNeutral failures now hReport => exact iff_of_true rfl fun hBad => hNeutral hBad.1
  | counted hNeutral hState failures =>
      refine iff_of_true ?_ fun hBad => hNeutral hBad.1
      refine (hIdle hState).trans (probes_of_not_halfOpen ?_).symm
      exact hState

theorem balanced_step_iff {label : TrafficStep} (hBalanced : traffic.Balanced)
    (h : Counted limit cooldown traffic) (hLimit : 0 < limit)
    (hStep : providerTraffic.step traffic label next) :
    next.Balanced ↔ label.Settles traffic := by
  cases label with
  | allow now answer =>
      exact iff_of_true
        (hBalanced.allow h (allowResult (by rw [h.sameLimit]; exact hLimit) hStep)) trivial
  | report origin report =>
      obtain ⟨hMem, rfl⟩ := hStep
      exact balanced_report_iff hBalanced h hMem

/-- The end of the cooldown of an open circuit. A closed one waits for
nothing. -/
def CooldownOver (traffic : ProviderTraffic) (now : DateTime) : Prop :=
  ∀ opened, traffic.breaker.openedAt = some opened →
    opened.nanos + traffic.breaker.cooldownSeconds.toNat * 1000000000 ≤ now.nanos

theorem toInt_cooldown {cooldown : UInt64} (h : cooldown.toNat ≤ 9223372036854775) :
    cooldown.toInt64.toInt = cooldown.toNat :=
  BitVec.toInt_eq_toNat_of_lt (by
    have hNat : cooldown.toInt64.toBitVec.toNat = cooldown.toNat := rfl
    omega)

/-- Adding seconds that end before an instant stays in the range. -/
theorem addSeconds_of_le {opened now : DateTime} {seconds : Int} (hSeconds : 0 ≤ seconds)
    (h : opened.nanos + seconds * 1000000000 ≤ now.nanos) :
    ∃ ready, opened.addSeconds seconds = some ready ∧ ready ≤ now := by
  have hLower := opened.lower
  have hUpper := now.upper
  exact ⟨⟨opened.nanos + seconds * 1000000000, by omega, by omega⟩, dif_pos ⟨by omega, by omega⟩, h⟩

/-- An open circuit lets no request through before the cooldown is over. -/
theorem cooldownOver_of_allowed {now : DateTime} (h : Counted limit cooldown traffic)
    (hLimit : 0 < limit) (hCooldown : cooldown.toNat ≤ 9223372036854775)
    (hState : traffic.breaker.state = .open)
    (hStep : providerTraffic.step traffic (.allow now true) next) : traffic.CooldownOver now := by
  cases allowResult (by rw [h.sameLimit]; exact hLimit) hStep with
  | plain hClosed =>
      rw [hState] at hClosed
      cases hClosed
  | probe hHalf hRoom =>
      rw [hState] at hHalf
      cases hHalf
  | first hOpen hReady =>
      obtain ⟨opened, ready, hOpened, hSum, hLate⟩ := hReady
      intro other hOther
      obtain rfl := Option.some.inj (hOpened.symm.trans hOther)
      have hNanos := DateTime.addSeconds_nanos hSum
      rw [h.sameCooldown, toInt_cooldown hCooldown] at hNanos
      rw [h.sameCooldown, ← hNanos]
      exact hLate

/-- Without a probe under way a balanced breaker lets the next request
through. -/
theorem Balanced.allowed {now : DateTime} (hBalanced : traffic.Balanced)
    (h : Counted limit cooldown traffic) (hLimit : 0 < limit)
    (hCooldown : cooldown.toNat ≤ 9223372036854775) (hProbes : traffic.probes = 0)
    (hOver : traffic.CooldownOver now) :
    ∃ next, providerTraffic.step traffic (.allow now true) next := by
  have hProbe : ∀ breaker : ProviderCircuitBreaker, breaker.halfOpenInFlight.toNat = 0 →
      breaker.halfOpenProbeLimit = limit → ∃ next, breaker.allowProbe = (true, next) := by
    intro breaker hNone hSame
    refine ⟨_, if_pos ?_⟩
    rw [hSame, UInt32.lt_iff_toNat_lt, hNone]
    exact UInt32.lt_iff_toNat_lt.mp hLimit
  suffices hAllow : ∃ breaker, traffic.breaker.allowRequest now = some (true, breaker) by
    obtain ⟨breaker, hAllow⟩ := hAllow
    exact ⟨_, breaker, hAllow, rfl⟩
  unfold ProviderCircuitBreaker.allowRequest
  cases hState : traffic.breaker.state with
  | closed => exact ⟨_, rfl⟩
  | halfOpen =>
      obtain ⟨breaker, hBreaker⟩ := hProbe traffic.breaker (hBalanced.trans hProbes) h.sameLimit
      exact ⟨breaker, congrArg some hBreaker⟩
  | «open» =>
      obtain ⟨opened, hOpened⟩ := h.opened hState
      have hEnd := hOver opened hOpened
      have hSeconds : traffic.breaker.cooldownSeconds.toInt64.toInt =
          traffic.breaker.cooldownSeconds.toNat := by
        rw [h.sameCooldown]
        exact toInt_cooldown hCooldown
      obtain ⟨ready, hReady, hLate⟩ := addSeconds_of_le (Int.natCast_nonneg _) hEnd
      obtain ⟨breaker, hBreaker⟩ := hProbe traffic.breaker.halfOpened rfl h.sameLimit
      refine ⟨breaker, ?_⟩
      rw [hOpened]
      dsimp only
      rw [hSeconds, hReady, Option.map_some, if_pos hLate, hBreaker]

/-! Whole runs. -/

def start (failureThreshold : UInt32) (cooldown : UInt64) (limit : UInt32) : ProviderTraffic where
  breaker := .new failureThreshold cooldown limit
  period := 0
  outstanding := []

theorem counted_start (failureThreshold : UInt32) (cooldown : UInt64) (limit : UInt32) :
    Counted limit cooldown (start failureThreshold cooldown limit) where
  sameLimit := rfl
  sameCooldown := rfl
  opened := fun hOpen => by cases hOpen
  future := fun _ _ => rfl
  bounded := fun _ => Nat.zero_le _
  probes := Nat.zero_le _
  inFlight := UInt32.le_iff_toNat_le.mpr (Nat.zero_le _)
  idle := fun _ => rfl

theorem counted_of_run {failureThreshold : UInt32} {labels : List TrafficStep}
    (hLimit : 0 < limit)
    (hRun : Run providerTraffic (start failureThreshold cooldown limit) labels traffic) :
    Counted limit cooldown traffic :=
  hRun.invariant (fun _ _ _ hCounted hStep => hCounted.step hLimit hStep)
    (counted_start failureThreshold cooldown limit)

/-- An open circuit was opened by a failure that the run has reported, at the
instant that the cooldown counts from. -/
def OpenedByFailure (labels : List TrafficStep) (traffic : ProviderTraffic) : Prop :=
  traffic.breaker.state = .open → ∃ origin kind opened,
    traffic.breaker.openedAt = some opened ∧ kind.opensCircuit = true ∧
      .report origin (.outcome kind opened) ∈ labels

theorem openedByFailure_of_run {failureThreshold : UInt32} {labels : List TrafficStep}
    (hLimit : 0 < limit)
    (hRun : Run providerTraffic (start failureThreshold cooldown limit) labels traffic) :
    OpenedByFailure labels traffic := by
  induction hRun with
  | nil => exact fun hOpen => by cases hOpen
  | @snoc before after labels label prior last ih =>
      have hOld : before.breaker.state = .open →
          after.breaker.openedAt = before.breaker.openedAt →
            ∃ origin kind opened, after.breaker.openedAt = some opened ∧
              kind.opensCircuit = true ∧
                .report origin (.outcome kind opened) ∈ labels ++ [label] := by
        intro hState hSame
        obtain ⟨origin, kind, opened, hOpened, hKind, hMem⟩ := ih hState
        exact ⟨origin, kind, opened, hSame.trans hOpened, hKind, List.mem_append_left _ hMem⟩
      intro hOpen
      cases label with
      | allow now answer =>
          have hCounted := counted_of_run hLimit prior
          cases allowResult (by rw [hCounted.sameLimit]; exact hLimit) last with
          | plain hState => exact hOld hOpen rfl
          | refused hState hFull => exact hOld hOpen rfl
          | first hState hReady => cases hOpen
          | probe hState hRoom => exact hOld hOpen rfl
      | report origin report =>
          obtain ⟨_, rfl⟩ := last
          unfold reported at hOpen hOld ⊢
          have hRecord := report.record_cases before.breaker
          generalize report.record before.breaker = breaker at hRecord hOpen hOld ⊢
          cases hRecord with
          | ignored hNeutral => exact hOld hOpen rfl
          | closed hNeutral => cases hOpen
          | counted hNeutral hState failures => exact hOld hOpen rfl
          | opened hNeutral failures now hReport =>
              obtain ⟨kind, rfl, hKind⟩ := hReport
              exact ⟨origin, kind, now, rfl, hKind,
                List.mem_append_right _ (List.mem_singleton_self _)⟩

/-- What holds in every run: an open circuit waits for its cooldown, and no
half-open period has more probes under way than the limit. -/
structure Guarded (limit : UInt32) (labels : List TrafficStep) (traffic : ProviderTraffic) :
    Prop where
  opened : OpenedByFailure labels traffic
  waits : traffic.breaker.state = .open → ∀ now next,
    providerTraffic.step traffic (.allow now true) next → traffic.CooldownOver now
  bounded : ∀ period, traffic.outstanding.count (.probe period) ≤ limit.toNat

/-- The breaker does not refuse forever: when no probe of the current period is
under way (as when every request has reported) and the cooldown is over, the
next request is allowed. -/
def Resumes (traffic : ProviderTraffic) : Prop :=
  ∀ now, traffic.probes = 0 → traffic.CooldownOver now →
    ∃ next, providerTraffic.step traffic (.allow now true) next

/-- In every run the circuit is guarded. In every run in which no probe of the
current half-open period reports a neutral outcome, the count is the number of
the probes under way and the breaker resumes. A report that breaks this
condition breaks the count. -/
theorem breaker_counts_probes (failureThreshold : UInt32) (hLimit : 0 < limit)
    (hCooldown : cooldown.toNat ≤ 9223372036854775) :
    (∀ labels traffic, Run providerTraffic (start failureThreshold cooldown limit) labels traffic →
      Guarded limit labels traffic) ∧
    (∀ labels traffic,
      Run (providerTraffic.restrict fun before label => label.Settles before)
        (start failureThreshold cooldown limit) labels traffic →
      traffic.Balanced ∧ traffic.Resumes) ∧
    ∀ labels traffic label next,
      Run providerTraffic (start failureThreshold cooldown limit) labels traffic →
      traffic.Balanced → providerTraffic.step traffic label next →
      (next.Balanced ↔ label.Settles traffic) := by
  refine ⟨fun labels traffic hRun => ?_, fun labels traffic hRun => ?_,
    fun labels traffic label next hRun hBalanced hStep => ?_⟩
  · have hCounted := counted_of_run hLimit hRun
    exact ⟨openedByFailure_of_run hLimit hRun,
      fun hOpen now next hStep => cooldownOver_of_allowed hCounted hLimit hCooldown hOpen hStep,
      hCounted.bounded⟩
  · have hBoth : Counted limit cooldown traffic ∧ traffic.Balanced := by
      refine Run.invariant (P := fun reached => Counted limit cooldown reached ∧ reached.Balanced)
        ?_ hRun ⟨counted_start failureThreshold cooldown limit, rfl⟩
      rintro before label after ⟨hCounted, hBalanced⟩ ⟨hSettles, hStep⟩
      exact ⟨hCounted.step hLimit hStep,
        (balanced_step_iff hBalanced hCounted hLimit hStep).mpr hSettles⟩
    exact ⟨hBoth.2, fun now hProbes hOver =>
      hBoth.2.allowed hBoth.1 hLimit hCooldown hProbes hOver⟩
  · exact balanced_step_iff hBalanced (counted_of_run hLimit hRun) hLimit hStep

/-- A breaker that opens at the first failure, with one probe at a time. -/
theorem breaker_counts_one_probe :
    (∀ labels traffic, Run providerTraffic (start 1 30 1) labels traffic →
      Guarded 1 labels traffic) ∧
    (∀ labels traffic,
      Run (providerTraffic.restrict fun before label => label.Settles before)
        (start 1 30 1) labels traffic →
      traffic.Balanced ∧ traffic.Resumes) ∧
    ∀ labels traffic label next, Run providerTraffic (start 1 30 1) labels traffic →
      traffic.Balanced → providerTraffic.step traffic label next →
      (next.Balanced ↔ label.Settles traffic) :=
  breaker_counts_probes 1 (by decide) (by decide)

def afterCooldown : DateTime := ⟨31 * 1000000000, by decide, by decide⟩

/-- The breaker after its only probe was cancelled. -/
def cancelledProbe : ProviderTraffic where
  breaker :=
    { state := .halfOpen, failureThreshold := 1, consecutiveFailures := 1, cooldownSeconds := 30,
      openedAt := some Crates.epoch, halfOpenProbeLimit := 1, halfOpenInFlight := 1 }
  period := 1
  outstanding := []

/-- Every request has reported, and no request is allowed any more. -/
theorem cancelled_probe_refuses_forever :
    (∃ labels, Run providerTraffic (start 1 30 1) labels cancelledProbe) ∧
      ¬ cancelledProbe.Balanced ∧
      ∀ now answer next, providerTraffic.step cancelledProbe (.allow now answer) next →
        answer = false ∧ next = cancelledProbe := by
  refine ⟨?_, fun hBalanced => absurd hBalanced Nat.one_ne_zero, ?_⟩
  · have hFirst := @Run.single _ _ providerTraffic (start 1 30 1) _
      (TrafficStep.allow Crates.epoch true) ⟨_, rfl, rfl⟩
    have hFailed := @Run.snoc _ _ providerTraffic _ _ _ _
      (TrafficStep.report .plain (.outcome .timeout Crates.epoch)) hFirst
      ⟨List.mem_singleton_self _, rfl⟩
    have hProbe := @Run.snoc _ _ providerTraffic _ _ _ _ (TrafficStep.allow afterCooldown true)
      hFailed ⟨_, rfl, rfl⟩
    exact ⟨_, @Run.snoc _ _ providerTraffic _ _ _ _
      (TrafficStep.report (.probe 1) (.outcome .cancelled afterCooldown)) hProbe
      ⟨List.mem_singleton_self _, rfl⟩⟩
  · rintro now answer next ⟨breaker, hAllow, rfl⟩
    obtain ⟨rfl, rfl⟩ := Prod.mk.inj (Option.some.inj hAllow)
    exact ⟨rfl, rfl⟩

end ProviderTraffic

end HamLogger
