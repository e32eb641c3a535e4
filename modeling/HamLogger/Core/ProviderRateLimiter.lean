import HamLogger.Core.Crates
import HamLogger.Library.KeyTally
import HamLogger.Library.Transition

/-! The rate limiter of a provider. Requests without an account are counted
under a name that an account can have as well. -/
namespace HamLogger

open KeyTally
open Transition (Run System)

structure ProviderRateLimitPolicy where
  providerId : String
  maxConcurrentGlobal : UInt32
  maxConcurrentPerAccount : UInt32
  burstLimit : UInt32
  refillIntervalSeconds : UInt64
  queueLimit : UInt64
  deriving DecidableEq

namespace ProviderRateLimitPolicy

def forProvider (providerId : String) : ProviderRateLimitPolicy where
  providerId := providerId
  maxConcurrentGlobal := 4
  maxConcurrentPerAccount := 1
  burstLimit := 10
  refillIntervalSeconds := 60
  queueLimit := 1000

/-- An instant outside the range of the crate panics. -/
def nextRefill (policy : ProviderRateLimitPolicy) (now : DateTime) : Option DateTime :=
  now.addSeconds policy.refillIntervalSeconds.toInt64.toInt

end ProviderRateLimitPolicy

structure ProviderRateLimitSnapshot where
  providerId : String
  accountScope : Option String
  availableBurst : UInt32
  runningGlobal : UInt32
  runningForAccount : UInt32
  nextAllowedAt : Option DateTime
  queueDepth : UInt64
  overflowed : Bool
  instanceLocal : Bool
  deriving DecidableEq

structure ProviderRateLimiter where
  policy : ProviderRateLimitPolicy
  availableBurst : UInt32
  runningGlobal : UInt32
  runningByAccount : KeyMap String UInt32
  nextRefillAt : DateTime
  queueDepth : UInt64

def anonymousAccount : String := "__anonymous__"

def accountKey (accountScope : Option String) : String :=
  accountScope.getD anonymousAccount

namespace ProviderRateLimiter

def new (policy : ProviderRateLimitPolicy) (now : DateTime) : Option ProviderRateLimiter :=
  (policy.nextRefill now).map fun nextRefillAt =>
    { policy := policy, availableBurst := policy.burstLimit, runningGlobal := 0,
      runningByAccount := ∅, nextRefillAt := nextRefillAt, queueDepth := 0 }

def refill (limiter : ProviderRateLimiter) (now : DateTime) : Option ProviderRateLimiter :=
  if limiter.nextRefillAt ≤ now then
    (limiter.policy.nextRefill now).map fun nextRefillAt =>
      { limiter with availableBurst := limiter.policy.burstLimit, nextRefillAt := nextRefillAt }
  else some limiter

/-- A named account without a counter is given the counter of the requests
without an account. -/
def snapshot (limiter : ProviderRateLimiter) (accountScope : Option String)
    (overflowed : Bool) : ProviderRateLimitSnapshot where
  providerId := limiter.policy.providerId
  accountScope := accountScope
  availableBurst := limiter.availableBurst
  runningGlobal := limiter.runningGlobal
  runningForAccount :=
    (accountScope.bind fun account => limiter.runningByAccount.lookup account).getD
      (held limiter.runningByAccount anonymousAccount)
  nextAllowedAt := if limiter.availableBurst = 0 then some limiter.nextRefillAt else none
  queueDepth := limiter.queueDepth
  overflowed := overflowed
  instanceLocal := true

def limited (limiter : ProviderRateLimiter) (accountScope : Option String) : Bool :=
  limiter.policy.maxConcurrentGlobal ≤ limiter.runningGlobal ||
    limiter.policy.maxConcurrentPerAccount ≤
      held limiter.runningByAccount (accountKey accountScope) ||
    limiter.availableBurst = 0

def overflowed (limiter : ProviderRateLimiter) : Bool :=
  limiter.policy.queueLimit ≤ limiter.queueDepth

def grant (limiter : ProviderRateLimiter) (accountScope : Option String) : ProviderRateLimiter :=
  { limiter with
    runningGlobal := limiter.runningGlobal + 1
    runningByAccount := increment limiter.runningByAccount (accountKey accountScope)
    availableBurst := saturatingPred limiter.availableBurst }

def tryAcquire (limiter : ProviderRateLimiter) (accountScope : Option String) (now : DateTime) :
    Option (Except ProviderRateLimitSnapshot ProviderRateLimitSnapshot × ProviderRateLimiter) :=
  (limiter.refill now).map fun limiter =>
    if limiter.limited accountScope || limiter.overflowed then
      (.error (limiter.snapshot accountScope limiter.overflowed), limiter)
    else
      let granted := limiter.grant accountScope
      (.ok (granted.snapshot accountScope false), granted)

def release (limiter : ProviderRateLimiter) (accountScope : Option String) :
    ProviderRateLimiter :=
  { limiter with
    runningGlobal := saturatingPred limiter.runningGlobal
    runningByAccount := decrement limiter.runningByAccount (accountKey accountScope) }

/-! What one call can do. -/

variable {limiter filled next : ProviderRateLimiter} {accountScope : Option String}
  {now : DateTime}

/-- A refill touches nothing but the burst and the instant of the next one. -/
structure Refilled (limiter : ProviderRateLimiter) (now : DateTime)
    (filled : ProviderRateLimiter) : Prop where
  policy : filled.policy = limiter.policy
  runningGlobal : filled.runningGlobal = limiter.runningGlobal
  runningByAccount : filled.runningByAccount = limiter.runningByAccount
  availableBurst : filled.availableBurst =
    if limiter.nextRefillAt ≤ now then limiter.policy.burstLimit else limiter.availableBurst

theorem refilled (h : limiter.refill now = some filled) : Refilled limiter now filled := by
  unfold refill at h
  split at h
  · rename_i hDue
    obtain ⟨_, _, rfl⟩ := Option.map_eq_some_iff.mp h
    exact ⟨rfl, rfl, rfl, (if_pos hDue).symm⟩
  · rename_i hEarly
    obtain rfl := Option.some.inj h
    exact ⟨rfl, rfl, rfl, (if_neg hEarly).symm⟩

/-- Whether a call at an instant is refused. -/
def refusesAt (limiter : ProviderRateLimiter) (accountScope : Option String) (now : DateTime) :
    Bool :=
  (limiter.refill now).any fun filled => filled.limited accountScope || filled.overflowed

/-- The two ends of a call. -/
inductive AcquireResult (limiter : ProviderRateLimiter) (accountScope : Option String)
    (now : DateTime) : Except ProviderRateLimitSnapshot ProviderRateLimitSnapshot →
      ProviderRateLimiter → Prop where
  | refused (filled : ProviderRateLimiter) (hRefilled : Refilled limiter now filled)
      (hRefuses : limiter.refusesAt accountScope now = true) :
      AcquireResult limiter accountScope now
        (.error (filled.snapshot accountScope filled.overflowed)) filled
  | granted (filled : ProviderRateLimiter) (hRefilled : Refilled limiter now filled)
      (hRefuses : limiter.refusesAt accountScope now = false)
      (hGlobal : filled.runningGlobal < filled.policy.maxConcurrentGlobal)
      (hAccount : held filled.runningByAccount (accountKey accountScope) <
        filled.policy.maxConcurrentPerAccount)
      (hBurst : filled.availableBurst ≠ 0) :
      AcquireResult limiter accountScope now
        (.ok ((filled.grant accountScope).snapshot accountScope false))
        (filled.grant accountScope)

theorem acquireResult {answer : Except ProviderRateLimitSnapshot ProviderRateLimitSnapshot}
    (h : limiter.tryAcquire accountScope now = some (answer, next)) :
    AcquireResult limiter accountScope now answer next := by
  obtain ⟨filled, hFilled, hAnswer⟩ := Option.map_eq_some_iff.mp h
  have hRefuses : limiter.refusesAt accountScope now =
      (filled.limited accountScope || filled.overflowed) := by
    rw [refusesAt, hFilled, Option.any_some]
  split at hAnswer
  · rename_i hRefused
    obtain ⟨rfl, rfl⟩ := Prod.mk.inj hAnswer
    exact .refused filled (refilled hFilled) (hRefuses.trans hRefused)
  · rename_i hGranted
    obtain ⟨rfl, rfl⟩ := Prod.mk.inj hAnswer
    have hNot := hGranted
    simp only [limited, Bool.or_eq_true, decide_eq_true_eq, not_or, UInt32.not_le] at hNot
    exact .granted filled (refilled hFilled)
      (hRefuses.trans (Bool.eq_false_iff.mpr hGranted)) hNot.1.1.1 hNot.1.1.2 hNot.1.2

end ProviderRateLimiter

/-! Calls in any order. -/

/-- A limiter, the acquisitions that were not released, and the number of
acquisitions since the last refill. -/
structure LimiterTraffic where
  limiter : ProviderRateLimiter
  outstanding : List (Option String)
  granted : Nat

inductive LimiterStep where
  | acquire (accountScope : Option String) (now : DateTime)
      (answer : Except ProviderRateLimitSnapshot ProviderRateLimitSnapshot)
  | release (accountScope : Option String)

namespace LimiterStep

/-- The step is an acquisition that succeeded. -/
def acquires : LimiterStep → Bool
  | .acquire _ _ (.ok _) => true
  | _ => false

def releases : LimiterStep → Bool
  | .release _ => true
  | _ => false

end LimiterStep

namespace LimiterTraffic

def acquired (traffic : LimiterTraffic) (accountScope : Option String) (now : DateTime)
    (answer : Except ProviderRateLimitSnapshot ProviderRateLimitSnapshot)
    (next : ProviderRateLimiter) : LimiterTraffic :=
  let granted := if traffic.limiter.nextRefillAt ≤ now then 0 else traffic.granted
  match answer with
  | .ok _ =>
      { limiter := next, outstanding := traffic.outstanding ++ [accountScope],
        granted := granted + 1 }
  | .error _ => { limiter := next, outstanding := traffic.outstanding, granted := granted }

def released (traffic : LimiterTraffic) (accountScope : Option String) : LimiterTraffic :=
  { limiter := traffic.limiter.release accountScope
    outstanding := traffic.outstanding.erase accountScope
    granted := traffic.granted }

end LimiterTraffic

/-- Every release belongs to an acquisition that succeeded. -/
def limiterTraffic : System LimiterTraffic LimiterStep where
  step traffic label next :=
    match label with
    | .acquire accountScope now answer => ∃ limiter,
        traffic.limiter.tryAcquire accountScope now = some (answer, limiter) ∧
          next = traffic.acquired accountScope now answer limiter
    | .release accountScope =>
        accountScope ∈ traffic.outstanding ∧ next = traffic.released accountScope

namespace LimiterTraffic
variable {traffic next : LimiterTraffic} {policy : ProviderRateLimitPolicy}

/-- The counts of the limiter are those of the acquisitions under way, and none
is above its limit. -/
structure Accounted (policy : ProviderRateLimitPolicy) (traffic : LimiterTraffic) : Prop where
  samePolicy : traffic.limiter.policy = policy
  tallies : Tallies (traffic.outstanding.map accountKey) traffic.limiter.runningByAccount
  runningGlobal : traffic.limiter.runningGlobal.toNat = traffic.outstanding.length
  globalLimit : traffic.limiter.runningGlobal ≤ policy.maxConcurrentGlobal
  accountLimit : ∀ account,
    held traffic.limiter.runningByAccount account ≤ policy.maxConcurrentPerAccount
  burst : traffic.granted + traffic.limiter.availableBurst.toNat = policy.burstLimit.toNat

theorem Accounted.refill {now : DateTime} {filled : ProviderRateLimiter}
    (h : Accounted policy traffic)
    (hRefilled : ProviderRateLimiter.Refilled traffic.limiter now filled) :
    Accounted policy
      { limiter := filled
        outstanding := traffic.outstanding
        granted := if traffic.limiter.nextRefillAt ≤ now then 0 else traffic.granted } := by
  have hBurst := hRefilled.availableBurst
  refine ⟨hRefilled.policy.trans h.samePolicy, ?_, ?_, ?_, fun account => ?_, ?_⟩
  · rw [hRefilled.runningByAccount]
    exact h.tallies
  · rw [hRefilled.runningGlobal]
    exact h.runningGlobal
  · rw [hRefilled.runningGlobal]
    exact h.globalLimit
  · rw [hRefilled.runningByAccount]
    exact h.accountLimit account
  · dsimp only
    rw [hBurst]
    split
    · rw [h.samePolicy, Nat.zero_add]
    · exact h.burst

theorem Accounted.grant {accountScope : Option String} (h : Accounted policy traffic)
    (hGlobal : traffic.limiter.runningGlobal < policy.maxConcurrentGlobal)
    (hAccount : held traffic.limiter.runningByAccount (accountKey accountScope) <
      policy.maxConcurrentPerAccount)
    (hBurst : traffic.limiter.availableBurst ≠ 0) :
    Accounted policy
      { limiter := traffic.limiter.grant accountScope
        outstanding := traffic.outstanding ++ [accountScope]
        granted := traffic.granted + 1 } := by
  have hCount := toNat_add_one hGlobal
  have hKey := toNat_add_one hAccount
  refine ⟨h.samePolicy, ?_, ?_, ?_, fun account => ?_, ?_⟩
  · rw [List.map_append]
    exact h.tallies.increment hAccount
  · rw [List.length_append, ← h.runningGlobal]
    exact hCount
  · refine UInt32.le_iff_toNat_le.mpr (hCount.trans_le ?_)
    exact UInt32.lt_iff_toNat_lt.mp hGlobal
  · change held (increment traffic.limiter.runningByAccount (accountKey accountScope)) account ≤ _
    rw [increment, held_insert]
    split
    · refine UInt32.le_iff_toNat_le.mpr (hKey.trans_le ?_)
      exact UInt32.lt_iff_toNat_lt.mp hAccount
    · exact h.accountLimit account
  · have hOne : traffic.limiter.availableBurst.toNat ≠ 0 := fun hZero =>
      hBurst (UInt32.toNat_inj.mp hZero)
    have hOld := h.burst
    change traffic.granted + 1 + (saturatingPred traffic.limiter.availableBurst).toNat = _
    rw [toNat_saturatingPred]
    omega

theorem Accounted.acquire {accountScope : Option String} {now : DateTime}
    {answer : Except ProviderRateLimitSnapshot ProviderRateLimitSnapshot}
    {limiter : ProviderRateLimiter} (h : Accounted policy traffic)
    (hResult : ProviderRateLimiter.AcquireResult traffic.limiter accountScope now answer limiter) :
    Accounted policy (traffic.acquired accountScope now answer limiter) := by
  cases hResult with
  | refused filled hRefilled hRefuses => exact h.refill hRefilled
  | granted filled hRefilled hRefuses hGlobal hAccount hBurst =>
      have hFilled := h.refill hRefilled
      have hPolicy : filled.policy = policy := hFilled.samePolicy
      rw [hPolicy] at hGlobal hAccount
      exact hFilled.grant hGlobal hAccount hBurst

theorem map_erase_perm {accountScope : Option String} {outstanding : List (Option String)}
    (hMem : accountScope ∈ outstanding) :
    ((outstanding.map accountKey).erase (accountKey accountScope)).Perm
      ((outstanding.erase accountScope).map accountKey) := by
  have hPerm := (List.perm_cons_erase hMem).map accountKey
  have hErased := hPerm.erase (accountKey accountScope)
  rwa [List.map_cons, List.erase_cons_head] at hErased

theorem held_decrement_le (map : KeyMap String UInt32) (key other : String) :
    held (decrement map key) other ≤ held map other := by
  rw [decrement, held, KeyMap.lookup_modify, held]
  split
  · rename_i hSame
    rw [hSame]
    cases map.lookup key with
    | none => exact UInt32.le_refl _
    | some count =>
        rw [UInt32.le_iff_toNat_le]
        exact (toNat_saturatingPred count).trans_le (Nat.sub_le _ _)
  · exact UInt32.le_refl _

theorem Accounted.release {accountScope : Option String} (h : Accounted policy traffic)
    (hMem : accountScope ∈ traffic.outstanding) :
    Accounted policy (traffic.released accountScope) := by
  have hGlobal := h.runningGlobal
  have hCount : (saturatingPred traffic.limiter.runningGlobal).toNat =
      (traffic.outstanding.erase accountScope).length := by
    rw [toNat_saturatingPred, hGlobal, List.length_erase_of_mem hMem]
  refine ⟨h.samePolicy, ?_, hCount, ?_, fun account => ?_, h.burst⟩
  · exact (h.tallies.decrement (List.mem_map_of_mem hMem)).perm (map_erase_perm hMem)
  · have hLimit := UInt32.le_iff_toNat_le.mp h.globalLimit
    rw [UInt32.le_iff_toNat_le]
    exact (toNat_saturatingPred _).trans_le ((Nat.sub_le _ _).trans hLimit)
  · have hLimit := UInt32.le_iff_toNat_le.mp (h.accountLimit account)
    have hLess := UInt32.le_iff_toNat_le.mp
      (held_decrement_le traffic.limiter.runningByAccount (accountKey accountScope) account)
    exact UInt32.le_iff_toNat_le.mpr (hLess.trans hLimit)

theorem Accounted.step {label : LimiterStep} (h : Accounted policy traffic)
    (hStep : limiterTraffic.step traffic label next) : Accounted policy next := by
  cases label with
  | acquire accountScope now answer =>
      obtain ⟨limiter, hAcquire, rfl⟩ := hStep
      exact h.acquire (ProviderRateLimiter.acquireResult hAcquire)
  | release accountScope =>
      obtain ⟨hMem, rfl⟩ := hStep
      exact h.release hMem

/-! What a snapshot reports. -/

def answerSnapshot : Except ProviderRateLimitSnapshot ProviderRateLimitSnapshot →
    ProviderRateLimitSnapshot
  | .ok snapshot => snapshot
  | .error snapshot => snapshot

/-- The snapshot names the account of the call, and its counts are those of the
acquisitions under way. -/
structure Reports (traffic : LimiterTraffic) (accountScope : Option String)
    (snapshot : ProviderRateLimitSnapshot) : Prop where
  names : snapshot.accountScope = accountScope
  runningGlobal : snapshot.runningGlobal.toNat = traffic.outstanding.length
  runningForAccount :
    snapshot.runningForAccount.toNat = traffic.outstanding.count accountScope

/-- The counter that a snapshot shows for an account is the account's own: a
request without an account and an account of the reserved name are not under
way together, and a refused account has acquired before, unless nothing runs
under the reserved name. -/
def ShowsOwnCounter (traffic : LimiterTraffic) (now : DateTime) : Option String → Prop
  | none => some anonymousAccount ∉ traffic.outstanding
  | some account =>
      if account = anonymousAccount then none ∉ traffic.outstanding
      else
        (traffic.limiter.runningByAccount.lookup account).isSome = true ∨
          traffic.limiter.refusesAt (some account) now = false ∨
          none ∉ traffic.outstanding ∧ some anonymousAccount ∉ traffic.outstanding

theorem count_map_accountKey (outstanding : List (Option String)) (key : String) :
    (outstanding.map accountKey).count key =
      (if key = anonymousAccount then outstanding.count none else 0) +
        outstanding.count (some key) := by
  induction outstanding with
  | nil => simp
  | cons accountScope rest ih =>
      rw [List.map_cons, List.count_cons, ih, List.count_cons, List.count_cons]
      cases accountScope with
      | none =>
          by_cases hKey : key = anonymousAccount
          · simp [hKey, accountKey]
            omega
          · simp [hKey, accountKey, Ne.symm hKey]
      | some account =>
          by_cases hKey : account = key
          · simp [hKey, accountKey]
            omega
          · simp [hKey, accountKey]

theorem Accounted.held_eq (h : Accounted policy traffic) (key : String) :
    (held traffic.limiter.runningByAccount key).toNat =
      (if key = anonymousAccount then traffic.outstanding.count none else 0) +
        traffic.outstanding.count (some key) :=
  (h.tallies.count key).trans (count_map_accountKey _ _)

theorem Accounted.reports_none_iff (h : Accounted policy traffic) (overflowed : Bool) :
    Reports traffic none (traffic.limiter.snapshot none overflowed) ↔
      some anonymousAccount ∉ traffic.outstanding := by
  have hHeld := h.held_eq anonymousAccount
  rw [if_pos rfl] at hHeld
  have hZero := @List.count_eq_zero _ _ _ (some anonymousAccount) traffic.outstanding
  constructor
  · intro hReports
    have hCount := hReports.runningForAccount
    change (held traffic.limiter.runningByAccount anonymousAccount).toNat = _ at hCount
    exact hZero.mp (by omega)
  · intro hAbsent
    have hNone := hZero.mpr hAbsent
    refine ⟨rfl, h.runningGlobal, ?_⟩
    change (held traffic.limiter.runningByAccount anonymousAccount).toNat = _
    omega

theorem Accounted.reports_some_iff (h : Accounted policy traffic) (account : String)
    (overflowed : Bool) :
    Reports traffic (some account) (traffic.limiter.snapshot (some account) overflowed) ↔
      if account = anonymousAccount then none ∉ traffic.outstanding
      else
        (traffic.limiter.runningByAccount.lookup account).isSome = true ∨
          none ∉ traffic.outstanding ∧ some anonymousAccount ∉ traffic.outstanding := by
  have hReports : Reports traffic (some account)
      (traffic.limiter.snapshot (some account) overflowed) ↔
        ((traffic.limiter.runningByAccount.lookup account).getD
          (held traffic.limiter.runningByAccount anonymousAccount)).toNat =
            traffic.outstanding.count (some account) :=
    ⟨fun hReports => hReports.runningForAccount, fun hCount => ⟨rfl, h.runningGlobal, hCount⟩⟩
  rw [hReports, ← List.count_eq_zero, ← List.count_eq_zero]
  have hHeld := h.held_eq account
  have hAnonymous := h.held_eq anonymousAccount
  rw [if_pos rfl] at hAnonymous
  by_cases hName : account = anonymousAccount
  · rw [if_pos hName]
    have hShown : (traffic.limiter.runningByAccount.lookup account).getD
        (held traffic.limiter.runningByAccount anonymousAccount) =
          held traffic.limiter.runningByAccount anonymousAccount := by
      rw [hName]
      cases hLookup : traffic.limiter.runningByAccount.lookup anonymousAccount with
      | none => rfl
      | some count => rw [held, hLookup, Option.getD_some, Option.getD_some]
    rw [hShown, hAnonymous, hName]
    omega
  · rw [if_neg hName]
    rw [if_neg hName, Nat.zero_add] at hHeld
    cases hLookup : traffic.limiter.runningByAccount.lookup account with
    | some count =>
        rw [held, hLookup] at hHeld
        exact iff_of_true hHeld (.inl rfl)
    | none =>
        rw [held, hLookup] at hHeld
        rw [Option.getD_none, hAnonymous, ← hHeld]
        simp only [Option.getD_none, Option.isSome_none, Bool.false_eq_true, false_or]
        have hZero : (0 : UInt32).toNat = 0 := rfl
        omega

/-- A snapshot reports the counts of the account that it names exactly if the
counter it shows is the account's own. -/
theorem Accounted.reports_iff {accountScope : Option String} {now : DateTime}
    {answer : Except ProviderRateLimitSnapshot ProviderRateLimitSnapshot}
    (h : Accounted policy traffic)
    (hStep : limiterTraffic.step traffic (.acquire accountScope now answer) next) :
    Reports next accountScope (answerSnapshot answer) ↔
      traffic.ShowsOwnCounter now accountScope := by
  obtain ⟨limiter, hAcquire, rfl⟩ := hStep
  have hResult := ProviderRateLimiter.acquireResult hAcquire
  have hNext := h.acquire hResult
  cases hResult with
  | refused _ hRefilled hRefuses =>
      cases accountScope with
      | none => exact hNext.reports_none_iff limiter.overflowed
      | some account =>
          have hSame := hRefilled.runningByAccount
          refine (hNext.reports_some_iff account limiter.overflowed).trans ?_
          unfold ShowsOwnCounter
          dsimp only [acquired]
          rw [hSame, hRefuses]
          simp
  | granted filled hRefilled hRefuses hGlobal hAccount hBurst =>
      have hOthers : ∀ other, other ≠ accountScope →
          (other ∉ traffic.outstanding ++ [accountScope] ↔ other ∉ traffic.outstanding) := by
        intro other hOther
        simp [hOther]
      cases accountScope with
      | none =>
          refine (hNext.reports_none_iff false).trans (hOthers _ ?_)
          exact Option.some_ne_none _
      | some account =>
          refine (hNext.reports_some_iff account false).trans ?_
          unfold ShowsOwnCounter
          dsimp only [acquired]
          rw [hRefuses]
          have hPresent : ((filled.grant (some account)).runningByAccount.lookup account).isSome =
              true := by
            change ((increment filled.runningByAccount account).lookup account).isSome = true
            rw [increment, AList.lookup_insert]
            rfl
          rw [hPresent, hOthers none (Option.some_ne_none _).symm]
          simp

/-! Whole runs. -/

def start (limiter : ProviderRateLimiter) : LimiterTraffic where
  limiter := limiter
  outstanding := []
  granted := 0

theorem accounted_start {now : DateTime} {limiter : ProviderRateLimiter}
    (h : ProviderRateLimiter.new policy now = some limiter) :
    Accounted policy (start limiter) := by
  obtain ⟨_, _, rfl⟩ := Option.map_eq_some_iff.mp h
  exact ⟨rfl, Tallies.nil, rfl, UInt32.le_iff_toNat_le.mpr (Nat.zero_le _),
    fun _ => UInt32.le_iff_toNat_le.mpr (Nat.zero_le _), Nat.zero_add _⟩

theorem accounted_of_run {now : DateTime} {limiter : ProviderRateLimiter}
    {labels : List LimiterStep} (h : ProviderRateLimiter.new policy now = some limiter)
    (hRun : Run limiterTraffic (start limiter) labels traffic) : Accounted policy traffic :=
  hRun.invariant (fun _ _ _ hAccounted hStep => hAccounted.step hStep) (accounted_start h)

/-- What is under way was acquired and not released. -/
theorem balance_of_run {limiter : ProviderRateLimiter} {labels : List LimiterStep}
    (hRun : Run limiterTraffic (start limiter) labels traffic) :
    labels.countP LimiterStep.acquires =
      labels.countP LimiterStep.releases + traffic.outstanding.length := by
  refine Run.history (P := fun labels traffic => labels.countP LimiterStep.acquires =
    labels.countP LimiterStep.releases + traffic.outstanding.length) hRun rfl ?_
  intro seen before label after ih hStep
  rw [List.countP_append, List.countP_append, ih, List.countP_singleton, List.countP_singleton]
  cases label with
  | acquire accountScope now answer =>
      obtain ⟨limiter, _, rfl⟩ := hStep
      cases answer with
      | error snapshot => rfl
      | ok snapshot =>
          simp only [acquired, LimiterStep.acquires, LimiterStep.releases, List.length_append,
            List.length_singleton, if_true, Bool.false_eq_true, if_false]
          omega
  | release accountScope =>
      obtain ⟨hMem, rfl⟩ := hStep
      have hPositive := List.length_pos_of_mem hMem
      simp only [released, LimiterStep.acquires, LimiterStep.releases,
        List.length_erase_of_mem hMem, if_true, Bool.false_eq_true, if_false]
      omega

/-- What holds in every run: the global count is the sum of the counts of the
accounts and the number of the acquisitions under way, both are within their
limits, and so is the burst. -/
structure WithinLimits (policy : ProviderRateLimitPolicy) (labels : List LimiterStep)
    (traffic : LimiterTraffic) : Prop where
  sum : traffic.limiter.runningGlobal.toNat = total traffic.limiter.runningByAccount
  balance : labels.countP LimiterStep.acquires =
    labels.countP LimiterStep.releases + traffic.limiter.runningGlobal.toNat
  globalLimit : traffic.limiter.runningGlobal ≤ policy.maxConcurrentGlobal
  accountLimit : ∀ account,
    held traffic.limiter.runningByAccount account ≤ policy.maxConcurrentPerAccount
  burst : traffic.granted ≤ policy.burstLimit.toNat

/-- A refusal changes no count. -/
theorem counts_of_refused {accountScope : Option String} {now : DateTime}
    {snapshot : ProviderRateLimitSnapshot}
    (hStep : limiterTraffic.step traffic (.acquire accountScope now (.error snapshot)) next) :
    next.limiter.runningGlobal = traffic.limiter.runningGlobal ∧
      next.limiter.runningByAccount = traffic.limiter.runningByAccount := by
  obtain ⟨limiter, hAcquire, rfl⟩ := hStep
  have hResult := ProviderRateLimiter.acquireResult hAcquire
  generalize hAnswer : (Except.error snapshot : Except ProviderRateLimitSnapshot _) = answer
    at hResult
  cases hResult with
  | refused _ hRefilled hRefuses => exact ⟨hRefilled.runningGlobal, hRefilled.runningByAccount⟩
  | granted filled hRefilled hRefuses hGlobal hAccount hBurst => cases hAnswer

/-- In every run the counts are right and within their limits, and a refusal
changes none of them. A snapshot reports the counts of the account it names
exactly if the counter it shows is the account's own. -/
theorem limiter_counts_acquisitions {now : DateTime} {limiter : ProviderRateLimiter}
    (h : ProviderRateLimiter.new policy now = some limiter) {labels : List LimiterStep}
    (hRun : Run limiterTraffic (start limiter) labels traffic) :
    WithinLimits policy labels traffic ∧
    (∀ accountScope now snapshot next,
      limiterTraffic.step traffic (.acquire accountScope now (.error snapshot)) next →
      next.limiter.runningGlobal = traffic.limiter.runningGlobal ∧
        next.limiter.runningByAccount = traffic.limiter.runningByAccount) ∧
    ∀ accountScope now answer next,
      limiterTraffic.step traffic (.acquire accountScope now answer) next →
      (Reports next accountScope (answerSnapshot answer) ↔
        traffic.ShowsOwnCounter now accountScope) := by
  have hAccounted := accounted_of_run h hRun
  refine ⟨?_, fun _ _ _ _ hStep => counts_of_refused hStep,
    fun _ _ _ _ hStep => hAccounted.reports_iff hStep⟩
  have hBurst := hAccounted.burst
  refine ⟨?_, ?_, hAccounted.globalLimit, hAccounted.accountLimit, by omega⟩
  · rw [hAccounted.runningGlobal, hAccounted.tallies.total, List.length_map]
  · rw [hAccounted.runningGlobal]
    exact balance_of_run hRun

/-! One request at a time. -/

def onePolicy : ProviderRateLimitPolicy :=
  { ProviderRateLimitPolicy.forProvider "clublog" with maxConcurrentGlobal := 1 }

theorem limiter_counts_one :
    ∃ limiter, ProviderRateLimiter.new onePolicy Crates.epoch = some limiter ∧
      WithinLimits onePolicy [] (start limiter) ∧
      (∀ accountScope now snapshot next,
        limiterTraffic.step (start limiter) (.acquire accountScope now (.error snapshot)) next →
        next.limiter.runningGlobal = limiter.runningGlobal ∧
          next.limiter.runningByAccount = limiter.runningByAccount) ∧
      ∀ accountScope now answer next,
        limiterTraffic.step (start limiter) (.acquire accountScope now answer) next →
        (Reports next accountScope (answerSnapshot answer) ↔
          (start limiter).ShowsOwnCounter now accountScope) :=
  ⟨_, rfl, @limiter_counts_acquisitions _ onePolicy Crates.epoch _ rfl _ (Run.nil _)⟩

/-- An account that never ran anything is refused with the count of a request
without an account. -/
theorem refused_account_shows_anonymous :
    ∃ limiter labels traffic snapshot next,
      ProviderRateLimiter.new onePolicy Crates.epoch = some limiter ∧
      Run limiterTraffic (start limiter) labels traffic ∧
      limiterTraffic.step traffic (.acquire (some "W1AW") Crates.epoch (.error snapshot)) next ∧
      snapshot.accountScope = some "W1AW" ∧ snapshot.runningForAccount = 1 ∧
      next.outstanding.count (some "W1AW") = 0 ∧
      ¬ Reports next (some "W1AW") snapshot := by
  refine ⟨_, _, _, _, _, rfl, @Run.single _ _ limiterTraffic _ _
    (LimiterStep.acquire none Crates.epoch (.ok _)) ⟨_, rfl, rfl⟩, ⟨_, rfl, rfl⟩, rfl, rfl, rfl,
    fun hReports => ?_⟩
  have hCount := hReports.runningForAccount
  cases hCount

end LimiterTraffic
end HamLogger
