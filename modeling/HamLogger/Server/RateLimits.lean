import HamLogger.Library.WindowCounter
import HamLogger.Server.AccountHandlers
import HamLogger.Server.ProviderSettings
import HamLogger.Server.SyncHandlers

/-! The limits on requests, over runs of requests. Each request counts for an
identity: what it does, for whom, and from which client. -/
namespace HamLogger

open Program
open WindowCounter (Counted Counter Grant opened)

/-- The requests that are limited for a subject and a client. -/
inductive RateCategory where
  | invitation | registration | recovery | login | provider | sync
  deriving DecidableEq

namespace RateCategory

/-- The start of the key, up to and with the separator. -/
def tag : RateCategory → String
  | .invitation => "invitation:"
  | .registration => "registration:"
  | .recovery => "recovery:"
  | .login => "login:"
  | .provider => "provider:"
  | .sync => "sync:"

def limit (limits : HostedLimitConfig) : RateCategory → Nat
  | .invitation => limits.invitationsPerWindow
  | .registration => limits.registrationsPerWindow
  | .recovery => limits.recoveryPerWindow
  | .login => limits.loginsPerWindow
  | .provider => limits.providerOpsPerWindow
  | .sync => limits.syncOpsPerWindow

end RateCategory

/-- Whom a request counts for. A verification has no subject yet. -/
inductive RateIdentity where
  | verification (client : String)
  | keyed (category : RateCategory) (subject client : String)
  deriving DecidableEq

namespace RateIdentity

/-- The key as the handlers write it. -/
def text : RateIdentity → String
  | .verification client => "verification:" ++ client
  | .keyed category subject client => category.tag ++ subject ++ ":" ++ client

def client : RateIdentity → String
  | .verification client => client
  | .keyed _ _ client => client

def category : RateIdentity → Option RateCategory
  | .verification _ => none
  | .keyed category _ _ => some category

def limit (limits : HostedLimitConfig) (identity : RateIdentity) : Nat :=
  match identity.category with
  | none => limits.verificationsPerWindow
  | some category => category.limit limits

end RateIdentity

/-- The characters of a key before its first separator. -/
def kindName : Option RateCategory → List Char
  | none => ['v', 'e', 'r', 'i', 'f', 'i', 'c', 'a', 't', 'i', 'o', 'n']
  | some .invitation => ['i', 'n', 'v', 'i', 't', 'a', 't', 'i', 'o', 'n']
  | some .registration => ['r', 'e', 'g', 'i', 's', 't', 'r', 'a', 't', 'i', 'o', 'n']
  | some .recovery => ['r', 'e', 'c', 'o', 'v', 'e', 'r', 'y']
  | some .login => ['l', 'o', 'g', 'i', 'n']
  | some .provider => ['p', 'r', 'o', 'v', 'i', 'd', 'e', 'r']
  | some .sync => ['s', 'y', 'n', 'c']

theorem kindName_injective {first second : Option RateCategory}
    (h : kindName first = kindName second) : first = second := by
  cases first with
  | none => cases second with
    | none => rfl
    | some category => cases category <;> cases h
  | some kind => cases second with
    | none => cases kind <;> cases h
    | some category => cases kind <;> cases category <;> first | rfl | cases h

section Keys
variable [Sha2Crate]

/-- The key of the record a text is counted in. -/
def rateKey (text : String) : String :=
  String.ofList (text.toList.takeWhile fun c => c ≠ ':') ++ ":" ++ sessionTokenHash text

def RateIdentity.recordKey (identity : RateIdentity) : String := rateKey identity.text

/-- Requests of one record have one limit. -/
theorem RateIdentity.limit_congr {first second : RateIdentity} (limits : HostedLimitConfig)
    (h : first.recordKey = second.recordKey) : first.limit limits = second.limit limits := by
  -- the record key starts with the name of the category
  have hStart : ∀ identity : RateIdentity,
      (identity.recordKey.toList.takeWhile fun c => c ≠ ':') = kindName identity.category := by
    intro identity
    have hText : (identity.text.toList.takeWhile fun c => c ≠ ':') =
        kindName identity.category := by
      cases identity with
      | verification client => simp [text, kindName, category]
      | keyed category subject client =>
          cases category <;> simp [text, kindName, RateIdentity.category, RateCategory.tag]
    rw [recordKey, rateKey, String.toList_append, String.toList_append, String.toList_ofList, hText]
    cases identity.category with
    | none => simp [kindName]
    | some category => cases category <;> simp [kindName]
  have hKind : kindName first.category = kindName second.category := by
    rw [← hStart, ← hStart, h]
  unfold limit
  rw [kindName_injective hKind]

/-- A record key tells texts apart as far as the hash does. -/
theorem text_eq_of_recordKey {first second : RateIdentity}
    (hHash : sessionTokenHash first.text = sessionTokenHash second.text →
      first.text = second.text)
    (h : first.recordKey = second.recordKey) : first.text = second.text := by
  refine hHash ?_
  have hLists := congrArg (fun key : String => (key.toList.dropWhile fun c => c ≠ ':')) h
  have hDrop : ∀ text : String, ((rateKey text).toList.dropWhile fun c => c ≠ ':') =
      ':' :: (sessionTokenHash text).toList := by
    intro text
    have hFront : ∀ c ∈ text.toList.takeWhile (fun c => c ≠ ':'), decide (c ≠ ':') = true :=
      fun c hMem => List.mem_takeWhile_imp (p := fun c => decide (c ≠ ':')) hMem
    rw [rateKey, String.toList_append, String.toList_append, String.toList_ofList,
      List.append_assoc, List.dropWhile_append_of_pos hFront]
    rfl
  simp only [RateIdentity.recordKey, hDrop, List.cons.injEq, true_and] at hLists
  exact String.toList_injective hLists

/-- A limited request, when it came, and the start of the window that granted it. -/
structure RateEvent where
  identity : RateIdentity
  instant : DateTime
  window : Option DateTime

/-- The requests that a record has granted. -/
def grantsOf (key : String) (events : List RateEvent) : List Grant :=
  events.filterMap fun event =>
    if event.identity.recordKey = key then
      event.window.map fun window => ⟨event.instant.nanos, window.nanos⟩
    else none

/-- What an identity is granted, its record grants. -/
theorem countP_grantsOf (identity : RateIdentity) (test : Grant → Bool)
    (events : List RateEvent) :
    (events.countP fun event => decide (event.identity = identity) &&
      event.window.any fun window => test ⟨event.instant.nanos, window.nanos⟩) ≤
      (grantsOf identity.recordKey events).countP test := by
  induction events with
  | nil => simp
  | cons event rest ih =>
      unfold grantsOf at ih ⊢
      rw [List.countP_cons, List.filterMap_cons]
      by_cases hSame : event.identity = identity
      · cases hWindow : event.window with
        | none => simpa [hSame] using ih
        | some window =>
            simp only [hSame, decide_true, Bool.true_and, Option.any_some, if_true,
              Option.map_some, List.countP_cons]
            omega
      · simp only [hSame, decide_false, Bool.false_and, Bool.false_eq_true, if_false, add_zero]
        refine ih.trans ?_
        split
        · exact le_refl _
        · rw [List.countP_cons]
          exact Nat.le_add_right _ _

end Keys

section Requests
variable [UuidCrate] [Sha2Crate]

/-- The check every limited request makes. -/
def RateIdentity.enforce (context : RequestContext) (identity : RateIdentity) : Handler Unit := do
  let state ← get
  enforceRateLimit context identity.text (identity.limit state.hostingConfig.limits)

theorem limitInvitations_eq (context : RequestContext) (session : LoginSession) :
    HostedServer.limitInvitations context session =
      (RateIdentity.keyed .invitation (UuidCrate.display session.accountId)
        context.client).enforce context := rfl

theorem enforceProviderOperationLimit_eq (context : RequestContext) (session : LoginSession) :
    HostedServer.enforceProviderOperationLimit context session =
      ((RateIdentity.keyed .provider (UuidCrate.display session.accountId)
        context.client).enforce context >>= fun _ => savingWith context.firstSaveFails) := rfl

theorem enforceSyncOperationLimit_eq (context : RequestContext) (session : LoginSession) :
    HostedServer.enforceSyncOperationLimit context session =
      ((RateIdentity.keyed .sync (UuidCrate.display session.accountId)
        context.client).enforce context >>= fun _ => savingWith context.firstSaveFails) := rfl

end Requests

section Counters

def RateLimitRecord.counter (record : RateLimitRecord) : Counter :=
  ⟨record.windowStartedAt.nanos, record.count⟩

/-- The length of a window in nanoseconds. -/
def HostedLimitConfig.window (limits : HostedLimitConfig) : Int :=
  max limits.windowSeconds 1 * 1000000000

theorem HostedLimitConfig.window_pos (limits : HostedLimitConfig) : 0 < limits.window := by
  unfold HostedLimitConfig.window
  omega

/-- Seconds are counted without their fraction, which does not matter at the end
of a window of whole seconds. -/
theorem window_le_iff (limits : HostedLimitConfig) (elapsed : Int) :
    max limits.windowSeconds 1 ≤ elapsed.tdiv 1000000000 ↔ limits.window ≤ elapsed := by
  unfold HostedLimitConfig.window
  rcases le_or_gt 0 elapsed with hPos | hNeg
  · rw [Int.tdiv_eq_ediv_of_nonneg hPos]
    omega
  · have hFlip := Int.neg_tdiv elapsed 1000000000
    rw [Int.tdiv_eq_ediv_of_nonneg (by omega)] at hFlip
    omega

variable [UuidCrate]

/-- The counter of a key, as far as there is one. -/
def ServerState.counter (state : ServerState) (key : String) : Option Counter :=
  (state.rateLimits.lookup key).map RateLimitRecord.counter

theorem counter_insert (state : ServerState) (record : RateLimitRecord) (key : String) :
    ServerState.counter { state with rateLimits := state.rateLimits.insert record } key =
      if key = record.key then some record.counter else state.counter key := by
  unfold ServerState.counter
  dsimp only
  rw [Catalog.lookup_insert]
  split <;> rfl

variable [Sha2Crate]

/-- The record a check counts in, with a new window where the old one is over. -/
def openedRecord (context : RequestContext) (state : ServerState) (text : String) :
    RateLimitRecord :=
  let record := (state.rateLimits.lookup (rateKey text)).getD
    { key := rateKey text, windowStartedAt := context.now, count := 0 }
  if (context.now.nanos - record.windowStartedAt.nanos).tdiv 1000000000 ≥
      max state.hostingConfig.limits.windowSeconds 1 then
    { record with windowStartedAt := context.now, count := 0 }
  else record

theorem key_openedRecord (context : RequestContext) (state : ServerState) (text : String) :
    (openedRecord context state text).key = rateKey text := by
  have hRecord : ((state.rateLimits.lookup (rateKey text)).getD
      { key := rateKey text, windowStartedAt := context.now, count := 0 }).key = rateKey text := by
    cases hFound : state.rateLimits.lookup (rateKey text) with
    | none => rfl
    | some record => exact Catalog.keyOf_of_lookup hFound
  unfold openedRecord
  dsimp only
  split
  · exact hRecord
  · exact hRecord

theorem counter_openedRecord (context : RequestContext) (state : ServerState) (text : String) :
    (openedRecord context state text).counter =
      opened state.hostingConfig.limits.window context.now.nanos
        (state.counter (rateKey text)) := by
  unfold openedRecord ServerState.counter
  cases hFound : state.rateLimits.lookup (rateKey text) with
  | none =>
      dsimp only [Option.getD_none, Option.map_none]
      split <;> rfl
  | some record =>
      dsimp only [Option.getD_some, Option.map_some]
      have hSame := window_le_iff state.hostingConfig.limits
        (context.now.nanos - record.windowStartedAt.nanos)
      by_cases hOver : state.hostingConfig.limits.window ≤
          context.now.nanos - record.windowStartedAt.nanos
      · rw [if_pos (hSame.mpr hOver)]
        exact (if_pos hOver).symm
      · rw [if_neg fun hLong => hOver (hSame.mp hLong)]
        exact (if_neg hOver).symm

/-- What a check does: at the limit it refuses and leaves every counter as it
was, and otherwise it counts the request in its own counter. -/
theorem execute_enforceRateLimit (context : RequestContext) (text : String) (limit : Nat)
    (state : ServerState) {found : Counter}
    (hFound : opened state.hostingConfig.limits.window context.now.nanos
      (state.counter (rateKey text)) = found) :
    ∃ later, (enforceRateLimit context text limit).execute state =
        (later, if limit ≤ found.count then .error (.error .rateLimited) else .ok ()) ∧
      later.hostingConfig = state.hostingConfig ∧
      (∀ key, key ≠ rateKey text → later.counter key = state.counter key) ∧
      later.counter (rateKey text) =
        if limit ≤ found.count then state.counter (rateKey text)
        else some ⟨found.start, found.count + 1⟩ := by
  by_cases hZero : limit = 0
  · subst hZero
    refine ⟨state, ?_, rfl, fun _ _ => rfl, ?_⟩
    · rw [if_pos (Nat.zero_le _)]
      rfl
    · rw [if_pos (Nat.zero_le _)]
  · have hKey := key_openedRecord context state text
    have hRecord : (openedRecord context state text).counter = found :=
      (counter_openedRecord context state text).trans hFound
    have hRun : (enforceRateLimit context text limit).execute state =
        if limit ≤ (openedRecord context state text).count then
          ({ state with rateLimits := state.rateLimits.insert (openedRecord context state text) },
            .error (.error .rateLimited))
        else
          ({ state with
            rateLimits := state.rateLimits.insert
              { openedRecord context state text with
                count := (openedRecord context state text).count + 1 } }, .ok ()) := by
      unfold enforceRateLimit
      rw [if_neg hZero]
      simp only [execute_bind, execute_get, execute_ite, execute_set]
      rfl
    subst hRecord
    by_cases hLimit : limit ≤ (openedRecord context state text).count
    · have hCount : limit ≤ (openedRecord context state text).counter.count := hLimit
      refine ⟨{ state with
        rateLimits := state.rateLimits.insert (openedRecord context state text) },
        by rw [hRun, if_pos hLimit, if_pos hCount], rfl, fun key hOther => ?_, ?_⟩
      · rw [counter_insert, if_neg fun hSame => hOther (hSame.trans hKey)]
      · rw [counter_insert, if_pos hKey.symm, if_pos hCount]
        -- a counter that has counted was there before
        cases hOld : state.counter (rateKey text) with
        | none =>
            rw [hOld] at hFound
            have hCount := congrArg Counter.count hFound
            change 0 = (openedRecord context state text).count at hCount
            omega
        | some counter =>
            rw [hOld] at hFound
            unfold opened at hFound
            dsimp only at hFound
            split at hFound
            · have hCount := congrArg Counter.count hFound
              change 0 = (openedRecord context state text).count at hCount
              omega
            · rw [hFound]
    · have hCount : ¬ limit ≤ (openedRecord context state text).counter.count := hLimit
      refine ⟨{ state with
        rateLimits := state.rateLimits.insert
          { openedRecord context state text with
            count := (openedRecord context state text).count + 1 } },
        by rw [hRun, if_neg hLimit, if_neg hCount], rfl, fun key hOther => ?_, ?_⟩
      · rw [counter_insert, if_neg fun hSame => hOther (hSame.trans hKey)]
      · rw [counter_insert, if_pos hKey.symm, if_neg hCount]
        rfl

/-! Runs of requests. -/

/-- A run of the server under fixed limits, with the instant it has reached.
Requests come at instants that do not go back, and between them everything else
may change. -/
inductive RateRun (limits : HostedLimitConfig) : DateTime → List RateEvent → ServerState → Prop
  | start (clock : DateTime) (state : ServerState)
      (hLimits : state.hostingConfig.limits = limits)
      (hEmpty : ∀ key, state.rateLimits.lookup key = none) : RateRun limits clock [] state
  | other {clock now : DateTime} {events : List RateEvent} {state later : ServerState}
      (run : RateRun limits clock events state) (hTime : clock ≤ now)
      (hLimits : later.hostingConfig.limits = state.hostingConfig.limits)
      (hSame : later.rateLimits = state.rateLimits) : RateRun limits now events later
  | granted {clock : DateTime} {events : List RateEvent} {state later : ServerState}
      (run : RateRun limits clock events state) (context : RequestContext)
      (identity : RateIdentity) (hClient : identity.client = context.client)
      (hTime : clock ≤ context.now) {record : RateLimitRecord}
      (hRequest : (identity.enforce context).execute state = (later, .ok ()))
      (hRecord : later.rateLimits.lookup identity.recordKey = some record) :
      RateRun limits context.now
        (events ++ [⟨identity, context.now, some record.windowStartedAt⟩]) later
  | refused {clock : DateTime} {events : List RateEvent} {state later : ServerState}
      (run : RateRun limits clock events state) (context : RequestContext)
      (identity : RateIdentity) (hClient : identity.client = context.client)
      (hTime : clock ≤ context.now) {error : Fault ApiError}
      (hRequest : (identity.enforce context).execute state = (later, .error error)) :
      RateRun limits context.now (events ++ [⟨identity, context.now, none⟩]) later

theorem RateIdentity.execute_enforce (context : RequestContext) (identity : RateIdentity)
    (state : ServerState) :
    (identity.enforce context).execute state =
      (enforceRateLimit context identity.text
        (identity.limit state.hostingConfig.limits)).execute state := rfl

/-- A granted request was below its limit and is counted. -/
theorem RateIdentity.of_granted {context : RequestContext} {identity : RateIdentity}
    {state later : ServerState}
    (h : (identity.enforce context).execute state = (later, .ok ())) {found : Counter}
    (hFound : opened state.hostingConfig.limits.window context.now.nanos
      (state.counter identity.recordKey) = found) :
    found.count < identity.limit state.hostingConfig.limits ∧
      later.hostingConfig = state.hostingConfig ∧
      (∀ key, key ≠ identity.recordKey → later.counter key = state.counter key) ∧
      later.counter identity.recordKey = some ⟨found.start, found.count + 1⟩ := by
  obtain ⟨after, hRun, hConfig, hOthers, hOwn⟩ := execute_enforceRateLimit context identity.text
    (identity.limit state.hostingConfig.limits) state hFound
  rw [execute_enforce, hRun] at h
  obtain ⟨rfl, hOutcome⟩ := Prod.mk.inj h
  by_cases hLimit : identity.limit state.hostingConfig.limits ≤ found.count
  · rw [if_pos hLimit] at hOutcome
    cases hOutcome
  · rw [if_neg hLimit] at hOwn
    exact ⟨Nat.lt_of_not_le hLimit, hConfig, hOthers, hOwn⟩

/-- A refused request leaves every counter as it was. -/
theorem RateIdentity.of_refused {context : RequestContext} {identity : RateIdentity}
    {state later : ServerState} {error : Fault ApiError}
    (h : (identity.enforce context).execute state = (later, .error error)) :
    later.hostingConfig = state.hostingConfig ∧
      ∀ key, later.counter key = state.counter key := by
  obtain ⟨after, hRun, hConfig, hOthers, hOwn⟩ := execute_enforceRateLimit context identity.text
    (identity.limit state.hostingConfig.limits) state rfl
  rw [execute_enforce, hRun] at h
  obtain ⟨rfl, hOutcome⟩ := Prod.mk.inj h
  refine ⟨hConfig, fun key => ?_⟩
  by_cases hKey : key = rateKey identity.text
  · rw [hKey, hOwn]
    split at hOutcome
    · rename_i hLimit
      rw [if_pos hLimit]
    · cases hOutcome
  · exact hOthers key hKey

/-- A server with the same limits and the same counter refuses as well. -/
theorem RateIdentity.refused_alike {context : RequestContext} {identity : RateIdentity}
    {state later alone : ServerState} {error : Fault ApiError}
    (h : (identity.enforce context).execute state = (later, .error error))
    (hLimits : alone.hostingConfig.limits = state.hostingConfig.limits)
    (hCounter : alone.counter identity.recordKey = state.counter identity.recordKey) :
    ∃ after, (identity.enforce context).execute alone = (after, .error error) ∧
      after.counter identity.recordKey = alone.counter identity.recordKey := by
  obtain ⟨_, hRun, _, _, _⟩ := execute_enforceRateLimit context identity.text
    (identity.limit state.hostingConfig.limits) state rfl
  have hFound : opened alone.hostingConfig.limits.window context.now.nanos
      (alone.counter (rateKey identity.text)) =
      opened state.hostingConfig.limits.window context.now.nanos
        (state.counter (rateKey identity.text)) := by
    rw [hLimits]
    exact congrArg (opened _ _) hCounter
  obtain ⟨after, hAfter, _, _, _⟩ := execute_enforceRateLimit context identity.text
    (identity.limit alone.hostingConfig.limits) alone hFound
  rw [execute_enforce, hRun] at h
  rw [hLimits] at hAfter
  rw [(Prod.mk.inj h).2] at hAfter
  have hRefused : (identity.enforce context).execute alone = (after, .error error) := by
    rw [execute_enforce, hLimits]
    exact hAfter
  exact ⟨after, hRefused, (of_refused hRefused).2 _⟩

theorem RateRun.limits_eq {limits : HostedLimitConfig} {clock : DateTime}
    {events : List RateEvent} {state : ServerState} (run : RateRun limits clock events state) :
    state.hostingConfig.limits = limits := by
  induction run with
  | start clock state hLimits hEmpty => exact hLimits
  | other run hTime hLimits hSame ih => exact hLimits.trans ih
  | granted run context identity hClient hTime hRequest hRecord ih =>
      rw [(RateIdentity.of_granted hRequest rfl).2.1, ih]
  | refused run context identity hClient hTime hRequest ih =>
      rw [(RateIdentity.of_refused hRequest).1, ih]

/-- Every record has counted what it granted. -/
theorem RateRun.counted {limits : HostedLimitConfig} {clock : DateTime}
    {events : List RateEvent} {state : ServerState} (run : RateRun limits clock events state)
    (identity : RateIdentity) :
    Counted limits.window (identity.limit limits) clock.nanos
      (grantsOf identity.recordKey events) (state.counter identity.recordKey) := by
  induction run with
  | start clock state hLimits hEmpty =>
      have hNone : state.counter identity.recordKey = none := by
        rw [ServerState.counter, hEmpty]
        rfl
      rw [hNone]
      exact Counted.nil _ _ _
  | @other clock now events state later run hTime hLimits hSame ih =>
      have hCounter : later.counter identity.recordKey = state.counter identity.recordKey := by
        rw [ServerState.counter, hSame]
        rfl
      rw [hCounter]
      exact ih.wait hTime
  | @granted clock events state later run context own hClient hTime record hRequest hRecord ih =>
      obtain ⟨hBelow, _, hOthers, hOwn⟩ := RateIdentity.of_granted hRequest rfl
      rw [run.limits_eq] at hBelow hOwn
      unfold grantsOf
      rw [List.filterMap_append]
      by_cases hKey : own.recordKey = identity.recordKey
      · rw [hKey] at hBelow hOwn hRecord
        have hStart : record.windowStartedAt.nanos =
            (opened limits.window context.now.nanos
              (state.counter identity.recordKey)).start := by
          have hFound : later.counter identity.recordKey = some record.counter := by
            rw [ServerState.counter, hRecord]
            rfl
          exact congrArg Counter.start (Option.some.inj (hFound.symm.trans hOwn))
        have hGrant := ih.grant limits.window_pos hTime
          (RateIdentity.limit_congr limits hKey ▸ hBelow)
        rw [hOwn]
        have hLast : ([⟨own, context.now, some record.windowStartedAt⟩] : List RateEvent).filterMap
            (fun event => if event.identity.recordKey = identity.recordKey then
              event.window.map fun window =>
                (⟨event.instant.nanos, window.nanos⟩ : Grant) else none) =
            [⟨context.now.nanos, (opened limits.window context.now.nanos
              (state.counter identity.recordKey)).start⟩] := by
          simp [hKey, hStart]
        rw [hLast]
        exact hGrant
      · rw [hOthers _ (Ne.symm hKey)]
        have hLast : ([⟨own, context.now, some record.windowStartedAt⟩] : List RateEvent).filterMap
            (fun event => if event.identity.recordKey = identity.recordKey then
              event.window.map fun window =>
                (⟨event.instant.nanos, window.nanos⟩ : Grant) else none) = [] := by
          simp [hKey]
        rw [hLast, List.append_nil]
        exact ih.wait hTime
  | @refused clock events state later run context own hClient hTime error hRequest ih =>
      rw [(RateIdentity.of_refused hRequest).2]
      unfold grantsOf
      rw [List.filterMap_append]
      have hLast : ([⟨own, context.now, none⟩] : List RateEvent).filterMap
          (fun event => if event.identity.recordKey = identity.recordKey then
            event.window.map fun window =>
              (⟨event.instant.nanos, window.nanos⟩ : Grant) else none) = [] := by
        simp
      rw [hLast, List.append_nil]
      exact ih.wait hTime

/-- Requests that are counted in other records do not matter to an identity: what
it is granted in the run, it is granted alone. -/
theorem RateRun.alone {limits : HostedLimitConfig} {clock : DateTime}
    {events : List RateEvent} {state : ServerState} (run : RateRun limits clock events state)
    {identity : RateIdentity}
    (hApart : ∀ event ∈ events, event.identity.recordKey = identity.recordKey →
      event.identity = identity) :
    ∃ alone, RateRun limits clock (events.filter fun event => event.identity = identity) alone ∧
      alone.counter identity.recordKey = state.counter identity.recordKey := by
  induction run with
  | start clock state hLimits hEmpty => exact ⟨state, .start clock state hLimits hEmpty, rfl⟩
  | other run hTime hLimits hSame ih =>
      obtain ⟨alone, hAlone, hCounter⟩ := ih hApart
      refine ⟨alone, .other hAlone hTime rfl rfl, hCounter.trans ?_⟩
      rw [ServerState.counter, ServerState.counter, hSame]
  | @granted clock events state later run context own hClient hTime record hRequest hRecord ih =>
      obtain ⟨alone, hAlone, hCounter⟩ := ih fun event hMem =>
        hApart event (List.mem_append_left _ hMem)
      obtain ⟨hBelow, _, hOthers, hOwn⟩ := RateIdentity.of_granted hRequest rfl
      rw [List.filter_append]
      by_cases hSame : own = identity
      · subst hSame
        rw [run.limits_eq] at hBelow hOwn
        have hFound : opened alone.hostingConfig.limits.window context.now.nanos
            (alone.counter own.recordKey) = opened limits.window context.now.nanos
              (state.counter own.recordKey) := by rw [hAlone.limits_eq, hCounter]
        obtain ⟨after, hAfter, _, _, hAfterOwn⟩ := execute_enforceRateLimit context own.text
          (own.limit alone.hostingConfig.limits) alone hFound
        have hFree : ¬ own.limit alone.hostingConfig.limits ≤
            (opened limits.window context.now.nanos (state.counter own.recordKey)).count := by
          rw [hAlone.limits_eq]
          omega
        rw [if_neg hFree] at hAfter hAfterOwn
        have hKept : after.counter own.recordKey = later.counter own.recordKey :=
          hAfterOwn.trans hOwn.symm
        have hRecordCounter : later.counter own.recordKey = some record.counter := by
          rw [ServerState.counter, hRecord]
          rfl
        obtain ⟨twin, hTwin, hTwinCounter⟩ := Option.map_eq_some_iff.mp
          (hKept.trans hRecordCounter)
        have hStart : twin.windowStartedAt = record.windowStartedAt := by
          have hNanos : twin.windowStartedAt.nanos = record.windowStartedAt.nanos :=
            congrArg Counter.start hTwinCounter
          exact DateTime.mk.injEq .. ▸ hNanos
        refine ⟨after, ?_, hKept⟩
        have hStep := RateRun.granted hAlone context own hClient hTime hAfter hTwin
        rw [hStart] at hStep
        simpa using hStep
      · have hKey : identity.recordKey ≠ own.recordKey := fun hEq =>
          hSame (hApart ⟨own, context.now, some record.windowStartedAt⟩ (by simp) hEq.symm)
        refine ⟨alone, ?_, hCounter.trans (hOthers _ hKey).symm⟩
        have hWait : RateRun limits context.now
            (events.filter fun event => event.identity = identity) alone :=
          .other hAlone hTime rfl rfl
        simpa [hSame] using hWait
  | @refused clock events state later run context own hClient hTime error hRequest ih =>
      obtain ⟨alone, hAlone, hCounter⟩ := ih fun event hMem =>
        hApart event (List.mem_append_left _ hMem)
      have hKept := (RateIdentity.of_refused hRequest).2 identity.recordKey
      rw [List.filter_append]
      by_cases hSame : own = identity
      · subst hSame
        obtain ⟨after, hAfter, hAfterKept⟩ := RateIdentity.refused_alike hRequest
          (by rw [hAlone.limits_eq, run.limits_eq] : alone.hostingConfig.limits =
            state.hostingConfig.limits) hCounter
        refine ⟨after, ?_, hAfterKept.trans (hCounter.trans hKept.symm)⟩
        simpa using RateRun.refused hAlone context own hClient hTime hAfter
      · refine ⟨alone, ?_, hCounter.trans hKept.symm⟩
        have hWait : RateRun limits context.now
            (events.filter fun event => event.identity = identity) alone :=
          .other hAlone hTime rfl rfl
        simpa [hSame] using hWait

/-- In every run under fixed limits, an identity is granted at most its limit in a
window and at most twice its limit in any interval as long as a window; a refused
request leaves every allowance as it was; and when no other identity of the run is
written as the same key, what an identity is granted it is granted alone. -/
theorem rateLimits_hold {limits : HostedLimitConfig} {clock : DateTime}
    {events : List RateEvent} {state : ServerState} (run : RateRun limits clock events state)
    {identity : RateIdentity}
    (hHash : ∀ event ∈ events,
      sessionTokenHash event.identity.text = sessionTokenHash identity.text →
        event.identity.text = identity.text)
    (hKeys : ∀ event ∈ events, event.identity.text = identity.text →
      event.identity = identity) :
    (∀ start : DateTime, (events.countP fun event => decide (event.identity = identity) &&
      event.window.any fun window => decide (window.nanos = start.nanos)) ≤
        identity.limit limits) ∧
    (∀ event ∈ events, event.identity = identity → ∀ window, event.window = some window →
      window ≤ event.instant ∧ event.instant.nanos < window.nanos + limits.window) ∧
    (∀ since : Int, (events.countP fun event => decide (event.identity = identity) &&
      event.window.any fun _ => decide (since ≤ event.instant.nanos ∧
        event.instant.nanos ≤ since + limits.window)) ≤ 2 * identity.limit limits) ∧
    (∀ context other later error,
      (RateIdentity.enforce context other).execute state = (later, .error error) →
        ∀ key, later.counter key = state.counter key) ∧
    ∃ alone, RateRun limits clock (events.filter fun event => event.identity = identity) alone ∧
      alone.counter identity.recordKey = state.counter identity.recordKey := by
  have hCounted := run.counted identity
  refine ⟨fun start => ?_, fun event hMem hSame window hWindow => ?_, fun since => ?_,
    fun context other later error hRefused => (RateIdentity.of_refused hRefused).2,
    run.alone fun event hMem hKey =>
      hKeys event hMem (text_eq_of_recordKey (hHash event hMem) hKey)⟩
  · exact (countP_grantsOf identity (fun grant => grant.start = start.nanos) events).trans
      (hCounted.bounded start.nanos)
  · have hGrant : (⟨event.instant.nanos, window.nanos⟩ : Grant) ∈
        grantsOf identity.recordKey events :=
      List.mem_filterMap.mpr ⟨event, hMem, by rw [hSame, if_pos rfl, hWindow]; rfl⟩
    exact hCounted.inside _ hGrant
  · exact (countP_grantsOf identity (fun grant =>
      since ≤ grant.instant ∧ grant.instant ≤ since + limits.window) events).trans
        (hCounted.interval since)

end Counters

section
open Crates

/-- A server that grants one login in a window. -/
def oneLogin : ServerState where
  hostingConfig := { updatedAt := epoch, limits := { loginsPerWindow := 1 } }

def loginFrom (client : String) : RequestContext :=
  { sampleRequest 0 with client := client }

/-- One login of an account, granted. -/
theorem oneLogin_limits_hold :
    ∃ state record, RateRun oneLogin.hostingConfig.limits epoch
        [⟨.keyed .login "a@x" "c", epoch, some record⟩] state ∧
      ([⟨.keyed .login "a@x" "c", epoch, some record⟩] : List RateEvent).countP
        (fun event => decide (event.identity = .keyed .login "a@x" "c") &&
          event.window.any fun window => decide (window.nanos = epoch.nanos)) ≤ 1 := by
  have hStart : RateRun oneLogin.hostingConfig.limits epoch [] oneLogin :=
    .start epoch oneLogin rfl fun _ => rfl
  obtain ⟨state, hState, _, _, hCounter⟩ := execute_enforceRateLimit (loginFrom "c")
    (RateIdentity.keyed .login "a@x" "c").text 1 oneLogin rfl
  obtain ⟨record, hRecord, _⟩ := Option.map_eq_some_iff.mp hCounter
  have hRun := RateRun.granted hStart (loginFrom "c") (.keyed .login "a@x" "c") rfl
    (le_refl epoch.nanos)
    hState hRecord
  refine ⟨state, record.windowStartedAt, hRun, ?_⟩
  refine (@rateLimits_hold _ _ _ _ _ _ hRun (.keyed .login "a@x" "c") ?_ ?_).1 epoch
  · intro event hMem _
    rw [List.mem_singleton.mp hMem]
  · intro event hMem _
    rw [List.mem_singleton.mp hMem]

/-- A login of another account from another client takes the one login away, since
an address may hold the separator as well. -/
theorem login_shares_allowance :
    RateIdentity.keyed .login "a@x:b" "c" ≠ .keyed .login "a@x" "b:c" ∧
    normalizedEmail "a@x:b" = some "a@x:b" ∧
    (((RateIdentity.keyed .login "a@x" "b:c").enforce (loginFrom "b:c")).execute oneLogin).2 =
      .ok () ∧
    ∃ later, ((RateIdentity.keyed .login "a@x:b" "c").enforce (loginFrom "c")).execute oneLogin =
        (later, .ok ()) ∧
      (((RateIdentity.keyed .login "a@x" "b:c").enforce (loginFrom "b:c")).execute later).2 =
        .error (.error .rateLimited) := by
  have hFresh : ∀ client key, opened oneLogin.hostingConfig.limits.window
      (loginFrom client).now.nanos (oneLogin.counter key) = ⟨epoch.nanos, 0⟩ :=
    fun _ _ => rfl
  have hSameText : (RateIdentity.keyed .login "a@x" "b:c").text =
      (RateIdentity.keyed .login "a@x:b" "c").text := by decide +kernel
  refine ⟨by decide, by decide +kernel, ?_, ?_⟩
  · obtain ⟨later, hRun, _⟩ := execute_enforceRateLimit (loginFrom "b:c")
      (RateIdentity.keyed .login "a@x" "b:c").text 1 oneLogin (hFresh _ _)
    exact congrArg Prod.snd hRun
  · obtain ⟨later, hRun, hConfig, _, hCounter⟩ := execute_enforceRateLimit (loginFrom "c")
      (RateIdentity.keyed .login "a@x:b" "c").text 1 oneLogin (hFresh _ _)
    refine ⟨later, hRun, ?_⟩
    have hFull : opened later.hostingConfig.limits.window (loginFrom "b:c").now.nanos
        (later.counter (rateKey (RateIdentity.keyed .login "a@x" "b:c").text)) =
        ⟨epoch.nanos, 1⟩ := by
      rw [hSameText, hCounter, hConfig]
      rfl
    obtain ⟨last, hLast, _⟩ := execute_enforceRateLimit (loginFrom "b:c")
      (RateIdentity.keyed .login "a@x" "b:c").text 1 later hFull
    have hLimit : RateIdentity.limit later.hostingConfig.limits
        (.keyed .login "a@x" "b:c") = 1 := by
      rw [hConfig]
      rfl
    rw [RateIdentity.execute_enforce, hLimit, hLast]
    rfl

end
end HamLogger
