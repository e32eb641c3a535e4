import HamLogger.Core.Crates
import HamLogger.Sync.RetryOutcome

/-! When a failed attempt is repeated. The delay doubles with the attempts up
to a bound that the envelope sets, and nothing bounds the bound: a delay from
2^63 seconds on turns negative, and one that leaves the calendar panics. -/
namespace HamLogger

namespace OfflineMutationEnvelope

/-- The delay in seconds, before it is cast to a signed integer. -/
def backoff (mutation : OfflineMutationEnvelope) : Nat :=
  max (min (min (mutation.backoffSeconds.toNat * 2 ^ min (mutation.attempts.toNat - 1) 16)
    (2 ^ 64 - 1)) mutation.maxBackoffSeconds.toNat) 1

theorem retryDelay_eq (mutation : OfflineMutationEnvelope) : mutation.retryDelay =
    if mutation.backoff < 2 ^ 63 then (mutation.backoff : Int)
    else (mutation.backoff : Int) - 2 ^ 64 :=
  rfl

theorem one_le_backoff (mutation : OfflineMutationEnvelope) : 1 ≤ mutation.backoff :=
  Nat.le_max_right _ _

theorem backoff_lt (mutation : OfflineMutationEnvelope) : mutation.backoff < 2 ^ 64 := by
  have hBound := mutation.maxBackoffSeconds.toNat_lt
  unfold backoff
  omega

theorem backoff_le (mutation : OfflineMutationEnvelope) :
    mutation.backoff ≤ max 1 mutation.maxBackoffSeconds.toNat := by
  unfold backoff
  omega

/-- Fewer attempts never give a longer delay. -/
theorem backoff_mono (mutation : OfflineMutationEnvelope) {fewer : UInt32}
    (h : fewer ≤ mutation.attempts) :
    backoff { mutation with attempts := fewer } ≤ mutation.backoff := by
  have hLe : fewer.toNat ≤ mutation.attempts.toNat := UInt32.le_iff_toNat_le.mp h
  have hPow : 2 ^ min (fewer.toNat - 1) 16 ≤ 2 ^ min (mutation.attempts.toNat - 1) 16 :=
    Nat.pow_le_pow_right (by decide) (by omega)
  have hMul := Nat.mul_le_mul_left mutation.backoffSeconds.toNat hPow
  unfold backoff
  dsimp only
  omega

/-- The calendar goes on for some seconds after an instant. -/
def Reaches (now : DateTime) (seconds : Nat) : Prop :=
  now.nanos + seconds * 1000000000 ≤ 8210266876799 * 1000000000 + 999999999

instance (now : DateTime) (seconds : Nat) : Decidable (Reaches now seconds) :=
  inferInstanceAs (Decidable (_ ≤ _))

theorem reaches_backoff_iff (mutation : OfflineMutationEnvelope) (now : DateTime) :
    Reaches now mutation.backoff ↔ Reaches now 1 ∧
      (Reaches now mutation.maxBackoffSeconds.toNat ∨
        Reaches now
          (mutation.backoffSeconds.toNat * 2 ^ min (mutation.attempts.toNat - 1) 16)) := by
  have hLower := now.lower
  generalize hGrown :
    mutation.backoffSeconds.toNat * 2 ^ min (mutation.attempts.toNat - 1) 16 = grown
  unfold Reaches backoff
  rw [hGrown]
  omega

/-- A delay that the calendar reaches is added as it is, and any other one
panics or goes back in time. -/
theorem addSeconds_retryDelay (mutation : OfflineMutationEnvelope) (now : DateTime) :
    (Reaches now mutation.backoff ∧ mutation.retryDelay = mutation.backoff ∧
      ∃ next, now.addSeconds mutation.retryDelay = some next) ∨
      (¬Reaches now mutation.backoff ∧
        (now.addSeconds mutation.retryDelay = none ∨ mutation.retryDelay < 0)) := by
  have hLower := now.lower
  have hOne := mutation.one_le_backoff
  have hTop := mutation.backoff_lt
  by_cases hReaches : Reaches now mutation.backoff
  · have hBound := hReaches
    unfold Reaches at hBound
    have hDelay : mutation.retryDelay = mutation.backoff := by
      rw [retryDelay_eq, if_pos (by omega)]
    refine Or.inl ⟨hReaches, hDelay, ?_⟩
    rw [hDelay, DateTime.addSeconds, dif_pos ⟨by omega, by omega⟩]
    exact ⟨_, rfl⟩
  · refine Or.inr ⟨hReaches, ?_⟩
    unfold Reaches at hReaches
    rw [retryDelay_eq]
    split
    · rw [DateTime.addSeconds, dif_neg (by omega)]
      exact Or.inl rfl
    · exact Or.inr (by omega)

end OfflineMutationEnvelope

namespace JsonOfflineMutationQueue
open OfflineMutationEnvelope (Reaches)

/-- A failure of an attempt is recorded without a panic, and a retry comes
later than now by a delay between one second and the bound of the envelope,
which fewer attempts would not have made longer. -/
def RetriesInTime (mutation : OfflineMutationEnvelope) (now : DateTime)
    (outcome : QueueOutcome OfflineMutationEnvelope) : Prop :=
  outcome ≠ .error .panic ∧
    ∀ retried saved, outcome = .ok (retried, saved) → retried.status = .retrying →
      ∃ delay : Nat, 1 ≤ delay ∧ delay ≤ max 1 mutation.maxBackoffSeconds.toNat ∧
        (∃ next, retried.nextAttemptAt = some next ∧ now < next ∧
          next.nanos = now.nanos + delay * 1000000000) ∧
        ∀ fewer ≤ mutation.attempts,
          OfflineMutationEnvelope.retryDelay { mutation with attempts := fewer } ≤ delay

section Failure
variable {disk : QueueDisk} {file : OfflineQueueFile} {operationId : Uuid}
  {mutation : OfflineMutationEnvelope} {now : DateTime}

/-- An update that the check of the file does not see is saved. -/
theorem updateMutation_of_revision
    {update : OfflineMutationEnvelope → Outcome OfflineQueueError OfflineMutationEnvelope}
    (updated : OfflineMutationEnvelope) (hLoad : loadFile disk = .ok file)
    (hFound : file.findMutation operationId = some mutation)
    (hUpdate : update mutation = .ok updated)
    (hRevision : Revision mutation { updated with updatedAt := now }) :
    updateMutation disk operationId now update = .ok ({ updated with updatedAt := now },
      some (file.setMutation operationId { updated with updatedAt := now }).sorted) := by
  have hReadable := (readableQueue_of_loadFile hLoad).setMutation hFound hRevision
  have hValid := (OfflineQueueFile.validate_sorted _).mpr hReadable.valid
  unfold updateMutation
  simp only [hLoad, hFound, hUpdate]
  rw [saveFile, hValid]

/-- After the last attempt that the envelope allows there is no retry. -/
theorem recordTransientFailure_of_last (hLoad : loadFile disk = .ok file)
    (hFound : file.findMutation operationId = some mutation)
    (hLast : mutation.maxAttempts ≤ mutation.attempts) (reason : String)
    (errorCode : Option String) :
    ∃ failed saved, recordTransientFailure disk operationId reason errorCode now =
      .ok (failed, saved) ∧ failed.status = .failed :=
  ⟨_, _, updateMutation_of_revision
    { mutation with
      status := .failed, nextAttemptAt := none, failureReason := some reason,
      lastErrorCode := errorCode } hLoad hFound (if_pos hLast) ⟨rfl, rfl⟩, rfl⟩

/-- Before that, the delay is added to the current time. -/
theorem recordTransientFailure_of_next (hLoad : loadFile disk = .ok file)
    (hFound : file.findMutation operationId = some mutation)
    (hLast : ¬mutation.maxAttempts ≤ mutation.attempts) {next : DateTime}
    (hNext : now.addSeconds mutation.retryDelay = some next) (reason : String)
    (errorCode : Option String) :
    ∃ retried saved, recordTransientFailure disk operationId reason errorCode now =
      .ok (retried, saved) ∧ retried.status = .retrying ∧ retried.nextAttemptAt = some next :=
  ⟨_, _, updateMutation_of_revision
    { mutation with
      status := .retrying, nextAttemptAt := some next, failureReason := some reason,
      lastErrorCode := errorCode } hLoad hFound
      ((if_neg hLast).trans (by simp only [hNext])) ⟨rfl, rfl⟩, rfl, rfl⟩

theorem recordTransientFailure_of_none (hLoad : loadFile disk = .ok file)
    (hFound : file.findMutation operationId = some mutation)
    (hLast : ¬mutation.maxAttempts ≤ mutation.attempts)
    (hNone : now.addSeconds mutation.retryDelay = none) (reason : String)
    (errorCode : Option String) :
    recordTransientFailure disk operationId reason errorCode now = .error .panic := by
  unfold recordTransientFailure updateMutation
  simp only [hLoad, hFound, if_neg hLast, hNone]

/-- A failure is recorded in time exactly when it is the last one that the
envelope allows, or the calendar reaches as far as the delay. -/
theorem retries_in_time_iff (hLoad : loadFile disk = .ok file)
    (hFound : file.findMutation operationId = some mutation) (reason : String)
    (errorCode : Option String) :
    RetriesInTime mutation now (recordTransientFailure disk operationId reason errorCode now) ↔
      mutation.maxAttempts ≤ mutation.attempts ∨
        Reaches now 1 ∧ (Reaches now mutation.maxBackoffSeconds.toNat ∨
          Reaches now
            (mutation.backoffSeconds.toNat * 2 ^ min (mutation.attempts.toNat - 1) 16)) := by
  rw [← mutation.reaches_backoff_iff]
  by_cases hLast : mutation.maxAttempts ≤ mutation.attempts
  · refine iff_of_true ?_ (Or.inl hLast)
    obtain ⟨failed, saved, hOutcome, hFailed⟩ :=
      recordTransientFailure_of_last hLoad hFound hLast reason errorCode
    rw [hOutcome]
    refine ⟨by simp, fun retried saved hOk hStatus => ?_⟩
    cases hOk
    rw [hFailed] at hStatus
    cases hStatus
  · rcases mutation.addSeconds_retryDelay now with
      ⟨hReaches, hDelay, next, hNext⟩ | ⟨hBeyond, hNone | hNegative⟩
    · refine iff_of_true ?_ (Or.inr hReaches)
      obtain ⟨retried, saved, hOutcome, _, hAttempt⟩ :=
        recordTransientFailure_of_next hLoad hFound hLast hNext reason errorCode
      have hNanos := DateTime.addSeconds_nanos hNext
      have hOne := mutation.one_le_backoff
      rw [hDelay] at hNanos
      rw [hOutcome]
      refine ⟨by simp, fun other saved hOk _ => ?_⟩
      cases hOk
      refine ⟨mutation.backoff, hOne, mutation.backoff_le, ⟨next, hAttempt, ?_, hNanos⟩, ?_⟩
      · show now.nanos < next.nanos
        omega
      · intro fewer hFewer
        have hMono := mutation.backoff_mono hFewer
        have hReached := hReaches
        have hLower := now.lower
        unfold Reaches at hReached
        rw [OfflineMutationEnvelope.retryDelay_eq, if_pos (by omega)]
        exact Int.ofNat_le.mpr hMono
    · refine iff_of_false ?_ (not_or.mpr ⟨hLast, hBeyond⟩)
      rw [recordTransientFailure_of_none hLoad hFound hLast hNone]
      exact fun h => h.1 rfl
    · refine iff_of_false ?_ (not_or.mpr ⟨hLast, hBeyond⟩)
      cases hAdd : now.addSeconds mutation.retryDelay with
      | none =>
          rw [recordTransientFailure_of_none hLoad hFound hLast hAdd]
          exact fun h => h.1 rfl
      | some next =>
          obtain ⟨retried, saved, hOutcome, hStatus, hAttempt⟩ :=
            recordTransientFailure_of_next hLoad hFound hLast hAdd reason errorCode
          rw [hOutcome]
          rintro ⟨_, hTimes⟩
          obtain ⟨delay, _, _, ⟨later, hLater, hAfter, _⟩, _⟩ := hTimes retried saved rfl hStatus
          obtain rfl : next = later := Option.some.inj (hAttempt.symm.trans hLater)
          have hNanos := DateTime.addSeconds_nanos hAdd
          have hStrict : now.nanos < next.nanos := hAfter
          omega

end Failure

section Examples
open scoped Crates

/-- A mutation that is being sent for the first time, with a bound on its delay. -/
def sentMutation (bound : UInt64) : OfflineMutationEnvelope :=
  { OfflineMutationEnvelope.new (Crates.sampleInput 1 5) 1 Crates.epoch 5 with
    status := .sending, attempts := 1, backoffSeconds := bound, maxBackoffSeconds := bound }

/-- A queue that holds one mutation. -/
def queueOf (mutation : OfflineMutationEnvelope) : QueueDisk :=
  .holding { mutations := [mutation] }

theorem loadFile_queueOf {mutation : OfflineMutationEnvelope} (h : mutation.validate = .ok ()) :
    loadFile (queueOf mutation) = .ok { mutations := [mutation] } :=
  loadFile_eq_ok_iff.mpr ⟨{ mutations := [mutation] }, rfl,
    (OfflineQueueFile.validate_eq_ok_iff _).mpr ⟨rfl, by simpa using h, by simp⟩, rfl⟩

theorem findMutation_sent (bound : UInt64) :
    OfflineQueueFile.findMutation { mutations := [sentMutation bound] } 5 =
      some (sentMutation bound) :=
  rfl

/-- Of two mutations that pass their check, a failure of one panics, and a
failure of the other schedules a retry for a time that has passed. -/
theorem unbounded_backoff_fails :
    (sentMutation 1000000000000000000).validate = .ok () ∧
      recordTransientFailure (queueOf (sentMutation 1000000000000000000)) 5 "" none Crates.epoch =
        .error .panic ∧
      (sentMutation 18446744073709551615).validate = .ok () ∧
      ∃ retried saved next,
        recordTransientFailure (queueOf (sentMutation 18446744073709551615)) 5 "" none
          Crates.epoch = .ok (retried, saved) ∧
        retried.status = .retrying ∧ retried.nextAttemptAt = some next ∧ next < Crates.epoch := by
  have hFirst : (sentMutation 1000000000000000000).validate = .ok () := by decide +kernel
  have hSecond : (sentMutation 18446744073709551615).validate = .ok () := by decide +kernel
  have hNext : Crates.epoch.addSeconds (sentMutation 18446744073709551615).retryDelay =
      some ⟨-1000000000, by decide, by decide⟩ := by decide +kernel
  obtain ⟨retried, saved, hOutcome, hStatus, hAttempt⟩ := recordTransientFailure_of_next
    (loadFile_queueOf hSecond) (findMutation_sent _) (by decide +kernel) hNext "" none
  refine ⟨hFirst, ?_, hSecond, retried, saved, _, hOutcome, hStatus, hAttempt, by decide⟩
  exact recordTransientFailure_of_none (loadFile_queueOf hFirst) (findMutation_sent _)
    (by decide +kernel) (by decide +kernel) "" none

/-- A failure of a mutation with the default bounds is recorded in time. -/
theorem retries_in_time_iff_default :
    RetriesInTime (sentMutation 5) Crates.epoch
      (recordTransientFailure (queueOf (sentMutation 5)) 5 "" none Crates.epoch) ↔
        (sentMutation 5).maxAttempts ≤ (sentMutation 5).attempts ∨
          Reaches Crates.epoch 1 ∧
            (Reaches Crates.epoch (sentMutation 5).maxBackoffSeconds.toNat ∨
              Reaches Crates.epoch ((sentMutation 5).backoffSeconds.toNat *
                2 ^ min ((sentMutation 5).attempts.toNat - 1) 16)) :=
  retries_in_time_iff (loadFile_queueOf (by decide +kernel)) (findMutation_sent 5) "" none

end Examples
end JsonOfflineMutationQueue
end HamLogger
