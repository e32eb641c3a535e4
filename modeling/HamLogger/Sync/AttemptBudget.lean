import HamLogger.Sync.QueueAcceptance
import HamLogger.Sync.RetryDelay

/-! How often the queue sends a mutation. A failure that is reported closes a
mutation whose attempts are used up, but recovery after a crash offers every
mutation again that was being sent. -/
namespace HamLogger

open FileReplace (Cut Disk Plan)
open Transition (Run System)
open JsonOfflineMutationQueue

/-- The attempts do not exceed their limit, and one is left where the mutation
can be offered. -/
structure OfflineMutationEnvelope.WithinBudget (mutation : OfflineMutationEnvelope) : Prop where
  limit : mutation.attempts ≤ mutation.maxAttempts
  left : mutation.status.isDraining = true → mutation.attempts < mutation.maxAttempts

/-- A checked file whose mutations are all within their budget. -/
structure Budgeted (file : OfflineQueueFile) : Prop where
  valid : file.validate = .ok ()
  within : ∀ mutation ∈ file.mutations, mutation.WithinBudget

theorem stable_budgeted : Stable Budgeted where
  empty := ⟨rfl, by simp⟩
  sorted file h := ⟨(OfflineQueueFile.validate_sorted file).mpr h.valid,
    fun mutation hMem => h.within mutation ((file.mem_sorted mutation).mp hMem)⟩
  valid _ h := h.valid

/-- A mutation is marked as being sent only where the queue offers it. -/
def MarksOffered (disk : QueueDisk) (label : QueueCall × Option Cut) : Prop :=
  ∀ operationId now, label.1 = .markSending operationId now →
    ∀ file mutation, loadFile disk = .ok file → file.findMutation operationId = some mutation →
      ∃ offeredAt, mutation ∈ readyMutations file.mutations mutation.logbookId offeredAt

/-- No step gives a mutation back to the queue whose attempts are used up. -/
structure ReturnsWithinBudget [UuidCrate] [LegacyQueueJson] (disk : QueueDisk)
    (label : QueueCall × Option Cut) : Prop where
  enqueued : ∀ envelope, label.1 = .enqueue envelope → envelope.WithinBudget
  reopened : ∀ operationId event now, label.1 = .recordLocalEvent operationId event now →
    ∀ file mutation, loadFile disk = .ok file → file.findMutation operationId = some mutation →
      mutation.status ∈ [.blocked, .failed, .userActionRequired] →
        mutation.attempts < mutation.maxAttempts
  recovered : (∃ now, label.1 = .recoverInterruptedWrites now ∨
    label.1 = .recoverOrInitialize now) → ∀ file, label.1.base disk = .ok file →
      ∀ mutation ∈ file.mutations, mutation.status = .sending →
        mutation.attempts < mutation.maxAttempts

namespace OfflineMutationEnvelope.WithinBudget
variable {old new : OfflineMutationEnvelope}

/-- A mutation that is not offered is within its budget if its attempts are. -/
theorem closed (h : old.WithinBudget) (hAttempts : new.attempts = old.attempts)
    (hMax : new.maxAttempts = old.maxAttempts) (hStatus : new.status.isDraining = false) :
    new.WithinBudget where
  limit := by
    rw [hAttempts, hMax]
    exact h.limit
  left hOpen := by
    rw [hStatus] at hOpen
    cases hOpen

/-- A mutation with an attempt left is within its budget. -/
theorem of_left (h : new.attempts < new.maxAttempts) : new.WithinBudget where
  limit := UInt32.le_of_lt h
  left _ := h

/-- Attaching an event keeps the status or puts the mutation back in the queue. -/
theorem attached (h : old.WithinBudget) {event : CoreEventEnvelope} {now : DateTime}
    (hReopened : old.status ∈ [.blocked, .failed, .userActionRequired] →
      old.attempts < old.maxAttempts) : (old.attachLocalEvent event now).WithinBudget := by
  by_cases hStatus : old.status ∈
      [OfflineMutationStatus.blocked, .failed, .userActionRequired]
  · exact .of_left (hReopened hStatus)
  · refine ⟨h.limit, fun hOpen => h.left ?_⟩
    cases hIs : old.status <;> simp_all [OfflineMutationEnvelope.attachLocalEvent]

end OfflineMutationEnvelope.WithinBudget

theorem saturatingAttempt_le {attempts limit : UInt32} (h : attempts < limit) :
    (if attempts = 4294967295 then attempts else attempts + 1) ≤ limit := by
  rw [UInt32.lt_iff_toNat_lt] at h
  have hBound := limit.toNat_lt
  rw [UInt32.le_iff_toNat_le]
  split
  · omega
  · rw [UInt32.toNat_add]
    have hOne : (1 : UInt32).toNat = 1 := rfl
    omega

/-- Every mutation of a file in which one was replaced. -/
theorem budgeted_setMutation {file : OfflineQueueFile} {operationId : Uuid}
    {new : OfflineMutationEnvelope} (h : Budgeted file) (hNew : new.WithinBudget) :
    ∀ mutation ∈ (file.setMutation operationId new).sorted.mutations, mutation.WithinBudget := by
  intro mutation hMem
  obtain ⟨before, hBefore, hChange⟩ := exists_left_of_forall₂
    (forall₂_updateFirst file.mutations) ((OfflineQueueFile.mem_sorted _ mutation).mp hMem)
  rcases hChange with rfl | ⟨_, rfl⟩
  · exact h.within mutation hBefore
  · exact hNew

theorem budgeted_map {file : OfflineQueueFile}
    {change : OfflineMutationEnvelope → OfflineMutationEnvelope}
    (hChange : ∀ old ∈ file.mutations, (change old).WithinBudget) :
    ∀ mutation ∈ (OfflineQueueFile.sorted
      { file with mutations := file.mutations.map change }).mutations, mutation.WithinBudget := by
  intro mutation hMem
  obtain ⟨old, hOld, rfl⟩ := List.mem_map.mp ((OfflineQueueFile.mem_sorted _ mutation).mp hMem)
  exact hChange old hOld

theorem budgeted_withMutation {file : OfflineQueueFile} {mutation : OfflineMutationEnvelope}
    {counter : UInt64} (h : Budgeted file) (hNew : mutation.WithinBudget) :
    ∀ other ∈ (withMutation file mutation counter).mutations, other.WithinBudget := by
  intro other hMem
  rcases List.mem_append.mp ((OfflineQueueFile.mem_sorted _ other).mp hMem) with hOld | hAdded
  · exact h.within other hOld
  · rw [List.mem_singleton.mp hAdded]
    exact hNew

/-- Recovery gives back what was being sent. -/
theorem budgeted_recovered {file : OfflineQueueFile} (h : Budgeted file) (now : DateTime)
    (hSending : ∀ mutation ∈ file.mutations, mutation.status = .sending →
      mutation.attempts < mutation.maxAttempts) :
    ∀ mutation ∈ (recoverInterruptedWritesInFile file now).1.sorted.mutations,
      mutation.WithinBudget := by
  refine budgeted_map fun old hOld => ?_
  split
  · next hStatus => exact .of_left (hSending old hOld hStatus)
  · exact h.within old hOld

/-- What an update saves is within budget if the updated mutation is. -/
theorem budgeted_updateMutation {disk : QueueDisk} {operationId : Uuid} {now : DateTime}
    {update : OfflineMutationEnvelope → Outcome OfflineQueueError OfflineMutationEnvelope}
    {reply : QueueReply} {next : OfflineQueueFile}
    (hLoads : ∀ file, loadFile disk = .ok file → Budgeted file)
    (hUpdate : ∀ file old new, loadFile disk = .ok file →
      file.findMutation operationId = some old → old.WithinBudget → update old = .ok new →
        OfflineMutationEnvelope.WithinBudget { new with updatedAt := now })
    (h : QueueCall.replying .mutation (updateMutation disk operationId now update) =
      .ok (reply, some next)) :
    ∀ mutation ∈ next.mutations, mutation.WithinBudget := by
  obtain ⟨value, hValue, _⟩ := QueueCall.replying_eq_ok h
  obtain ⟨file, old, new, hLoad, hFound, hNew, rfl, hSaved, _⟩ := updateMutation_eq_ok hValue
  rw [Option.some.inj hSaved]
  have hFile := hLoads file hLoad
  exact budgeted_setMutation hFile
    (hUpdate file old new hLoad hFound (hFile.within old (List.mem_of_find?_eq_some hFound)) hNew)

theorem isReadyAt_of_mem_readyLoop {now : DateTime} {operations : List Uuid}
    {hashes : List String} {mutations : List OfflineMutationEnvelope}
    {mutation : OfflineMutationEnvelope}
    (h : mutation ∈ readyLoop now operations hashes mutations) : mutation.isReadyAt now = true := by
  induction mutations with
  | nil => cases h
  | cons first rest ih =>
      unfold readyLoop at h
      split at h
      · exact ih h
      · split at h
        · cases h
        · next hReady =>
            split at h
            · cases h
            · rcases List.mem_cons.mp h with rfl | hRest
              · exact Bool.not_eq_false _ |>.mp hReady
              · exact ih hRest

/-- A mutation that the queue offers has an attempt left. -/
theorem left_of_ready {file : OfflineQueueFile} (h : Budgeted file) {logbookId : Uuid}
    {now : DateTime} {mutation : OfflineMutationEnvelope}
    (hReady : mutation ∈ readyMutations file.mutations logbookId now) :
    mutation.attempts < mutation.maxAttempts := by
  have hDraining := Bool.and_elim_left (isReadyAt_of_mem_readyLoop hReady)
  exact (h.within mutation (mem_readyMutations hReady).1).left hDraining

theorem enqueue_saves {disk : QueueDisk} {envelope value : OfflineMutationEnvelope}
    {next : OfflineQueueFile} (h : enqueue disk envelope = .ok (value, some next)) :
    ∃ file counter, loadFile disk = .ok file ∧ next = withMutation file envelope counter := by
  unfold enqueue at h
  split at h
  · cases h
  · split at h
    · cases h
    · next file hLoad =>
        split at h
        · cases h
        · split at h
          · cases h
          · obtain ⟨_, _, hNext⟩ := saveFile_eq_ok h
            exact ⟨file, _, hLoad, Option.some.inj hNext⟩

section Runs
variable [UuidCrate]

theorem enqueueInput_saves {disk : QueueDisk} {input : OfflineMutationInput} {now : DateTime}
    {random : Uuid} {value : OfflineMutationEnvelope} {next : OfflineQueueFile}
    (h : enqueueInput disk input now random = .ok (value, some next)) :
    ∃ file counter, loadFile disk = .ok file ∧ next = withMutation file
      (.new input (file.nextSequence input.logbookId) now random) counter := by
  unfold enqueueInput at h
  split at h
  · cases h
  · next file hLoad =>
      split at h
      · cases h
      · dsimp only at h
        split at h
        · cases h
        · obtain ⟨_, _, hNext⟩ := saveFile_eq_ok h
          exact ⟨file, _, hLoad, Option.some.inj hNext⟩

variable [LegacyQueueJson] {disk : QueueDisk}

/-- The step: a file that a call saves is within budget if the file it works
from is, and the call marks what is offered and returns what has attempts left. -/
theorem budgeted_of_saved (hDisk : disk.Holds Budgeted) {call : QueueCall} {cut : Option Cut}
    (hMarks : MarksOffered disk (call, cut)) (hReturns : ReturnsWithinBudget disk (call, cut))
    {reply : QueueReply} {next : OfflineQueueFile}
    (h : (call.plan disk).outcome = .ok (reply, some next)) : Budgeted next := by
  obtain ⟨base, hBase, hSaves, hValid⟩ := saves h
  have hBudgeted : Budgeted base := base_holds stable_budgeted hDisk hBase
  refine ⟨hValid, ?_⟩
  have hLoads : ∀ file, loadFile disk = .ok file → Budgeted file := by
    intro file hLoad
    obtain ⟨loaded, hLoaded, hWithin⟩ := loadFile_of_holds stable_budgeted hDisk
    rw [← Except.ok.inj (hLoaded.symm.trans hLoad)]
    exact hWithin
  cases call with
  | enqueueInput input now random =>
      obtain ⟨value, hValue, _⟩ := QueueCall.replying_eq_ok h
      obtain ⟨file, counter, hLoad, rfl⟩ := enqueueInput_saves hValue
      exact budgeted_withMutation (hLoads file hLoad)
        (.of_left (show (0 : UInt32) < defaultMaxAttempts by decide))
  | enqueue envelope =>
      obtain ⟨value, hValue, _⟩ := QueueCall.replying_eq_ok h
      obtain ⟨file, counter, hLoad, rfl⟩ := enqueue_saves hValue
      exact budgeted_withMutation (hLoads file hLoad) (hReturns.enqueued envelope rfl)
  | recordLocalEvent operationId event now =>
      obtain ⟨value, hValue, _⟩ := QueueCall.replying_eq_ok h
      unfold recordLocalEvent at hValue
      split at hValue
      · cases hValue
      · next file hLoad =>
          split at hValue
          · cases hValue
          · next old hFound =>
              obtain ⟨_, _, hNext⟩ := saveFile_eq_ok hValue
              rw [Option.some.inj hNext]
              refine budgeted_setMutation (hLoads file hLoad) ?_
              have hOld := (hLoads file hLoad).within old (List.mem_of_find?_eq_some hFound)
              exact hOld.attached
                (hReturns.reopened operationId event now rfl file old hLoad hFound)
  | markSending operationId now =>
      refine budgeted_updateMutation hLoads (fun file old new hLoad hFound _ hNew => ?_) h
      obtain ⟨offeredAt, hReady⟩ := hMarks operationId now rfl file old hLoad hFound
      have hLeft := left_of_ready (hLoads file hLoad) hReady
      cases hNew
      exact ⟨saturatingAttempt_le hLeft, by simp [OfflineMutationStatus.isDraining]⟩
  | recordTransientFailure operationId reason errorCode now =>
      refine budgeted_updateMutation hLoads (fun file old new hLoad hFound hOld hNew => ?_) h
      split at hNew
      · cases hNew
        exact hOld.closed rfl rfl rfl
      · next hLeft =>
          split at hNew
          · cases hNew
          · cases hNew
            exact .of_left (UInt32.not_le.mp hLeft)
  | markBlocked | markFailed | markUserActionRequired | markAccepted =>
      refine budgeted_updateMutation hLoads (fun file old new _ _ hOld hNew => ?_) h
      cases hNew
      exact hOld.closed rfl rfl rfl
  | markAcceptedByEventHashes acceptedHashes now =>
      obtain ⟨value, hValue, _⟩ := QueueCall.replying_eq_ok h
      have hLoad : loadFile disk = .ok base := hBase
      unfold markAcceptedByEventHashes at hValue
      simp only [hLoad] at hValue
      obtain ⟨_, _, hNext⟩ := saveFile_eq_ok hValue
      rw [Option.some.inj hNext]
      refine budgeted_map fun old hOld => ?_
      split
      · exact (hBudgeted.within old hOld).closed rfl rfl rfl
      · exact hBudgeted.within old hOld
  | recoverInterruptedWrites now =>
      obtain ⟨value, hValue, _⟩ := QueueCall.replying_eq_ok h
      have hLoad : loadFile disk = .ok base := hBase
      unfold recoverInterruptedWrites at hValue
      simp only [hLoad] at hValue
      obtain ⟨_, _, hNext⟩ := saveFile_eq_ok hValue
      rw [Option.some.inj hNext]
      exact budgeted_recovered hBudgeted now (hReturns.recovered ⟨now, Or.inl rfl⟩ base hBase)
  | recoverOrInitialize now =>
      obtain ⟨value, hValue, _⟩ := QueueCall.replying_eq_ok h
      unfold recoverOrInitialize at hValue
      cases hRecovery : (recoveryBase disk now).2 with
      | error fault => simp [hRecovery] at hValue
      | ok recovery =>
          simp only [hRecovery] at hValue
          obtain ⟨_, _, hNext⟩ := saveFile_eq_ok hValue
          have hFile : QueueCall.base disk (.recoverOrInitialize now) = .ok recovery.2 := by
            rw [QueueCall.base, hRecovery]
            rfl
          rw [Option.some.inj hNext]
          exact budgeted_recovered (base_holds stable_budgeted hDisk hFile) now
            (hReturns.recovered ⟨now, Or.inr rfl⟩ recovery.2 hFile)
  | loadSnapshot now =>
      obtain ⟨value, hValue, _⟩ := QueueCall.replying_eq_ok h
      unfold loadSnapshot at hValue
      cases hLoad : loadFile disk <;> simp [hLoad] at hValue
  | readyToSend logbookId now =>
      obtain ⟨value, hValue, _⟩ := QueueCall.replying_eq_ok h
      unfold readyToSend at hValue
      cases hLoad : loadFile disk <;> simp [hLoad] at hValue
  | readyEventBatch logbookId localEvents now =>
      obtain ⟨value, hValue, _⟩ := QueueCall.replying_eq_ok h
      unfold readyEventBatch at hValue
      cases hLoad : loadFile disk <;> simp [hLoad] at hValue

/-- In a run that marks only what the queue offers, and in which no step gives
a mutation back whose attempts are used up, no mutation is sent more often than
it may, and none is offered that was. -/
theorem attempts_stay_within_budget {labels : List (QueueCall × Option Cut)}
    (run : Run (queueSystem.restrict fun disk label =>
      MarksOffered disk label ∧ ReturnsWithinBudget disk label) {} labels disk) :
    ∃ file, loadFile disk = .ok file ∧
      (∀ mutation ∈ file.mutations, mutation.attempts ≤ mutation.maxAttempts) ∧
      ∀ logbookId now, ∀ mutation ∈ readyMutations file.mutations logbookId now,
        mutation.attempts < mutation.maxAttempts := by
  have hDisk : disk.Holds Budgeted := by
    refine run.invariant ?_ (Disk.holds_empty Budgeted)
    rintro before ⟨call, cut⟩ after hBefore ⟨⟨hMarks, hReturns⟩, _, rfl⟩
    exact Plan.holds_carryOut hBefore (holds_prepared hBefore stable_budgeted.valid call)
      (fun reply next hOutcome => budgeted_of_saved hBefore hMarks hReturns hOutcome) cut
  obtain ⟨file, hLoad, hBudgeted⟩ := loadFile_of_holds stable_budgeted hDisk
  refine ⟨file, hLoad, fun mutation hMem => (hBudgeted.within mutation hMem).limit, ?_⟩
  exact fun logbookId now mutation hReady => left_of_ready hBudgeted hReady

end Runs

section Examples
open scoped Crates
open Crates (sampleInput epoch)

/-- An envelope that may be sent once. -/
def singleAttempt : OfflineMutationEnvelope :=
  { OfflineMutationEnvelope.new (sampleInput 1 5) 1 epoch 5 with maxAttempts := 1 }

/-- It is queued, sent, given back after a crash, and sent again. -/
def sentTwice : List (QueueCall × Option Cut) :=
  [.enqueue singleAttempt, .markSending 5 epoch, .recoverInterruptedWrites epoch,
    .markSending 5 epoch].map fun call => (call, none)

def diskAfter (labels : List (QueueCall × Option Cut)) : QueueDisk :=
  labels.foldl (fun disk label => queueStore.next disk label.1 label.2) {}

theorem marksOffered_of {disk : QueueDisk} {file : OfflineQueueFile}
    {mutation : OfflineMutationEnvelope} {operationId : Uuid} (offeredAt : DateTime)
    (hLoad : loadFile disk = .ok file) (hFound : file.findMutation operationId = some mutation)
    (hReady : mutation ∈ readyMutations file.mutations mutation.logbookId offeredAt)
    (now : DateTime) (cut : Option Cut) :
    MarksOffered disk (.markSending operationId now, cut) := by
  rintro _ _ ⟨⟩ other found hOther hOtherFound
  obtain rfl : file = other := Except.ok.inj (hLoad.symm.trans hOther)
  obtain rfl : mutation = found := Option.some.inj (hFound.symm.trans hOtherFound)
  exact ⟨offeredAt, hReady⟩

theorem marksOffered_of_other {disk : QueueDisk} {label : QueueCall × Option Cut}
    (h : ∀ operationId now, label.1 ≠ .markSending operationId now) : MarksOffered disk label :=
  fun operationId now hCall => absurd hCall (h operationId now)

/-- A mutation that may be sent once is sent a second time after a crash. -/
theorem exhausted_mutation_sent_again :
    Run (queueSystem.restrict MarksOffered) {} sentTwice (diskAfter sentTwice) ∧
      ∃ file, loadFile (diskAfter sentTwice) = .ok file ∧
        file.mutations.map (fun mutation => (mutation.attempts, mutation.maxAttempts)) =
          [(2, 1)] := by
  have hQueued : (queueSystem.restrict MarksOffered).step {} (.enqueue singleAttempt, none)
      (diskAfter (sentTwice.take 1)) :=
    ⟨marksOffered_of_other (by simp), fun _ _ => trivial, rfl⟩
  have hSent : (queueSystem.restrict MarksOffered).step (diskAfter (sentTwice.take 1))
      (.markSending 5 epoch, none) (diskAfter (sentTwice.take 2)) :=
    ⟨marksOffered_of epoch rfl rfl (by decide +kernel) epoch none,
      fun _ _ => trivial, rfl⟩
  have hRecovered : (queueSystem.restrict MarksOffered).step (diskAfter (sentTwice.take 2))
      (.recoverInterruptedWrites epoch, none) (diskAfter (sentTwice.take 3)) :=
    ⟨marksOffered_of_other (by simp), fun _ _ => trivial, rfl⟩
  have hAgain : (queueSystem.restrict MarksOffered).step (diskAfter (sentTwice.take 3))
      (.markSending 5 epoch, none) (diskAfter sentTwice) :=
    ⟨marksOffered_of epoch rfl rfl (by decide +kernel) epoch none,
      fun _ _ => trivial, rfl⟩
  refine ⟨?_, _, rfl, by decide +kernel⟩
  exact Run.snoc (Run.snoc (Run.snoc (Run.single hQueued) hSent) hRecovered) hAgain

/-- Sending it once stays within its budget. -/
theorem attempts_stay_within_budget_sent :
    ∃ file, loadFile (diskAfter (sentTwice.take 2)) = .ok file ∧
      (∀ mutation ∈ file.mutations, mutation.attempts ≤ mutation.maxAttempts) ∧
      ∀ logbookId now, ∀ mutation ∈ readyMutations file.mutations logbookId now,
        mutation.attempts < mutation.maxAttempts := by
  have hQueued : (queueSystem.restrict fun disk label =>
      MarksOffered disk label ∧ ReturnsWithinBudget disk label).step {}
        (.enqueue singleAttempt, none) (diskAfter (sentTwice.take 1)) := by
    refine ⟨⟨marksOffered_of_other (by simp), ?_, by simp, by simp⟩, fun _ _ => trivial, rfl⟩
    rintro envelope ⟨⟩
    exact .of_left (by decide)
  have hSent : (queueSystem.restrict fun disk label =>
      MarksOffered disk label ∧ ReturnsWithinBudget disk label).step
        (diskAfter (sentTwice.take 1)) (.markSending 5 epoch, none)
          (diskAfter (sentTwice.take 2)) :=
    ⟨⟨marksOffered_of epoch rfl rfl (by decide +kernel) epoch none,
      by simp, by simp, by simp⟩, fun _ _ => trivial, rfl⟩
  exact attempts_stay_within_budget (Run.snoc (Run.single hQueued) hSent)

end Examples
end HamLogger
