import HamLogger.Sync.QueueEvolution

/-! Acceptance in the queue. An accepted mutation stays accepted and is not
sent again, as long as no failure is reported for it afterwards. -/
namespace HamLogger

open FileReplace (Content Cut Disk Plan Store)
open Transition (Run System)
open JsonOfflineMutationQueue

/-! What is ready to be sent. -/

theorem mem_readyLoop {now : DateTime} {operations : List Uuid} {hashes : List String}
    {mutations : List OfflineMutationEnvelope} {mutation : OfflineMutationEnvelope}
    (h : mutation ∈ readyLoop now operations hashes mutations) :
    mutation ∈ mutations ∧ mutation.status ≠ .accepted := by
  induction mutations with
  | nil => cases h
  | cons first rest ih =>
      unfold readyLoop at h
      split at h
      · obtain ⟨hMem, hStatus⟩ := ih h
        exact ⟨List.mem_cons_of_mem first hMem, hStatus⟩
      · rename_i hFirst
        split at h
        · cases h
        · split at h
          · cases h
          · rcases List.mem_cons.mp h with rfl | hRest
            · exact ⟨List.mem_cons_self, hFirst⟩
            · obtain ⟨hMem, hStatus⟩ := ih hRest
              exact ⟨List.mem_cons_of_mem first hMem, hStatus⟩

theorem mem_readyMutations {mutations : List OfflineMutationEnvelope} {logbookId : Uuid}
    {now : DateTime} {mutation : OfflineMutationEnvelope}
    (h : mutation ∈ readyMutations mutations logbookId now) :
    mutation ∈ mutations ∧ mutation.logbookId = logbookId ∧ mutation.status ≠ .accepted := by
  obtain ⟨hMem, hStatus⟩ := mem_readyLoop h
  have hFiltered := (List.perm_insertionSort _ _).mem_iff.mp hMem
  obtain ⟨hListed, hLogbook⟩ := List.mem_filter.mp hFiltered
  exact ⟨hListed, of_decide_eq_true hLogbook, hStatus⟩

/-- A batch names operations of ready mutations only. -/
theorem mem_batchLoop {localEvents : List CoreEventEnvelope} {logbookId operationId : Uuid}
    {mutations : List OfflineMutationEnvelope}
    (h : operationId ∈ (batchLoop localEvents logbookId mutations).operationIds ∨
      operationId ∈ (batchLoop localEvents logbookId mutations).missingLocalEventOperationIds) :
    ∃ mutation ∈ mutations, mutation.operationId = operationId := by
  induction mutations with
  | nil => rcases h with h | h <;> cases h
  | cons first rest ih =>
      unfold batchLoop at h
      split at h
      · rcases h with h | h
        · cases h
        · obtain rfl := List.mem_singleton.mp h
          exact ⟨first, List.mem_cons_self, rfl⟩
      · have hRest : operationId = first.operationId ∨
            ∃ mutation ∈ rest, mutation.operationId = operationId := by
          rcases h with h | h
          · rcases List.mem_cons.mp h with hFirst | hLater
            · exact Or.inl hFirst
            · exact Or.inr (ih (Or.inl hLater))
          · exact Or.inr (ih (Or.inr h))
        rcases hRest with hFirst | ⟨mutation, hMem, hSame⟩
        · exact ⟨first, List.mem_cons_self, hFirst.symm⟩
        · exact ⟨mutation, List.mem_cons_of_mem first hMem, hSame⟩

/-! What a step keeps. -/

/-- The status and the time of acceptance agree. -/
def OfflineMutationEnvelope.Agrees (mutation : OfflineMutationEnvelope) : Prop :=
  mutation.status = .accepted ↔ mutation.acceptedAt.isSome = true

/-- A queue file in which acceptance is recorded as it should be. -/
structure Settled (file : OfflineQueueFile) : Prop where
  distinct : DistinctBy OfflineMutationEnvelope.operationKey file
  agrees : ∀ mutation ∈ file.mutations, mutation.Agrees

theorem stable_settled : Stable Settled where
  empty := ⟨(stable_distinctBy _).empty, fun _ hMem => absurd hMem List.not_mem_nil⟩
  sorted file h := ⟨(stable_distinctBy _).sorted file h.distinct, fun mutation hMem =>
    h.agrees mutation ((OfflineQueueFile.mem_sorted file mutation).mp hMem)⟩
  valid _ h := h.distinct.valid

/-- The step reports no failure of an accepted mutation, queues no envelope
that disagrees with itself, and is not cut off between the removal of the
queue file and the renaming. -/
structure KeepsAcceptance (disk : QueueDisk) (label : QueueCall × Option Cut) : Prop where
  report : label.1.reopens = true → ∀ file operationId mutation, loadFile disk = .ok file →
    label.1.operationId = some operationId → file.findMutation operationId = some mutation →
    mutation.status ≠ .accepted
  envelope : ∀ envelope, label.1 = .enqueue envelope → envelope.Agrees
  whole : label.2 = some .oldRemoved → disk.file = none

/-- The mutation is the same one, and if it was accepted it still is. -/
def KeptAccepted (old new : OfflineMutationEnvelope) : Prop :=
  new.identity = old.identity ∧ (old.status = .accepted → new.status = .accepted)

/-- The mutation is accepted, and not sent any more. -/
structure StaysAccepted (mutation : OfflineMutationEnvelope) (disk : QueueDisk) : Prop where
  queued : ∃ file, loadFile disk = .ok file ∧ ∃ new ∈ file.mutations,
    new.identity = mutation.identity ∧ new.status = .accepted
  notReady : ∀ logbookId now ready saved,
    readyToSend disk logbookId now = .ok (ready, saved) →
    ∀ other ∈ ready, other.operationKey ≠ mutation.operationKey
  notBatched : ∀ localEvents now batch saved,
    readyEventBatch disk mutation.logbookId localEvents now = .ok (batch, saved) →
    mutation.operationId ∉ batch.operationIds ∧
      mutation.operationId ∉ batch.missingLocalEventOperationIds

/-- What the queue holds as accepted is not ready. -/
theorem staysAccepted_of_settled {disk : QueueDisk} {file : OfflineQueueFile}
    (hLoad : loadFile disk = .ok file) (hSettled : Settled file)
    {mutation new : OfflineMutationEnvelope} (hNew : new ∈ file.mutations)
    (hIdentity : new.identity = mutation.identity) (hStatus : new.status = .accepted) :
    StaysAccepted mutation disk := by
  have hNotReady : ∀ logbookId now, ∀ other ∈ readyMutations file.mutations logbookId now,
      other.operationKey ≠ mutation.operationKey := by
    intro logbookId now other hOther hSame
    obtain ⟨hMem, _, hOpen⟩ := mem_readyMutations hOther
    have hKey := hSame.trans (operationKey_of_identity hIdentity).symm
    obtain rfl := hSettled.distinct.eq_of_key hMem hNew hKey
    exact hOpen hStatus
  refine ⟨⟨file, hLoad, new, hNew, hIdentity, hStatus⟩, ?_, ?_⟩
  · intro logbookId now ready saved hReady
    rw [readyToSend, hLoad] at hReady
    cases hReady
    exact hNotReady logbookId now
  · intro localEvents now batch saved hBatch
    rw [readyEventBatch, hLoad] at hBatch
    cases hBatch
    refine not_or.mp fun hNamed => ?_
    obtain ⟨other, hOther, hSame⟩ := mem_batchLoop hNamed
    obtain ⟨_, hLogbook, _⟩ := mem_readyMutations hOther
    exact hNotReady _ now other hOther (Prod.ext hLogbook hSame)

section Runs
variable [UuidCrate] [LegacyQueueJson]

/-- A call that sets another status addresses a mutation of the loaded file. -/
theorem addressed_of_reopens {call : QueueCall} (h : call.reopens = true) (disk : QueueDisk) :
    call.base disk = loadFile disk ∧ ∃ operationId, call.operationId = some operationId := by
  cases call with
  | markSending operationId | recordTransientFailure operationId | markBlocked operationId
  | markFailed operationId | markUserActionRequired operationId => exact ⟨rfl, operationId, rfl⟩
  | loadSnapshot | enqueueInput | enqueue | recordLocalEvent | markAccepted
  | markAcceptedByEventHashes | recoverInterruptedWrites | recoverOrInitialize | readyToSend
  | readyEventBatch => cases h

theorem not_accepted_of_reopens {disk : QueueDisk} {call : QueueCall} {cut : Option Cut}
    (hAllowed : KeepsAcceptance disk (call, cut)) {base : OfflineQueueFile}
    (hBase : call.base disk = .ok base) {old new : OfflineMutationEnvelope}
    (hRevises : call.Revises base old new) (hReopens : call.reopens = true) :
    old.status ≠ .accepted := by
  obtain ⟨hLoad, operationId, hOperation⟩ := addressed_of_reopens hReopens disk
  exact hAllowed.report hReopens base operationId old (hLoad.symm.trans hBase) hOperation
    (hRevises.addressed operationId hOperation)

theorem keptAccepted_of_revises {disk : QueueDisk} {call : QueueCall} {cut : Option Cut}
    (hAllowed : KeepsAcceptance disk (call, cut)) {base : OfflineQueueFile}
    (hBase : call.base disk = .ok base) {old new : OfflineMutationEnvelope}
    (hRevises : call.Revises base old new) : KeptAccepted old new := by
  refine ⟨hRevises.identity, fun hOld => ?_⟩
  rcases hRevises.acceptance with ⟨hNew, _⟩ | ⟨_, hSame | ⟨_, hReopens⟩⟩
  · exact hNew
  · exact hSame.mpr hOld
  · exact absurd hOld (not_accepted_of_reopens hAllowed hBase hRevises hReopens)

theorem agrees_of_revises {disk : QueueDisk} {call : QueueCall} {cut : Option Cut}
    (hAllowed : KeepsAcceptance disk (call, cut)) {base : OfflineQueueFile}
    (hBase : call.base disk = .ok base) {old new : OfflineMutationEnvelope}
    (hRevises : call.Revises base old new) (hOld : old.Agrees) : new.Agrees := by
  rcases hRevises.acceptance with ⟨hNew, hTime⟩ | ⟨hTime, hSame | ⟨hNew, hReopens⟩⟩
  · exact iff_of_true hNew hTime
  · rw [OfflineMutationEnvelope.Agrees, hTime, hSame]
    exact hOld
  · have hOpen := not_accepted_of_reopens hAllowed hBase hRevises hReopens
    rw [OfflineMutationEnvelope.Agrees, hTime]
    exact iff_of_false hNew fun hSome => hOpen (hOld.mpr hSome)

theorem settled_of_saves {disk : QueueDisk} {call : QueueCall} {cut : Option Cut}
    (hAllowed : KeepsAcceptance disk (call, cut)) {base next : OfflineQueueFile}
    (hSettled : Settled base) (hBase : call.base disk = .ok base) (hFresh : call.Fresh base)
    (hSaved : call.Saves base next) (hValid : next.validate = .ok ()) : Settled next := by
  refine ⟨⟨hValid, hSaved.nodup operationKey_of_identity hSettled.distinct.nodup
    fun _ _ hAdds => hAdds.operationKey hFresh⟩, ?_⟩
  intro new hNew
  rcases hSaved.source hNew with ⟨old, hOld, rfl | hRevises⟩ | ⟨counter, hAdds⟩
  · exact hSettled.agrees new hOld
  · exact agrees_of_revises hAllowed hBase hRevises (hSettled.agrees old hOld)
  · cases call with
    | enqueueInput input now random =>
        obtain ⟨_, _, rfl, _⟩ := hAdds
        exact iff_of_false (by simp [OfflineMutationEnvelope.new])
          (by simp [OfflineMutationEnvelope.new])
    | enqueue envelope =>
        obtain ⟨_, rfl, _⟩ := hAdds
        exact hAllowed.envelope new rfl
    | loadSnapshot | recordLocalEvent | markSending | recordTransientFailure | markBlocked
    | markFailed | markUserActionRequired | markAccepted | markAcceptedByEventHashes
    | recoverInterruptedWrites | recoverOrInitialize | readyToSend | readyEventBatch =>
        cases hAdds

/-- In every run without late failure reports the status agrees with the time
of acceptance, and what is accepted stays so and is never sent again. -/
theorem accepted_absorbing {labels : List (QueueCall × Option Cut)} {disk : QueueDisk}
    (run : Run (queueSystem.restrict KeepsAcceptance) {} labels disk) :
    ∃ file, loadFile disk = .ok file ∧
      (∀ mutation ∈ file.mutations,
        mutation.status = .accepted ↔ mutation.acceptedAt.isSome = true) ∧
      ∀ mutation ∈ file.mutations, mutation.status = .accepted →
        ∀ (further : List (QueueCall × Option Cut)) (later : QueueDisk),
          Run (queueSystem.restrict KeepsAcceptance) disk further later →
          StaysAccepted mutation later := by
  have hSaves : ∀ (before : QueueDisk) (call : QueueCall) (cut : Option Cut)
      (base next : OfflineQueueFile), KeepsAcceptance before (call, cut) → Settled base →
      call.base before = .ok base → call.Fresh base → call.Saves base next →
      next.validate = .ok () → Settled next :=
    fun _ _ _ _ _ hAllowed => settled_of_saves hAllowed
  have hDisk := holds_of_run stable_settled hSaves (Disk.holds_empty _) run
  obtain ⟨file, hLoad, hFile⟩ := loadFile_of_holds stable_settled hDisk
  refine ⟨file, hLoad, hFile.agrees, ?_⟩
  intro mutation hMem hStatus further later hLater
  have hEvolves : Evolves KeptAccepted disk later := by
    refine evolves_of_run stable_settled hSaves (fun _ => ⟨rfl, id⟩) ?_
      (fun _ _ _ hAllowed => hAllowed.whole) ?_ hDisk hLater
    · rintro first second third ⟨hFirst, hKept⟩ ⟨hSecond, hKeptLater⟩
      exact ⟨hSecond.trans hFirst, fun hAccepted => hKeptLater (hKept hAccepted)⟩
    · intro before call cut base next hAllowed hBase hSaved old hOld
      obtain ⟨new, hNew, rfl | hRevises⟩ := hSaved.mem hOld
      · exact ⟨new, hNew, rfl, id⟩
      · exact ⟨new, hNew, keptAccepted_of_revises hAllowed hBase hRevises⟩
  obtain ⟨next, hNext, hKept⟩ := hEvolves file hLoad
  obtain ⟨new, hNew, hIdentity, hAccepted⟩ := hKept mutation hMem
  obtain ⟨loaded, hLoaded, hSettled⟩ := loadFile_of_holds stable_settled
    (holds_of_run stable_settled hSaves hDisk hLater)
  obtain rfl : loaded = next := Except.ok.inj (hLoaded.symm.trans hNext)
  exact staysAccepted_of_settled hNext hSettled hNew hIdentity (hAccepted hStatus)

end Runs

section
open Crates

theorem accepted_absorbing_contact :
    ∃ mutation : OfflineMutationEnvelope, mutation.operationId = 7 ∧
      StaysAccepted mutation (queueStore.next
        (queueStore.next {} (.enqueueInput (sampleInput 1 7) epoch 0) none)
        (.markAccepted 7 epoch) none) := by
  have hFirst : (queueSystem.restrict KeepsAcceptance).step {}
      (.enqueueInput (sampleInput 1 7) epoch 0, none)
      (queueStore.next {} (.enqueueInput (sampleInput 1 7) epoch 0) none) := by
    refine ⟨⟨fun h => ?_, fun envelope h => ?_, fun h => ?_⟩, ?_, rfl⟩
    · cases h
    · cases h
    · cases h
    · intro file hFile mutation hMem
      cases hFile
      cases hMem
  have hSecond : (queueSystem.restrict KeepsAcceptance).step
      (queueStore.next {} (.enqueueInput (sampleInput 1 7) epoch 0) none)
      (.markAccepted 7 epoch, none)
      (queueStore.next (queueStore.next {} (.enqueueInput (sampleInput 1 7) epoch 0) none)
        (.markAccepted 7 epoch) none) := by
    refine ⟨⟨fun h => ?_, fun envelope h => ?_, fun h => ?_⟩, fun _ _ => trivial, rfl⟩
    · cases h
    · cases h
    · cases h
  obtain ⟨file, hLoad, _, hStays⟩ := accepted_absorbing (Run.snoc (Run.single hFirst) hSecond)
  obtain ⟨mutation, hMem, hOperation, hStatus⟩ : ∃ mutation ∈ file.mutations,
      mutation.operationId = 7 ∧ mutation.status = .accepted := by
    cases hLoad
    decide
  exact ⟨mutation, hOperation, hStays mutation hMem hStatus [] _ (Run.nil _)⟩

/-- A failure that is reported after the acceptance makes the mutation ready
again. -/
theorem late_failure_reopens :
    let queued := queueStore.next {} (.enqueueInput (sampleInput 1 7) epoch 0) none
    let accepted := queueStore.next queued (.markAccepted 7 epoch) none
    let later := queueStore.next accepted (.recordTransientFailure 7 "timeout" none epoch) none
    Run queueSystem {} [(.enqueueInput (sampleInput 1 7) epoch 0, none),
      (.markAccepted 7 epoch, none), (.recordTransientFailure 7 "timeout" none epoch, none)]
      later ∧
    (∃ file, loadFile accepted = .ok file ∧
      file.mutations.map (fun mutation => mutation.status) = [.accepted]) ∧
    (∃ file, loadFile later = .ok file ∧
      file.mutations.map (fun mutation => (mutation.status, mutation.acceptedAt)) =
        [(.retrying, some epoch)]) ∧
    ∃ minute ready, readyToSend later 1 minute = .ok (ready, none) ∧
      ready.map (fun mutation => mutation.operationId) = [7] := by
  intro queued accepted later
  have hQueued : queueSystem.step {} (.enqueueInput (sampleInput 1 7) epoch 0, none) queued := by
    refine ⟨?_, rfl⟩
    intro file hFile mutation hMem
    cases hFile
    cases hMem
  have hAccepted : queueSystem.step queued (.markAccepted 7 epoch, none) accepted :=
    ⟨fun _ _ => trivial, rfl⟩
  have hLater : queueSystem.step accepted
      (.recordTransientFailure 7 "timeout" none epoch, none) later :=
    ⟨fun _ _ => trivial, rfl⟩
  refine ⟨Run.snoc (Run.snoc (Run.single hQueued) hAccepted) hLater, ⟨_, rfl, ?_⟩, ⟨_, rfl, ?_⟩,
    ⟨60000000000, by decide, by decide⟩, _, rfl, ?_⟩
  · decide
  · decide
  · decide

end

end HamLogger
