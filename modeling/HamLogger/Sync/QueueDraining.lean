import HamLogger.Sync.RetryOutcome

/-! The order in which the queue drains. What it offers for sending is the
longest run of ready mutations of a logbook, and no mutation overtakes another
one that waits. -/
namespace HamLogger

open FileReplace (Cut Disk)
open Transition (Run System)
open JsonOfflineMutationQueue

namespace OfflineQueueFile

/-- Every operation and every event that the mutation depends on is accepted,
and every schema version that it asks for is known. -/
def DependenciesAccepted (file : OfflineQueueFile) (mutation : OfflineMutationEnvelope) : Prop :=
  ∀ dependency ∈ mutation.dependencies,
    (∀ operationId, dependency.operationId = some operationId →
      ∃ other ∈ file.mutations, other.status = .accepted ∧ other.operationId = operationId) ∧
    (∀ eventHash, dependency.eventHash = some eventHash →
      ∃ other ∈ file.mutations, other.status = .accepted ∧
        other.localEventHash = some eventHash) ∧
    ∀ version, dependency.minimumSchemaVersion = some version →
      version ≤ offlineMutationSchemaVersion

/-- The mutation waits for nothing. -/
structure Ready (file : OfflineQueueFile) (now : DateTime) (mutation : OfflineMutationEnvelope) :
    Prop where
  draining : mutation.status = .pending ∨ mutation.status = .retrying
  due : ∀ nextAttempt, mutation.nextAttemptAt = some nextAttempt → nextAttempt ≤ now
  dependencies : file.DependenciesAccepted mutation

/-- The mutation holds up those after it. -/
def Waits (file : OfflineQueueFile) (now : DateTime) (mutation : OfflineMutationEnvelope) : Prop :=
  mutation.status ≠ .accepted ∧
    (mutation.status ∈ [.blocked, .failed, .sending, .userActionRequired] ∨
      (∃ nextAttempt, mutation.nextAttemptAt = some nextAttempt ∧ now < nextAttempt) ∨
      ¬ file.DependenciesAccepted mutation)

/-- The mutations of a logbook in ascending order, up to the first one that is
neither accepted nor ready, without those that are accepted. -/
structure LongestRun (file : OfflineQueueFile) (logbookId : Uuid) (now : DateTime)
    (ready : List OfflineMutationEnvelope) : Prop where
  ascending : ready.Pairwise fun first second => first.sequence < second.sequence
  mem_iff : ∀ mutation, mutation ∈ ready ↔
    mutation ∈ file.mutations ∧ mutation.logbookId = logbookId ∧ mutation.status ≠ .accepted ∧
      ∀ other ∈ file.mutations, other.logbookId = logbookId →
        other.sequence ≤ mutation.sequence → other.status ≠ .accepted → file.Ready now other

theorem Ready.not_waits {file : OfflineQueueFile} {now : DateTime}
    {mutation : OfflineMutationEnvelope} (h : file.Ready now mutation) :
    ¬ file.Waits now mutation := by
  intro hWaits
  rcases hWaits.2 with hStatus | ⟨nextAttempt, hNext, hLater⟩ | hMissing
  · rcases h.draining with hPending | hRetrying
    · rw [hPending] at hStatus
      revert hStatus
      decide
    · rw [hRetrying] at hStatus
      revert hStatus
      decide
  · exact absurd (h.due nextAttempt hNext) (Int.not_le.mpr hLater)
  · exact hMissing h.dependencies

end OfflineQueueFile

/-- The operations of a batch are the first ones of a list, each with its event. -/
structure OfflinePushBatch.Aligned (batch : OfflinePushBatch)
    (localEvents : List CoreEventEnvelope) (offered ready : List OfflineMutationEnvelope) :
    Prop where
  starts : offered <+: ready
  operationIds : batch.operationIds = offered.map OfflineMutationEnvelope.operationId
  events : List.Forall₂ (fun mutation event =>
    event ∈ localEvents ∧ mutation.localEventHash = some event.eventHash) offered batch.events

/-- An operation is offered for sending, alone or with its event. -/
inductive Offers (disk : QueueDisk) (logbookId : Uuid) (now : DateTime) (operationId : Uuid) :
    Prop where
  | alone (ready : List OfflineMutationEnvelope) (saved : Option OfflineQueueFile)
      (outcome : readyToSend disk logbookId now = .ok (ready, saved))
      (mem : operationId ∈ ready.map OfflineMutationEnvelope.operationId)
  | batched (localEvents : List CoreEventEnvelope) (batch : OfflinePushBatch)
      (saved : Option OfflineQueueFile)
      (outcome : readyEventBatch disk logbookId localEvents now = .ok (batch, saved))
      (mem : operationId ∈ batch.operationIds)

section Ready
variable {file : OfflineQueueFile} {now : DateTime}

/-- The test of the dependencies reads what is accepted in the file. -/
theorem dependenciesSatisfied_iff (file : OfflineQueueFile) (mutation : OfflineMutationEnvelope) :
    dependenciesSatisfied mutation
        ((file.mutations.filter fun mutation => mutation.status = .accepted).map
          fun mutation => mutation.operationId)
        ((file.mutations.filter fun mutation => mutation.status = .accepted).filterMap
          fun mutation => mutation.localEventHash) = true ↔
      file.DependenciesAccepted mutation := by
  unfold dependenciesSatisfied OfflineQueueFile.DependenciesAccepted
  simp only [List.all_eq_true, Bool.and_eq_true, Option.all_eq_true, decide_eq_true_eq,
    List.mem_map, List.mem_filterMap, List.mem_filter, and_assoc]

theorem isReadyAt_iff (mutation : OfflineMutationEnvelope) (now : DateTime) :
    mutation.isReadyAt now = true ↔
      (mutation.status = .pending ∨ mutation.status = .retrying) ∧
        ∀ nextAttempt, mutation.nextAttemptAt = some nextAttempt → nextAttempt ≤ now := by
  unfold OfflineMutationEnvelope.isReadyAt
  rw [Bool.and_eq_true]
  refine and_congr ?_ ?_
  · cases mutation.status <;> simp [OfflineMutationStatus.isDraining]
  · cases mutation.nextAttemptAt <;> simp

/-- The loop over an ascending list takes the mutations that nothing before
them holds up. -/
theorem mem_readyLoop_iff {operations : List Uuid} {hashes : List String}
    {mutations : List OfflineMutationEnvelope}
    (hSorted : mutations.Pairwise fun first second => first.sequence < second.sequence)
    (mutation : OfflineMutationEnvelope) :
    mutation ∈ readyLoop now operations hashes mutations ↔
      mutation ∈ mutations ∧ mutation.status ≠ .accepted ∧
        ∀ other ∈ mutations, other.sequence ≤ mutation.sequence → other.status ≠ .accepted →
          other.isReadyAt now = true ∧ dependenciesSatisfied other operations hashes = true := by
  induction mutations with
  | nil => simp [readyLoop]
  | cons first rest ih =>
      obtain ⟨hFirst, hRest⟩ := List.pairwise_cons.mp hSorted
      have hReach : mutation ∈ first :: rest → first.sequence ≤ mutation.sequence := by
        intro hMem
        rcases List.mem_cons.mp hMem with rfl | hLater
        · exact UInt64.le_refl _
        · exact UInt64.le_of_lt (hFirst mutation hLater)
      have hBeyond : ∀ other ∈ rest, ¬ other.sequence ≤ first.sequence := fun other hOther =>
        UInt64.not_le.mpr (hFirst other hOther)
      unfold readyLoop
      by_cases hAccepted : first.status = .accepted
      · rw [if_pos hAccepted, ih hRest]
        constructor
        · rintro ⟨hMem, hOpen, hAll⟩
          refine ⟨List.mem_cons_of_mem first hMem, hOpen, ?_⟩
          intro other hOther hBefore hWaiting
          rcases List.mem_cons.mp hOther with rfl | hLater
          · exact absurd hAccepted hWaiting
          · exact hAll other hLater hBefore hWaiting
        · rintro ⟨hMem, hOpen, hAll⟩
          rcases List.mem_cons.mp hMem with rfl | hLater
          · exact absurd hAccepted hOpen
          · exact ⟨hLater, hOpen,
              fun other hOther => hAll other (List.mem_cons_of_mem first hOther)⟩
      · rw [if_neg hAccepted]
        by_cases hSent : first.isReadyAt now = true ∧
            dependenciesSatisfied first operations hashes = true
        · rw [if_neg (by simp [hSent.1]), if_neg (by simp [hSent.2]), List.mem_cons, ih hRest]
          constructor
          · rintro (rfl | ⟨hMem, hOpen, hAll⟩)
            · refine ⟨List.mem_cons_self, hAccepted, ?_⟩
              intro other hOther hBefore _
              rcases List.mem_cons.mp hOther with rfl | hLater
              · exact hSent
              · exact absurd hBefore (hBeyond other hLater)
            · refine ⟨List.mem_cons_of_mem first hMem, hOpen, ?_⟩
              intro other hOther hBefore hWaiting
              rcases List.mem_cons.mp hOther with rfl | hLater
              · exact hSent
              · exact hAll other hLater hBefore hWaiting
          · rintro ⟨hMem, hOpen, hAll⟩
            rcases List.mem_cons.mp hMem with hSame | hLater
            · exact Or.inl hSame
            · exact Or.inr ⟨hLater, hOpen,
                fun other hOther => hAll other (List.mem_cons_of_mem first hOther)⟩
        · have hNothing : (if first.isReadyAt now = false then []
              else if dependenciesSatisfied first operations hashes = false then []
              else first :: readyLoop now operations hashes rest) = [] := by
            rw [not_and_or, Bool.not_eq_true, Bool.not_eq_true] at hSent
            rcases hSent with hEarly | hMissing
            · rw [if_pos hEarly]
            · rw [if_pos hMissing, ite_self]
          rw [hNothing]
          constructor
          · intro hMem
            cases hMem
          · rintro ⟨hMem, _, hAll⟩
            exact absurd (hAll first List.mem_cons_self (hReach hMem) hAccepted) hSent

theorem readyLoop_sublist (now : DateTime) (operations : List Uuid) (hashes : List String)
    (mutations : List OfflineMutationEnvelope) :
    (readyLoop now operations hashes mutations).Sublist mutations := by
  induction mutations with
  | nil => exact List.Sublist.slnil
  | cons first rest ih =>
      unfold readyLoop
      split
      · exact ih.cons first
      · split
        · exact List.nil_sublist _
        · split
          · exact List.nil_sublist _
          · exact ih.cons_cons first

theorem sequence_le_of_sortKey {first second : OfflineMutationEnvelope}
    (hLogbook : first.logbookId = second.logbookId) (h : first.sortKey ≤ second.sortKey) :
    first.sequence ≤ second.sequence := by
  unfold OfflineMutationEnvelope.sortKey at h
  rw [hLogbook, Prod.Lex.toLex_le_toLex] at h
  rcases h with hLess | ⟨_, hRest⟩
  · exact absurd hLess (lt_irrefl _)
  · rw [Prod.Lex.toLex_le_toLex] at hRest
    rcases hRest with hLess | ⟨hSame, _⟩
    · exact UInt64.le_iff_toNat_le.mpr hLess.le
    · exact UInt64.le_iff_toNat_le.mpr hSame.le

/-- The mutations of a logbook, sorted, have ascending sequences. -/
theorem ascending_ofLogbook (hReadable : ReadableQueue file) (logbookId : Uuid) :
    ((file.mutations.filter fun mutation => mutation.logbookId = logbookId).insertionSort
      fun left right => left.sortKey ≤ right.sortKey).Pairwise
        fun first second => first.sequence < second.sequence := by
  have hTotal : Std.Total fun left right : OfflineMutationEnvelope =>
      left.sortKey ≤ right.sortKey := ⟨fun left right => le_total left.sortKey right.sortKey⟩
  have hTrans : IsTrans OfflineMutationEnvelope fun left right =>
      left.sortKey ≤ right.sortKey := ⟨fun _ _ _ => le_trans⟩
  let own := file.mutations.filter fun mutation => mutation.logbookId = logbookId
  have hPerm := List.perm_insertionSort
    (fun left right : OfflineMutationEnvelope => left.sortKey ≤ right.sortKey) own
  have hOrdered := List.pairwise_insertionSort
    (fun left right : OfflineMutationEnvelope => left.sortKey ≤ right.sortKey) own
  have hKeys : (own.map OfflineMutationEnvelope.sequenceKey).Nodup :=
    hReadable.keys.sublist (List.filter_sublist.map _)
  have hDistinct := List.pairwise_map.mp
    ((hPerm.map OfflineMutationEnvelope.sequenceKey).nodup_iff.mpr hKeys)
  have hLogbook : ∀ mutation ∈ own.insertionSort fun left right => left.sortKey ≤ right.sortKey,
      mutation.logbookId = logbookId := by
    intro mutation hMem
    exact of_decide_eq_true (List.mem_filter.mp (hPerm.mem_iff.mp hMem)).2
  refine (hOrdered.and hDistinct).imp_of_mem ?_
  rintro first second hFirst hSecond ⟨hLe, hNe⟩
  have hSame := (hLogbook first hFirst).trans (hLogbook second hSecond).symm
  have hSequence : first.sequence ≠ second.sequence := fun h => hNe (Prod.ext hSame h)
  exact UInt64.lt_of_le_of_ne (sequence_le_of_sortKey hSame hLe) hSequence

theorem longestRun_readyMutations (hReadable : ReadableQueue file) (logbookId : Uuid)
    (now : DateTime) :
    file.LongestRun logbookId now (readyMutations file.mutations logbookId now) := by
  have hAscending := ascending_ofLogbook hReadable logbookId
  have hMem : ∀ mutation,
      mutation ∈ (file.mutations.filter fun mutation =>
        mutation.logbookId = logbookId).insertionSort
          (fun left right => left.sortKey ≤ right.sortKey) ↔
            mutation ∈ file.mutations ∧ mutation.logbookId = logbookId := by
    intro mutation
    rw [(List.perm_insertionSort _ _).mem_iff, List.mem_filter, decide_eq_true_eq]
  have hReady : ∀ mutation, file.Ready now mutation ↔
      mutation.isReadyAt now = true ∧ dependenciesSatisfied mutation
        ((file.mutations.filter fun mutation => mutation.status = .accepted).map
          fun mutation => mutation.operationId)
        ((file.mutations.filter fun mutation => mutation.status = .accepted).filterMap
          fun mutation => mutation.localEventHash) = true := by
    intro mutation
    rw [isReadyAt_iff, dependenciesSatisfied_iff]
    exact ⟨fun h => ⟨⟨h.draining, h.due⟩, h.dependencies⟩, fun h => ⟨h.1.1, h.1.2, h.2⟩⟩
  constructor
  · exact hAscending.sublist (readyLoop_sublist _ _ _ _)
  · intro mutation
    unfold readyMutations
    rw [mem_readyLoop_iff hAscending, hMem, and_assoc]
    simp only [hMem, hReady, and_imp]

/-- The loop that pairs the mutations with their events takes the first ones. -/
theorem aligned_batchLoop (localEvents : List CoreEventEnvelope) (logbookId : Uuid)
    (ready : List OfflineMutationEnvelope) :
    ∃ offered, (batchLoop localEvents logbookId ready).Aligned localEvents offered ready := by
  induction ready with
  | nil => exact ⟨[], List.prefix_refl _, rfl, List.Forall₂.nil⟩
  | cons mutation rest ih =>
      obtain ⟨offered, hAligned⟩ := ih
      unfold batchLoop
      cases hEvent : mutation.localEventHash.bind fun eventHash =>
          localEvents.reverse.find? fun event => event.eventHash = eventHash with
      | none => exact ⟨[], List.nil_prefix, rfl, List.Forall₂.nil⟩
      | some event =>
          obtain ⟨eventHash, hHash, hFound⟩ := Option.bind_eq_some_iff.mp hEvent
          have hMem := List.mem_reverse.mp (List.mem_of_find?_eq_some hFound)
          have hSame : event.eventHash = eventHash := by
            simpa using List.find?_some hFound
          refine ⟨mutation :: offered, ?_, ?_, ?_⟩
          · exact List.cons_prefix_cons.mpr ⟨rfl, hAligned.starts⟩
          · exact congrArg (mutation.operationId :: ·) hAligned.operationIds
          · exact List.Forall₂.cons ⟨hMem, by rw [hHash, hSame]⟩ hAligned.events

theorem OfflineQueueFile.LongestRun.not_overtaken {logbookId : Uuid}
    {ready : List OfflineMutationEnvelope}
    (h : file.LongestRun logbookId now ready) {mutation other : OfflineMutationEnvelope}
    (hMem : mutation ∈ ready) (hOther : other ∈ file.mutations)
    (hLogbook : other.logbookId = logbookId) (hBefore : other.sequence < mutation.sequence) :
    ¬ file.Waits now other := by
  intro hWaits
  have hAll := ((h.mem_iff mutation).mp hMem).2.2.2
  have hReady := hAll other hOther hLogbook (UInt64.le_of_lt hBefore) hWaits.1
  exact hReady.not_waits hWaits

end Ready

section Runs
variable [UuidCrate] [LegacyQueueJson]

/-- What is ready to be sent is the longest run of the logbook, a batch is the
start of it with its events, and whatever happened before no operation is
offered while an earlier mutation of the logbook waits. -/
theorem queue_drains_in_order :
    (∀ (disk : QueueDisk) (file : OfflineQueueFile), loadFile disk = .ok file →
      ∀ (logbookId : Uuid) (now : DateTime), ∃ ready,
        readyToSend disk logbookId now = .ok (ready, none) ∧
        file.LongestRun logbookId now ready ∧
        ∀ localEvents, ∃ batch offered,
          readyEventBatch disk logbookId localEvents now = .ok (batch, none) ∧
          batch.Aligned localEvents offered ready) ∧
    ∀ (start disk : QueueDisk) (labels : List (QueueCall × Option Cut)),
      Run queueSystem start labels disk → ∀ logbookId now operationId,
        Offers disk logbookId now operationId →
          ∃ file, loadFile disk = .ok file ∧ ∃ mutation ∈ file.mutations,
            mutation.operationId = operationId ∧ mutation.logbookId = logbookId ∧
            ∀ other ∈ file.mutations, other.logbookId = logbookId →
              other.sequence < mutation.sequence → ¬ file.Waits now other := by
  constructor
  · intro disk file hLoad logbookId now
    have hReadable := readableQueue_of_loadFile hLoad
    refine ⟨readyMutations file.mutations logbookId now, ?_,
      longestRun_readyMutations hReadable logbookId now, ?_⟩
    · rw [readyToSend, hLoad]
    · intro localEvents
      obtain ⟨offered, hAligned⟩ := aligned_batchLoop localEvents logbookId
        (readyMutations file.mutations logbookId now)
      refine ⟨_, offered, ?_, hAligned⟩
      rw [readyEventBatch, hLoad]
  · intro start disk labels _ logbookId now operationId hOffers
    obtain ⟨file, hLoad, mutation, hMem, rfl⟩ : ∃ file, loadFile disk = .ok file ∧
        ∃ mutation ∈ readyMutations file.mutations logbookId now,
          mutation.operationId = operationId := by
      cases hOffers with
      | alone ready saved hOutcome hMem =>
          obtain ⟨mutation, hMutation, hSame⟩ := List.mem_map.mp hMem
          unfold readyToSend at hOutcome
          cases hLoad : loadFile disk with
          | error fault =>
              rw [hLoad] at hOutcome
              cases hOutcome
          | ok file =>
              rw [hLoad] at hOutcome
              cases hOutcome
              exact ⟨file, rfl, mutation, hMutation, hSame⟩
      | batched localEvents batch saved hOutcome hMem =>
          unfold readyEventBatch at hOutcome
          cases hLoad : loadFile disk with
          | error fault =>
              rw [hLoad] at hOutcome
              cases hOutcome
          | ok file =>
              rw [hLoad] at hOutcome
              cases hOutcome
              obtain ⟨offered, hAligned⟩ := aligned_batchLoop localEvents logbookId
                (readyMutations file.mutations logbookId now)
              rw [hAligned.operationIds] at hMem
              obtain ⟨mutation, hMutation, hSame⟩ := List.mem_map.mp hMem
              exact ⟨file, rfl, mutation, hAligned.starts.subset hMutation, hSame⟩
    have hRun := longestRun_readyMutations (readableQueue_of_loadFile hLoad) logbookId now
    obtain ⟨hListed, hLogbook, _⟩ := (hRun.mem_iff mutation).mp hMem
    exact ⟨file, hLoad, mutation, hListed, rfl, hLogbook, fun other hOther hOwn hBefore =>
      hRun.not_overtaken hMem hOther hOwn hBefore⟩

end Runs
end HamLogger
