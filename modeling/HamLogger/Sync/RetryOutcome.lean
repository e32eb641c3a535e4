import HamLogger.Sync.QueueEvolution
import HamLogger.Sync.RetryResult
import Mathlib.Data.List.Perm.Basic

/-! When the result of a retry does what it names, and an error does nothing. -/
namespace HamLogger

open FileReplace (Cut Disk)
open JsonOfflineMutationQueue
open Program

/-! The file that one update saves. -/

theorem OfflineMutationEnvelope.sortKey_of_identity {old new : OfflineMutationEnvelope}
    (h : new.identity = old.identity) : new.sortKey = old.sortKey := by
  unfold identity at h
  simp only [Prod.mk.injEq] at h
  obtain ⟨hLogbook, hSequence, hOperation, _, _, _, hCreated⟩ := h
  rw [sortKey, sortKey, hLogbook, hSequence, hOperation, hCreated]

theorem OfflineMutationEnvelope.sequenceKey_of_identity {old new : OfflineMutationEnvelope}
    (h : new.identity = old.identity) : new.sequenceKey = old.sequenceKey := by
  unfold identity at h
  simp only [Prod.mk.injEq] at h
  rw [sequenceKey, sequenceKey, h.1, h.2.1]

/-- A file in the order and of the shape that an operation reads. -/
structure ReadableQueue (file : OfflineQueueFile) : Prop where
  ordered : file.sorted = file
  valid : file.validate = .ok ()

theorem readableQueue_of_loadFile {disk : QueueDisk} {file : OfflineQueueFile}
    (h : loadFile disk = .ok file) : ReadableQueue file := by
  obtain ⟨stored, _, hValid, rfl⟩ := loadFile_eq_ok_iff.mp h
  exact ⟨stored.sorted_sorted, stored.validate_sorted.mpr hValid⟩

theorem ReadableQueue.loadFile_replace {file : OfflineQueueFile} (h : ReadableQueue file)
    (disk : QueueDisk) : loadFile (disk.replace file none) = .ok file :=
  loadFile_eq_ok_iff.mpr ⟨file, rfl, h.valid, h.ordered⟩

theorem ReadableQueue.keys {file : OfflineQueueFile} (h : ReadableQueue file) :
    (file.mutations.map OfflineMutationEnvelope.sequenceKey).Nodup :=
  (file.validate_eq_ok_iff.mp h.valid).2.2

theorem ReadableQueue.nodup {file : OfflineQueueFile} (h : ReadableQueue file) :
    file.mutations.Nodup :=
  h.keys.of_map _

/-- A new state of a mutation that the check of the file cannot tell from the
old one. -/
structure Revision (old new : OfflineMutationEnvelope) : Prop where
  identity : new.identity = old.identity
  validate : new.validate = old.validate

theorem ReadableQueue.setMutation {file : OfflineQueueFile} (h : ReadableQueue file)
    {operationId : Uuid} {old new : OfflineMutationEnvelope}
    (hFound : file.findMutation operationId = some old)
    (hNew : Revision old new) : ReadableQueue (file.setMutation operationId new) := by
  have hOnly : ∀ found, file.mutations.find?
      (fun mutation => decide (mutation.operationId = operationId)) = some found →
      found = old := fun found hOther => Option.some.inj (hOther.symm.trans hFound)
  refine ⟨?_, ?_⟩
  · have hKeys : (file.setMutation operationId new).mutations.map
        OfflineMutationEnvelope.sortKey =
        file.mutations.map OfflineMutationEnvelope.sortKey := by
      apply map_updateFirst
      intro found hOther
      rw [hOnly found hOther]
      exact OfflineMutationEnvelope.sortKey_of_identity hNew.identity
    have hTotal : Std.Total fun left right : OfflineMutationEnvelope =>
        left.sortKey ≤ right.sortKey := ⟨fun left right => le_total left.sortKey right.sortKey⟩
    have hTrans : IsTrans OfflineMutationEnvelope fun left right =>
        left.sortKey ≤ right.sortKey := ⟨fun _ _ _ => le_trans⟩
    have hOrdered : file.mutations.Pairwise fun left right => left.sortKey ≤ right.sortKey := by
      rw [← h.ordered]
      exact List.pairwise_insertionSort _ file.mutations
    have hMapped := List.pairwise_map.mpr hOrdered
    rw [← hKeys] at hMapped
    have hSame := List.Pairwise.insertionSort_eq (List.pairwise_map.mp hMapped)
    unfold OfflineQueueFile.sorted
    rw [hSame]
  · obtain ⟨hVersion, hValid, hKeys⟩ := file.validate_eq_ok_iff.mp h.valid
    refine (OfflineQueueFile.validate_eq_ok_iff _).mpr ⟨hVersion, ?_, ?_⟩
    · intro mutation hMem
      obtain ⟨before, hBefore, hChange⟩ :=
        exists_left_of_forall₂ (forall₂_updateFirst file.mutations) hMem
      rcases hChange with rfl | ⟨hOther, rfl⟩
      · exact hValid mutation hBefore
      · have hOld := hValid before hBefore
        rw [hOnly before hOther, ← hNew.validate] at hOld
        exact hOld
    · have hSame : (file.setMutation operationId new).mutations.map
          OfflineMutationEnvelope.sequenceKey =
          file.mutations.map OfflineMutationEnvelope.sequenceKey := by
        apply map_updateFirst
        intro found hOther
        rw [hOnly found hOther]
        exact OfflineMutationEnvelope.sequenceKey_of_identity hNew.identity
      rw [hSame]
      exact hKeys

theorem ReadableQueue.mem_setMutation {file : OfflineQueueFile} (h : ReadableQueue file)
    {operationId : Uuid} {old new mutation : OfflineMutationEnvelope}
    (hFound : file.findMutation operationId = some old) :
    mutation ∈ (file.setMutation operationId new).mutations ↔
      mutation = new ∨ (mutation ∈ file.mutations ∧ mutation ≠ old) := by
  obtain ⟨before, after, hList, hUpdate⟩ := @updateFirst_of_find? _ _ (fun _ => new) _ _ hFound
  have hNodup := h.nodup
  rw [hList, List.nodup_append] at hNodup
  obtain ⟨_, hAfter, hApart⟩ := hNodup
  have hNotAfter := (List.nodup_cons.mp hAfter).1
  have hNotBefore : old ∉ before := fun hMem => hApart old hMem old List.mem_cons_self rfl
  show mutation ∈ updateFirst _ _ file.mutations ↔ _
  rw [hUpdate, hList]
  simp only [List.mem_append, List.mem_cons]
  constructor
  · intro hMem
    rcases hMem with hBefore | rfl | hLater
    · exact Or.inr ⟨Or.inl hBefore, fun hSame => hNotBefore (hSame ▸ hBefore)⟩
    · exact Or.inl rfl
    · exact Or.inr ⟨Or.inr (Or.inr hLater), fun hSame => hNotAfter (hSame ▸ hLater)⟩
  · intro hMem
    rcases hMem with rfl | ⟨hBefore | hSame | hLater, hOther⟩
    · exact Or.inr (Or.inl rfl)
    · exact Or.inl hBefore
    · exact absurd hSame hOther
    · exact Or.inr (Or.inr hLater)

theorem findMutation_setMutation {file : OfflineQueueFile} {operationId : Uuid}
    {old new : OfflineMutationEnvelope} (hFound : file.findMutation operationId = some old)
    (hNew : new.operationId = operationId) (other : Uuid) :
    (file.setMutation operationId new).findMutation other =
      if other = operationId then some new else file.findMutation other := by
  show (updateFirst _ _ file.mutations).find? _ = _
  rw [find?_updateFirst OfflineMutationEnvelope.operationId hNew]
  split
  · rw [show file.mutations.find? _ = some old from hFound]
    rfl
  · rfl

/-! One call of a result. -/

/-- What a result other than an accepted one writes into a mutation. -/
structure Marks (now : DateTime) (old new : OfflineMutationEnvelope) : Prop where
  revision : Revision old new
  status : new.status ≠ .sending
  stamped : new.updatedAt = now
  attempts : new.attempts = old.attempts
  maxAttempts : new.maxAttempts = old.maxAttempts
  retryDelay : new.retryDelay = old.retryDelay

theorem updateMutation_of_found {disk : QueueDisk} {file : OfflineQueueFile}
    (hLoad : loadFile disk = .ok file) {operationId : Uuid}
    {mutation updated : OfflineMutationEnvelope} {now : DateTime}
    (hFound : file.findMutation operationId = some mutation)
    {update : OfflineMutationEnvelope → Outcome OfflineQueueError OfflineMutationEnvelope}
    (hUpdate : update mutation = .ok updated)
    (hRevision : Revision mutation { updated with updatedAt := now }) :
    updateMutation disk operationId now update =
      .ok ({ updated with updatedAt := now },
        some (file.setMutation operationId { updated with updatedAt := now })) := by
  have hReadable := (readableQueue_of_loadFile hLoad).setMutation hFound hRevision
  rw [updateMutation, hLoad]
  simp only [hFound, hUpdate, saveFile, hReadable.ordered, hReadable.valid]

/-- What a result writes into a mutation, before the stamp. -/
def resultUpdate (request : IosRetryResultRequest) (now : DateTime)
    (mutation : OfflineMutationEnvelope) : Outcome OfflineQueueError OfflineMutationEnvelope :=
  match request.result with
  | .transientFailure =>
      if mutation.maxAttempts ≤ mutation.attempts then
        .ok { mutation with
              status := .failed, nextAttemptAt := none, failureReason := some request.reason,
              lastErrorCode := some request.code }
      else match now.addSeconds mutation.retryDelay with
        | none => .error .panic
        | some nextAttempt =>
            .ok { mutation with
                  status := .retrying, nextAttemptAt := some nextAttempt,
                  failureReason := some request.reason, lastErrorCode := some request.code }
  | .diverged =>
      .ok { mutation with
            status := .blocked, failureReason := some request.reason, nextAttemptAt := none }
  | _ =>
      .ok { mutation with
            status := .userActionRequired, failureReason := some request.reason,
            lastErrorCode := some request.code, nextAttemptAt := none }

theorem resultCall_eq_updateMutation (request : IosRetryResultRequest) (now : DateTime)
    (operationId : Uuid) (disk : QueueDisk) :
    resultCall request now operationId disk =
      updateMutation disk operationId now (resultUpdate request now) := by
  unfold resultCall
  have hUpdate : resultUpdate request now = fun mutation => resultUpdate request now mutation :=
    rfl
  rw [hUpdate]
  unfold resultUpdate
  cases request.result <;> rfl

/-- A written mutation is stamped, and no longer Sending. -/
theorem resultUpdate_marks {request : IosRetryResultRequest} {now : DateTime}
    {old updated : OfflineMutationEnvelope} (h : resultUpdate request now old = .ok updated) :
    Marks now old { updated with updatedAt := now } := by
  unfold resultUpdate at h
  split at h
  · split at h
    · cases h
      exact ⟨⟨rfl, rfl⟩, nofun, rfl, rfl, rfl, rfl⟩
    · split at h
      · cases h
      · cases h
        exact ⟨⟨rfl, rfl⟩, nofun, rfl, rfl, rfl, rfl⟩
  · cases h
    exact ⟨⟨rfl, rfl⟩, nofun, rfl, rfl, rfl, rfl⟩
  · cases h
    exact ⟨⟨rfl, rfl⟩, nofun, rfl, rfl, rfl, rfl⟩

theorem resultUpdate_eq_ok_iff (request : IosRetryResultRequest) (now : DateTime)
    (old : OfflineMutationEnvelope) :
    (∃ updated, resultUpdate request now old = .ok updated) ↔
      (request.result = .transientFailure → old.attempts < old.maxAttempts →
        (now.addSeconds old.retryDelay).isSome = true) := by
  unfold resultUpdate
  cases request.result with
  | transientFailure =>
      dsimp only
      split
      · rename_i hReached
        simp [UInt32.not_lt.mpr hReached]
      · rename_i hBelow
        have hLt := UInt32.not_le.mp hBelow
        cases now.addSeconds old.retryDelay <;> simp [hLt]
  | accepted | authFailed | validationFailed | diverged | missingLocalEvent
  | permanentFailure => simp

/-- A call writes the mutation of its operation, or fails and writes nothing. -/
theorem resultCall_cases (request : IosRetryResultRequest) (now : DateTime) {disk : QueueDisk}
    {file : OfflineQueueFile} (hLoad : loadFile disk = .ok file) (operationId : Uuid) :
    (Reachable request now file operationId ∧ ∃ old new,
      file.findMutation operationId = some old ∧ Marks now old new ∧
        resultCall request now operationId disk =
          .ok (new, some (file.setMutation operationId new))) ∨
    (¬ Reachable request now file operationId ∧
      ∃ fault, resultCall request now operationId disk = .error fault) := by
  rw [resultCall_eq_updateMutation]
  cases hFound : file.findMutation operationId with
  | none =>
      refine Or.inr ⟨?_, .error (.mutationNotFound operationId), ?_⟩
      · intro hReachable
        obtain ⟨mutation, hSome, _⟩ := hReachable
        cases hFound.symm.trans hSome
      · simp only [updateMutation, hLoad, hFound]
  | some old =>
      cases hUpdate : resultUpdate request now old with
      | error fault =>
          refine Or.inr ⟨?_, fault, by simp only [updateMutation, hLoad, hFound, hUpdate]⟩
          intro hReachable
          obtain ⟨mutation, hSome, hAttempt⟩ := hReachable
          obtain rfl := Option.some.inj (hFound.symm.trans hSome)
          obtain ⟨updated, hOk⟩ := (resultUpdate_eq_ok_iff request now old).mpr hAttempt
          cases hUpdate.symm.trans hOk
      | ok updated =>
          have hMarks := resultUpdate_marks hUpdate
          refine Or.inl ⟨⟨old, hFound, ?_⟩, old, _, rfl, hMarks,
            updateMutation_of_found hLoad hFound hUpdate hMarks.revision⟩
          exact (resultUpdate_eq_ok_iff request now old).mp ⟨updated, hUpdate⟩

/-! A loop of calls. -/

/-- The file after a result was written for some operations. A mutation that is
Sending was not the first one of any of them. -/
structure Progress (now : DateTime) (original current : OfflineQueueFile) (done : List Uuid) :
    Prop where
  readable : ReadableQueue current
  others : ∀ mutation, mutation.operationId ∉ done →
    (mutation ∈ current.mutations ↔ mutation ∈ original.mutations)
  unwritten : ∀ operationId ∉ done,
    current.findMutation operationId = original.findMutation operationId
  written : ∀ operationId ∈ done, ∃ old new,
    original.findMutation operationId = some old ∧
      current.findMutation operationId = some new ∧ Marks now old new
  sending : ∀ mutation, mutation.status = .sending → (mutation ∈ current.mutations ↔
    mutation ∈ original.mutations ∧ (mutation.operationId ∈ done →
      original.findMutation mutation.operationId ≠ some mutation))

theorem Progress.start {file : OfflineQueueFile} (h : ReadableQueue file) (now : DateTime) :
    Progress now file file [] where
  readable := h
  others _ _ := Iff.rfl
  unwritten _ _ := rfl
  written _ hDone := by cases hDone
  sending mutation _ := by simp

theorem Marks.trans {now : DateTime} {old middle new : OfflineMutationEnvelope}
    (first : Marks now old middle) (second : Marks now middle new) : Marks now old new where
  revision := ⟨second.revision.identity.trans first.revision.identity,
    second.revision.validate.trans first.revision.validate⟩
  status := second.status
  stamped := second.stamped
  attempts := second.attempts.trans first.attempts
  maxAttempts := second.maxAttempts.trans first.maxAttempts
  retryDelay := second.retryDelay.trans first.retryDelay

/-- Whether an operation can be reached does not change on the way. -/
theorem Progress.reachable_iff {now : DateTime} {original current : OfflineQueueFile}
    {done : List Uuid} (h : Progress now original current done)
    (request : IosRetryResultRequest) (operationId : Uuid) :
    Reachable request now current operationId ↔ Reachable request now original operationId := by
  by_cases hDone : operationId ∈ done
  · obtain ⟨old, new, hOld, hNew, hMarks⟩ := h.written operationId hDone
    simp only [Reachable, hOld, hNew, Option.some.injEq, exists_eq_left', hMarks.attempts,
      hMarks.maxAttempts, hMarks.retryDelay]
  · rw [Reachable, Reachable, h.unwritten operationId hDone]

/-- One more operation is written. -/
theorem Progress.next {now : DateTime} {original current : OfflineQueueFile} {done : List Uuid}
    (h : Progress now original current done) {operationId : Uuid}
    {old new : OfflineMutationEnvelope} (hFound : current.findMutation operationId = some old)
    (hMarks : Marks now old new) :
    Progress now original (current.setMutation operationId new) (done ++ [operationId]) := by
  have hOldId := QueueCall.operationId_of_findMutation hFound
  have hNewId : new.operationId = operationId :=
    (operationId_of_identity hMarks.revision.identity).trans hOldId
  have hMem := fun mutation => @ReadableQueue.mem_setMutation _ h.readable _ _ new mutation hFound
  refine ⟨h.readable.setMutation hFound hMarks.revision, ?_, ?_, ?_, ?_⟩
  · intro mutation hOther
    rw [List.mem_append, List.mem_singleton, not_or] at hOther
    rw [hMem, ← h.others mutation hOther.1]
    have hNotNew : mutation ≠ new := fun hSame => hOther.2 (hSame ▸ hNewId)
    have hNotOld : mutation ≠ old := fun hSame => hOther.2 (hSame ▸ hOldId)
    simp [hNotNew, hNotOld]
  · intro other hOther
    rw [List.mem_append, List.mem_singleton, not_or] at hOther
    rw [findMutation_setMutation hFound hNewId, if_neg hOther.2]
    exact h.unwritten other hOther.1
  · intro other hOther
    rw [findMutation_setMutation hFound hNewId]
    by_cases hSame : other = operationId
    · rw [if_pos hSame, hSame]
      by_cases hDone : operationId ∈ done
      · obtain ⟨first, middle, hFirst, hMiddle, hEarlier⟩ := h.written operationId hDone
        obtain rfl := Option.some.inj (hMiddle.symm.trans hFound)
        exact ⟨first, new, hFirst, rfl, hEarlier.trans hMarks⟩
      · rw [h.unwritten operationId hDone] at hFound
        exact ⟨old, new, hFound, rfl, hMarks⟩
    · rw [if_neg hSame]
      exact h.written other ((List.mem_append.mp hOther).resolve_right
        fun hLast => hSame (List.mem_singleton.mp hLast))
  · intro mutation hSending
    rw [hMem, h.sending mutation hSending, List.mem_append, List.mem_singleton]
    have hNotNew : mutation ≠ new := fun hSame => hMarks.status (hSame ▸ hSending)
    by_cases hDone : operationId ∈ done
    · -- The mutation written again was not Sending any more.
      obtain ⟨_, middle, _, hMiddle, hEarlier⟩ := h.written operationId hDone
      obtain rfl := Option.some.inj (hMiddle.symm.trans hFound)
      have hNotOld : mutation ≠ middle := fun hSame => hEarlier.status (hSame ▸ hSending)
      have hAlso : mutation.operationId = operationId → mutation.operationId ∈ done :=
        fun hSame => hSame ▸ hDone
      simp only [hNotNew, hNotOld, false_or, ne_eq, not_false_eq_true, and_true]
      grind
    · rw [h.unwritten operationId hDone] at hFound
      have hOld : mutation = old ↔ mutation.operationId = operationId ∧
          original.findMutation mutation.operationId = some mutation := by
        constructor
        · rintro rfl
          exact ⟨hOldId, hOldId ▸ hFound⟩
        · intro hFirst
          rw [hFirst.1, hFound] at hFirst
          exact (Option.some.inj hFirst.2).symm
      simp only [hNotNew, false_or, ne_eq, hOld]
      grind

/-- The queue file is gone, or shows a mutation stamped now. -/
def Touched (now : DateTime) (disk : QueueDisk) : Prop :=
  disk.file = none ∨ ∃ file, disk.file = some (.document file) ∧
    ∃ mutation ∈ file.mutations, mutation.updatedAt = now

theorem Touched.of_file {now : DateTime} {disk later : QueueDisk} (h : Touched now disk)
    (hSame : later.file = disk.file) : Touched now later := by
  unfold Touched at h ⊢
  rw [hSame]
  exact h

/-- A file without the stamp is not touched, if it shows any mutation. -/
theorem not_touched {now : DateTime} {disk : QueueDisk} {file : OfflineQueueFile}
    (hLoad : loadFile disk = .ok file) (hClock : ∀ mutation ∈ file.mutations,
      mutation.updatedAt ≠ now) {mutation : OfflineMutationEnvelope}
    (hMem : mutation ∈ file.mutations) : ¬ Touched now disk := by
  obtain ⟨stored, hContents, _, rfl⟩ := loadFile_eq_ok_iff.mp hLoad
  intro hTouched
  rcases hTouched with hNone | ⟨shown, hShown, stamped, hStamped, hNow⟩
  · rw [Disk.contents, hNone] at hContents
    obtain rfl := Option.some.inj hContents
    rw [OfflineQueueFile.mem_sorted] at hMem
    cases hMem
  · rw [Disk.contents, hShown] at hContents
    obtain rfl := Option.some.inj hContents
    exact hClock stamped ((shown.mem_sorted stamped).mpr hStamped) hNow

theorem queueCall_of_error {α : Type} {call : QueueDisk → QueueOutcome α} {disk : QueueDisk}
    {fault : Fault OfflineQueueError} (h : call disk = .error fault) (cut : Option Cut) :
    Ensures (queueCall call cut) disk fun later outcome =>
      later = disk ∧ ∃ error, outcome = .error error := by
  unfold Ensures queueCall
  rw [execute_ofFunction, h]
  cases fault with
  | error error => exact ⟨rfl, _, rfl⟩
  | panic => exact ⟨rfl, _, rfl⟩

theorem queueCall_of_saved {α : Type} {call : QueueDisk → QueueOutcome α} {disk : QueueDisk}
    {value : α} {file : OfflineQueueFile} (h : call disk = .ok (value, some file))
    (cut : Option Cut) :
    Ensures (queueCall call cut) disk fun later outcome =>
      later = disk.replace file cut ∧
        (cut = none ∧ outcome = .ok value ∨
          cut ≠ none ∧ ∃ error, outcome = .error error) := by
  unfold Ensures queueCall
  rw [execute_ofFunction, h]
  cases cut with
  | none => exact ⟨rfl, Or.inl ⟨rfl, rfl⟩⟩
  | some cut => exact ⟨rfl, Or.inr ⟨nofun, _, rfl⟩⟩

/-- The first of the operations is refused, or its save leaves the file as it
was. -/
def Stops (request : IosRetryResultRequest) (now : DateTime) (cuts : Nat → Option Cut)
    (disk : QueueDisk) (file : OfflineQueueFile) (rest : List Uuid) : Prop :=
  ∀ first ∈ rest.head?, Reachable request now file first →
    ∃ cut, cuts 0 = some cut ∧ KeepsFile disk cut

/-- Every operation can be reached and saved. -/
def Completes (request : IosRetryResultRequest) (now : DateTime) (cuts : Nat → Option Cut)
    (file : OfflineQueueFile) (rest : List Uuid) : Prop :=
  (∀ operationId ∈ rest, Reachable request now file operationId) ∧
    ∀ save < rest.length, cuts save = none

theorem completes_cons {request : IosRetryResultRequest} {now : DateTime}
    {cuts : Nat → Option Cut} {file : OfflineQueueFile} {operationId : Uuid} {rest : List Uuid} :
    Completes request now cuts file (operationId :: rest) ↔
      Reachable request now file operationId ∧ cuts 0 = none ∧
        Completes request now (fun save => cuts (save + 1)) file rest := by
  simp only [Completes, List.forall_mem_cons, List.length_cons, Nat.forall_lt_succ_left]
  grind

/-- A save that is cut off leaves the file as it was, or leaves none. -/
theorem file_of_cut (now : DateTime) (disk : QueueDisk) (file : OfflineQueueFile) (cut : Cut) :
    (KeepsFile disk cut ∧ (disk.replace file (some cut)).file = disk.file) ∨
      (¬ KeepsFile disk cut ∧ Touched now (disk.replace file (some cut))) := by
  by_cases hRemoved : cut = .oldRemoved
  · subst hRemoved
    by_cases hNone : disk.file = none
    · exact Or.inl ⟨fun _ => hNone, hNone.symm⟩
    · exact Or.inr ⟨fun hKeeps => hNone (hKeeps rfl), Or.inl rfl⟩
  · exact Or.inl ⟨fun hCut => absurd hCut hRemoved, disk.file_replace_of_cut file hRemoved⟩

/-- The loop writes all its operations, or stops before it has written any, or
leaves its stamp. -/
theorem callEach_cases (request : IosRetryResultRequest) {now : DateTime}
    {original : OfflineQueueFile} (rest : List Uuid) :
    ∀ {disk : QueueDisk} {current : OfflineQueueFile} {done : List Uuid} (cuts : Nat → Option Cut),
      loadFile disk = .ok current → Progress now original current done →
      Ensures (callEach (resultCall request now) cuts rest) disk fun later outcome =>
        (Completes request now cuts original rest ∧ outcome = .ok () ∧
          ∃ file, loadFile later = .ok file ∧ Progress now original file (done ++ rest)) ∨
        (¬ Completes request now cuts original rest ∧ (∃ fault, outcome = .error fault) ∧
          ((Stops request now cuts disk original rest ∧ later.file = disk.file) ∨
            (¬ Stops request now cuts disk original rest ∧ Touched now later))) := by
  induction rest with
  | nil =>
      intro disk current done cuts hLoad hProgress
      refine Ensures.pure (Or.inl ⟨⟨by simp, by simp⟩, rfl, current, hLoad, ?_⟩)
      rw [List.append_nil]
      exact hProgress
  | cons operationId rest ih =>
      intro disk current done cuts hLoad hProgress
      unfold callEach
      have hSame := hProgress.reachable_iff request operationId
      have hStops : Stops request now cuts disk original (operationId :: rest) ↔
          (Reachable request now original operationId →
            ∃ cut, cuts 0 = some cut ∧ KeepsFile disk cut) := by
        simp [Stops]
      rw [completes_cons, hStops]
      rcases resultCall_cases request now hLoad operationId with hWritten | hRefused
      · obtain ⟨hReachable, old, new, hFound, hMarks, hCall⟩ := hWritten
        have hNext := hProgress.next hFound hMarks
        have hNew : new ∈ (current.setMutation operationId new).mutations :=
          (hProgress.readable.mem_setMutation hFound).mpr (Or.inl rfl)
        refine (queueCall_of_saved hCall (cuts 0)).bind ?_ ?_
        · intro later error hLater
          obtain ⟨rfl, hCut⟩ := hLater
          cases hFirst : cuts 0 with
          | none => simp [hFirst] at hCut
          | some cut =>
              refine Or.inr ⟨(fun hAll => by cases hAll.2.1), ⟨error, rfl⟩, ?_⟩
              rcases file_of_cut now disk (current.setMutation operationId new) cut with
                ⟨hKeeps, hFile⟩ | ⟨hLost, hTouched⟩
              · exact Or.inl ⟨fun _ => ⟨cut, rfl, hKeeps⟩, hFile⟩
              · refine Or.inr ⟨fun hStop => hLost ?_, hTouched⟩
                obtain ⟨other, hOther, hKeeps⟩ := hStop (hSame.mp hReachable)
                rw [Option.some.inj hOther]
                exact hKeeps
        · intro later value hLater
          obtain ⟨rfl, hCut⟩ := hLater
          cases hFirst : cuts 0 with
          | some cut => simp [hFirst] at hCut
          | none =>
              refine (ih (fun save => cuts (save + 1)) (hNext.readable.loadFile_replace disk)
                hNext).mono ?_
              intro later outcome hLater
              have hTouched : Touched now
                  (disk.replace (current.setMutation operationId new) none) :=
                Or.inr ⟨_, rfl, new, hNew, hMarks.stamped⟩
              rcases hLater with ⟨hDone, hOutcome, file, hFile, hLast⟩ | ⟨hNot, hError, hEnd⟩
              · refine Or.inl ⟨⟨hSame.mp hReachable, rfl, hDone⟩, hOutcome, file, hFile, ?_⟩
                rw [List.append_cons]
                exact hLast
              · refine Or.inr ⟨fun hAll => hNot hAll.2.2, hError, Or.inr ⟨?_, ?_⟩⟩
                · intro hStop
                  obtain ⟨cut, hSome, _⟩ := hStop (hSame.mp hReachable)
                  cases hSome
                · rcases hEnd with ⟨_, hKept⟩ | ⟨_, hLater⟩
                  · exact hTouched.of_file hKept
                  · exact hLater
      · obtain ⟨hNot, fault, hCall⟩ := hRefused
        have hUnreached := mt hSame.mpr hNot
        refine (queueCall_of_error hCall (cuts 0)).bind ?_ ?_
        · intro later error hLater
          obtain ⟨rfl, _⟩ := hLater
          exact Or.inr ⟨fun hAll => hUnreached hAll.1, ⟨error, rfl⟩,
            Or.inl ⟨fun hReached => absurd hReached hUnreached, rfl⟩⟩
        · intro later value hLater
          obtain ⟨_, error, hError⟩ := hLater
          cases hError

/-! The whole command. -/

/-- An error that leaves the file as it was does what the request names. -/
theorem applies_of_file {request : IosRetryResultRequest} {disk later : QueueDisk}
    (hFile : later.file = disk.file) (fault : BridgeFault) :
    AppliesAsNamed request disk later (.error fault) := by
  have hSame : ∀ {before after : OfflineQueueFile}, loadFile disk = .ok before →
      loadFile later = .ok after → after = before := by
    intro before after hBefore hAfter
    rw [loadFile, Disk.contents_of_file hFile] at hAfter
    exact Except.ok.inj (hAfter.symm.trans hBefore)
  refine ⟨?_, ?_, ?_, fun _ _ => hFile⟩
  · intro before after hBefore hAfter
    rw [hSame hBefore hAfter]
  · intro reply after hOk
    cases hOk
  · intro _ before after hBefore hAfter
    rw [hSame hBefore hAfter]

theorem Progress.named {now : DateTime} {original current : OfflineQueueFile} {done : List Uuid}
    (h : Progress now original current done) (hReadable : ReadableQueue original) :
    (current.mutations.filter fun mutation => mutation.operationId ∉ done).Perm
      (original.mutations.filter fun mutation => mutation.operationId ∉ done) := by
  refine (List.perm_ext_iff_of_nodup (h.readable.nodup.filter _)
    (hReadable.nodup.filter _)).mpr ?_
  intro mutation
  simp only [List.mem_filter, decide_eq_true_eq]
  constructor
  · intro hMem
    exact ⟨(h.others mutation hMem.2).mp hMem.1, hMem.2⟩
  · intro hMem
    exact ⟨(h.others mutation hMem.2).mpr hMem.1, hMem.2⟩

/-- The command answers what applying the result has come to, and reads the
file once more. -/
theorem retryResult_of_applyResult {request : IosRetryResultRequest} {now : DateTime}
    {cuts : Nat → Option Cut} {disk : QueueDisk} {R : QueueDisk → Except BridgeFault Nat → Prop}
    (hIds : request.operationIds ≠ []) (hApply : Ensures (applyResult request now cuts) disk R) :
    Ensures (syncOfflineQueueRetryResult request now cuts) disk fun later outcome =>
      (∃ fault, outcome = .error fault ∧ R later (.error fault)) ∨
        (∃ count, R later (.ok count)) ∧
          ∀ after, loadFile later = .ok after → ∃ reply, outcome = .ok reply := by
  unfold syncOfflineQueueRetryResult
  rw [if_neg hIds]
  refine hApply.bind ?_ ?_
  · intro later error hLater
    exact Or.inl ⟨error, rfl, hLater⟩
  · intro later count hLater
    refine Ensures.bind (R := fun last outcome => last = later ∧
      ∀ after, loadFile later = .ok after → ∃ reply, outcome = .ok reply) ?_ ?_ ?_
    · unfold Ensures queueCall JsonOfflineMutationQueue.loadSnapshot
      rw [execute_ofFunction]
      dsimp only
      cases hLoad : loadFile later with
      | error fault =>
          cases fault with
          | error error => exact ⟨rfl, fun after hAfter => by cases hAfter⟩
          | panic => exact ⟨rfl, fun after hAfter => by cases hAfter⟩
      | ok file => exact ⟨rfl, fun after _ => ⟨_, rfl⟩⟩
    · intro last error hLast
      obtain ⟨rfl, hOk⟩ := hLast
      refine Or.inr ⟨⟨count, hLater⟩, fun after hAfter => ?_⟩
      obtain ⟨reply, hReply⟩ := hOk after hAfter
      cases hReply
    · intro last snapshot hLast
      obtain ⟨rfl, _⟩ := hLast
      exact Ensures.pure (Or.inr ⟨⟨count, hLater⟩, fun after _ => ⟨_, rfl⟩⟩)

/-- What a result other than an accepted one comes to. -/
theorem retryResult_of_loop {request : IosRetryResultRequest} {now : DateTime}
    {cuts : Nat → Option Cut} {disk : QueueDisk} {file : OfflineQueueFile}
    (hIds : request.operationIds ≠ []) (hResult : request.result ≠ .accepted)
    (hLoad : loadFile disk = .ok file) :
    Ensures (syncOfflineQueueRetryResult request now cuts) disk fun later outcome =>
      (Completes request now cuts file request.operationIds ∧ (∃ reply, outcome = .ok reply) ∧
        ∃ after, loadFile later = .ok after ∧
          Progress now file after request.operationIds) ∨
      (¬ Completes request now cuts file request.operationIds ∧
        (∃ fault, outcome = .error fault) ∧
        ((StopsAtFirst request now cuts disk file ∧ later.file = disk.file) ∨
          (¬ StopsAtFirst request now cuts disk file ∧ Touched now later))) := by
  have hLoop := callEach_cases request request.operationIds cuts hLoad
    (Progress.start (readableQueue_of_loadFile hLoad) now)
  rw [List.nil_append] at hLoop
  have hApply : Ensures (applyResult request now cuts) disk fun later outcome =>
      (Completes request now cuts file request.operationIds ∧ (∃ count, outcome = .ok count) ∧
        ∃ after, loadFile later = .ok after ∧
          Progress now file after request.operationIds) ∨
      (¬ Completes request now cuts file request.operationIds ∧
        (∃ fault, outcome = .error fault) ∧
        ((StopsAtFirst request now cuts disk file ∧ later.file = disk.file) ∨
          (¬ StopsAtFirst request now cuts disk file ∧ Touched now later))) := by
    unfold applyResult
    rw [if_neg hResult]
    refine hLoop.bind ?_ ?_
    · intro later error hLater
      rcases hLater with ⟨_, hOk, _⟩ | hFailed
      · cases hOk
      · exact Or.inr ⟨hFailed.1, ⟨error, rfl⟩, hFailed.2.2⟩
    · intro later value hLater
      rcases hLater with ⟨hDone, _, hAfter⟩ | ⟨_, ⟨fault, hFault⟩, _⟩
      · exact Ensures.pure (Or.inl ⟨hDone, ⟨0, rfl⟩, hAfter⟩)
      · cases hFault
  refine (retryResult_of_applyResult hIds hApply).mono ?_
  intro later outcome hLater
  rcases hLater with ⟨fault, rfl, hEnd⟩ | ⟨⟨count, hEnd⟩, hReply⟩
  · rcases hEnd with ⟨_, ⟨count, hOk⟩, _⟩ | hFailed
    · cases hOk
    · exact Or.inr ⟨hFailed.1, ⟨fault, rfl⟩, hFailed.2.2⟩
  · rcases hEnd with ⟨hDone, _, after, hAfter, hProgress⟩ | ⟨_, ⟨fault, hFault⟩, _⟩
    · exact Or.inl ⟨hDone, hReply after hAfter, after, hAfter, hProgress⟩
    · cases hFault

theorem not_stopsAtFirst {request : IosRetryResultRequest} {now : DateTime}
    {cuts : Nat → Option Cut} {disk : QueueDisk} {file : OfflineQueueFile}
    (hIds : request.operationIds ≠ [])
    (h : Completes request now cuts file request.operationIds) :
    ¬ StopsAtFirst request now cuts disk file := by
  intro hStops
  obtain ⟨first, rest, hList⟩ := List.exists_cons_of_ne_nil hIds
  have hFirst : first ∈ request.operationIds.head? := by simp [hList]
  have hLength : 0 < request.operationIds.length := List.length_pos_of_ne_nil hIds
  obtain ⟨cut, hCut, _⟩ := hStops first hFirst (h.1 first (List.mem_of_mem_head? hFirst))
  rw [h.2 0 hLength] at hCut
  cases hCut

/-- An operation that the loop reaches first is in the file. -/
theorem exists_mem_of_not_stops {request : IosRetryResultRequest} {now : DateTime}
    {cuts : Nat → Option Cut} {disk : QueueDisk} {file : OfflineQueueFile}
    (h : ¬ StopsAtFirst request now cuts disk file) : ∃ mutation, mutation ∈ file.mutations := by
  by_contra hNone
  refine h fun first _ hReachable => ?_
  obtain ⟨mutation, hFound, _⟩ := hReachable
  exact absurd ⟨mutation, List.mem_of_find?_eq_some hFound⟩ hNone

theorem applies_of_loop {request : IosRetryResultRequest} {now : DateTime}
    {cuts : Nat → Option Cut} {disk : QueueDisk} {file : OfflineQueueFile}
    (hIds : request.operationIds ≠ []) (hResult : request.result ≠ .accepted)
    (hLoad : loadFile disk = .ok file)
    (h : CoversOperations request now cuts file ∨ StopsAtFirst request now cuts disk file) :
    Ensures (syncOfflineQueueRetryResult request now cuts) disk
      (AppliesAsNamed request disk) := by
  refine (retryResult_of_loop hIds hResult hLoad).mono ?_
  intro later outcome hLater
  rcases hLater with ⟨hDone, ⟨reply, rfl⟩, after, hAfter, hProgress⟩ | ⟨hNot, ⟨fault, rfl⟩, hEnd⟩
  · have hCovers := h.resolve_right (not_stopsAtFirst hIds hDone)
    refine ⟨?_, ?_, fun hAccepted => absurd hAccepted hResult, fun _ hError => by cases hError⟩
    · intro before shown hBefore hShown
      obtain rfl := Except.ok.inj (hLoad.symm.trans hBefore)
      obtain rfl := Except.ok.inj (hAfter.symm.trans hShown)
      exact hProgress.named (readableQueue_of_loadFile hLoad)
    · intro _ shown _ hShown mutation hMem hNamed hSending
      obtain rfl := Except.ok.inj (hAfter.symm.trans hShown)
      obtain ⟨hOriginal, hHidden⟩ := (hProgress.sending mutation hSending).mp hMem
      exact hHidden hNamed (hCovers.2.2 mutation hOriginal hNamed hSending)
  · rcases hEnd with ⟨_, hFile⟩ | ⟨hStops, _⟩
    · exact applies_of_file hFile fault
    · have hCovers := h.resolve_right hStops
      exact absurd ⟨hCovers.1, hCovers.2.1⟩ hNot

theorem covers_of_loop {request : IosRetryResultRequest} {now : DateTime}
    {cuts : Nat → Option Cut} {disk : QueueDisk} {file : OfflineQueueFile}
    (hIds : request.operationIds ≠ []) (hResult : request.result ≠ .accepted)
    (hLoad : loadFile disk = .ok file)
    (hClock : ∀ mutation ∈ file.mutations, mutation.updatedAt ≠ now)
    (h : Ensures (syncOfflineQueueRetryResult request now cuts) disk
      (AppliesAsNamed request disk)) :
    CoversOperations request now cuts file ∨ StopsAtFirst request now cuts disk file := by
  have hCases := @retryResult_of_loop request now cuts disk file hIds hResult hLoad
  unfold Ensures at h hCases
  rcases hCases with ⟨hDone, ⟨reply, hReply⟩, after, hAfter, hProgress⟩ |
    ⟨_, ⟨fault, hFault⟩, hEnd⟩
  · refine Or.inl ⟨hDone.1, hDone.2, ?_⟩
    intro mutation hMem hNamed hSending
    by_contra hHidden
    have hLeft := (hProgress.sending mutation hSending).mpr ⟨hMem, fun _ => hHidden⟩
    exact h.settled reply after hReply hAfter mutation hLeft hNamed hSending
  · rcases hEnd with ⟨hStops, _⟩ | ⟨hStops, hTouched⟩
    · exact Or.inr hStops
    · obtain ⟨mutation, hMem⟩ := exists_mem_of_not_stops hStops
      have hFile := h.refused fault hFault
      exact absurd (hTouched.of_file hFile.symm) (not_touched hLoad hClock hMem)

/-! Accepted results. -/

/-- The mutation as an accepted result leaves it. -/
def acceptedMutation (request : IosRetryResultRequest) (now : DateTime)
    (mutation : OfflineMutationEnvelope) : OfflineMutationEnvelope :=
  if acceptedByHash request.acceptedEventHashes mutation then
    { mutation with
      status := .accepted, acceptedAt := some now, updatedAt := now,
      nextAttemptAt := none, failureReason := none, lastErrorCode := none }
  else mutation

theorem revision_acceptedMutation (request : IosRetryResultRequest) (now : DateTime)
    (mutation : OfflineMutationEnvelope) :
    Revision mutation (acceptedMutation request now mutation) := by
  unfold acceptedMutation
  split
  · exact ⟨rfl, rfl⟩
  · exact ⟨rfl, rfl⟩

/-- The file as an accepted result leaves it. -/
def acceptedFile (request : IosRetryResultRequest) (now : DateTime) (file : OfflineQueueFile) :
    OfflineQueueFile :=
  OfflineQueueFile.sorted
    { file with mutations := file.mutations.map (acceptedMutation request now) }

theorem ReadableQueue.acceptedFile {file : OfflineQueueFile} (h : ReadableQueue file)
    (request : IosRetryResultRequest) (now : DateTime) :
    ReadableQueue (acceptedFile request now file) := by
  obtain ⟨hVersion, hValid, hKeys⟩ := file.validate_eq_ok_iff.mp h.valid
  refine ⟨OfflineQueueFile.sorted_sorted _, (OfflineQueueFile.validate_sorted _).mpr
    ((OfflineQueueFile.validate_eq_ok_iff _).mpr ⟨hVersion, ?_, ?_⟩)⟩
  · intro mutation hMem
    obtain ⟨old, hOld, rfl⟩ := List.mem_map.mp hMem
    rw [(revision_acceptedMutation request now old).validate]
    exact hValid old hOld
  · have hSame : (file.mutations.map (acceptedMutation request now)).map
        OfflineMutationEnvelope.sequenceKey =
        file.mutations.map OfflineMutationEnvelope.sequenceKey := by
      rw [List.map_map]
      refine List.map_congr_left fun old _ => ?_
      exact OfflineMutationEnvelope.sequenceKey_of_identity
        (revision_acceptedMutation request now old).identity
    rw [hSame]
    exact hKeys

theorem markAcceptedByEventHashes_eq {request : IosRetryResultRequest} {now : DateTime}
    {disk : QueueDisk} {file : OfflineQueueFile} (hLoad : loadFile disk = .ok file) :
    markAcceptedByEventHashes disk request.acceptedEventHashes now =
      .ok (file.mutations.countP (acceptedByHash request.acceptedEventHashes),
        some (acceptedFile request now file)) := by
  have hValid := ((readableQueue_of_loadFile hLoad).acceptedFile request now).valid
  unfold acceptedFile at hValid ⊢
  unfold acceptedMutation at hValid ⊢
  rw [markAcceptedByEventHashes, hLoad]
  simp only [saveFile, hValid]

/-- What an accepted result comes to, once it has hashes. -/
theorem retryResult_of_hashes {request : IosRetryResultRequest} (now : DateTime)
    {cuts : Nat → Option Cut} {disk : QueueDisk} {file : OfflineQueueFile}
    (hIds : request.operationIds ≠ []) (hResult : request.result = .accepted)
    (hHashes : request.acceptedEventHashes ≠ []) (hLoad : loadFile disk = .ok file) :
    Ensures (syncOfflineQueueRetryResult request now cuts) disk fun later outcome =>
      (cuts 0 = none ∧ (∃ reply, outcome = .ok reply) ∧
        loadFile later = .ok (acceptedFile request now file)) ∨
      ∃ cut fault, cuts 0 = some cut ∧ outcome = .error fault ∧
        (KeepsFile disk cut ↔ later.file = disk.file) := by
  have hReadable := (readableQueue_of_loadFile hLoad).acceptedFile request now
  have hApply : Ensures (applyResult request now cuts) disk fun later outcome =>
      later = disk.replace (acceptedFile request now file) (cuts 0) ∧
        (cuts 0 = none ∧ (∃ count, outcome = .ok count) ∨
          cuts 0 ≠ none ∧ ∃ error, outcome = .error error) := by
    unfold applyResult
    rw [if_pos hResult, if_neg hHashes]
    refine (queueCall_of_saved (markAcceptedByEventHashes_eq hLoad) (cuts 0)).mono ?_
    intro later outcome hLater
    rcases hLater with ⟨hFile, ⟨hNone, hOk⟩ | hFailed⟩
    · exact ⟨hFile, Or.inl ⟨hNone, _, hOk⟩⟩
    · exact ⟨hFile, Or.inr hFailed⟩
  refine (retryResult_of_applyResult hIds hApply).mono ?_
  intro later outcome hLater
  rcases hLater with ⟨fault, hOutcome, rfl, hEnd⟩ | ⟨⟨count, rfl, hEnd⟩, hReply⟩
  · rcases hEnd with ⟨_, count, hOk⟩ | ⟨hSome, _⟩
    · cases hOk
    · obtain ⟨cut, hCut⟩ := Option.ne_none_iff_exists'.mp hSome
      refine Or.inr ⟨cut, fault, hCut, hOutcome, ?_⟩
      rw [hCut]
      by_cases hRemoved : cut = .oldRemoved
      · subst hRemoved
        exact ⟨fun hKeeps => (hKeeps rfl).symm, fun hFile _ => hFile.symm⟩
      · exact ⟨fun _ => disk.file_replace_of_cut _ hRemoved,
          fun _ hCut => absurd hCut hRemoved⟩
  · rcases hEnd with ⟨hNone, _⟩ | ⟨_, error, hError⟩
    · rw [hNone] at hReply ⊢
      have hAfter := hReadable.loadFile_replace disk
      exact Or.inl ⟨rfl, hReply _ hAfter, hAfter⟩
    · cases hError

/-- The mutations of a kind stay as they are exactly if the result accepts none
of them. -/
theorem acceptedFile_keeps_iff {file : OfflineQueueFile} (hReadable : ReadableQueue file)
    (request : IosRetryResultRequest) (now : DateTime) (kind : OfflineMutationEnvelope → Bool)
    (hKind : ∀ mutation, kind (acceptedMutation request now mutation) = kind mutation) :
    ((acceptedFile request now file).mutations.filter kind).Perm (file.mutations.filter kind) ↔
      ∀ mutation ∈ file.mutations,
        acceptedByHash request.acceptedEventHashes mutation = true → kind mutation = false := by
  have hSorted : ((acceptedFile request now file).mutations.filter kind).Perm
      ((file.mutations.map (acceptedMutation request now)).filter kind) :=
    (OfflineQueueFile.perm_sorted _).filter kind
  constructor
  · intro hPerm mutation hMem hAccepted
    by_contra hIs
    rw [Bool.not_eq_false] at hIs
    have hChanged : acceptedMutation request now mutation ∈ file.mutations.filter kind := by
      refine (hSorted.symm.trans hPerm).mem_iff.mp (List.mem_filter.mpr ⟨?_, ?_⟩)
      · exact List.mem_map_of_mem hMem
      · rw [hKind]
        exact hIs
    have hSame := List.inj_on_of_nodup_map hReadable.keys (List.mem_filter.mp hChanged).1 hMem
      (OfflineMutationEnvelope.sequenceKey_of_identity
        (revision_acceptedMutation request now mutation).identity)
    have hStatus := congrArg OfflineMutationEnvelope.status hSame
    rw [acceptedMutation, if_pos hAccepted] at hStatus
    rw [acceptedByHash, Bool.and_eq_true, decide_eq_true_eq] at hAccepted
    exact hAccepted.2 hStatus.symm
  · intro hNone
    refine hSorted.trans ?_
    have hFilter : (file.mutations.map (acceptedMutation request now)).filter kind =
        file.mutations.filter kind := by
      rw [List.filter_map]
      have hSame : kind ∘ acceptedMutation request now = kind := funext hKind
      rw [hSame]
      refine (List.map_congr_left fun mutation hMem => ?_).trans (List.map_id _)
      obtain ⟨hFile, hIs⟩ := List.mem_filter.mp hMem
      rw [acceptedMutation, if_neg]
      · rfl
      · intro hAccepted
        rw [hNone mutation hFile hAccepted] at hIs
        cases hIs
    rw [hFilter]

theorem applies_iff_of_hashes {request : IosRetryResultRequest} (now : DateTime)
    {cuts : Nat → Option Cut} {disk : QueueDisk} {file : OfflineQueueFile}
    (hIds : request.operationIds ≠ []) (hResult : request.result = .accepted)
    (hHashes : request.acceptedEventHashes ≠ []) (hLoad : loadFile disk = .ok file) :
    Ensures (syncOfflineQueueRetryResult request now cuts) disk (AppliesAsNamed request disk) ↔
      match cuts 0 with
      | none => CoversHashes request file
      | some cut => KeepsFile disk cut := by
  have hReadable := readableQueue_of_loadFile hLoad
  have hCases := @retryResult_of_hashes request now cuts disk file hIds hResult hHashes hLoad
  have hNamed := acceptedFile_keeps_iff hReadable request now
    (fun mutation => mutation.operationId ∉ request.operationIds) (by
      intro mutation
      rw [operationId_of_identity
        (revision_acceptedMutation request now mutation).identity])
  have hLogbook := acceptedFile_keeps_iff hReadable request now
    (fun mutation => mutation.logbookId ≠ request.logbook) (by
      intro mutation
      unfold acceptedMutation
      split <;> rfl)
  unfold Ensures at hCases ⊢
  rcases hCases with ⟨hCut, ⟨reply, hReply⟩, hAfter⟩ | ⟨cut, fault, hCut, hFault, hFile⟩
  · rw [hCut]
    have hMem : ∀ mutation, mutation ∈ (acceptedFile request now file).mutations ↔
        ∃ old ∈ file.mutations, acceptedMutation request now old = mutation := by
      intro mutation
      unfold acceptedFile
      rw [OfflineQueueFile.mem_sorted, List.mem_map]
    constructor
    · intro h mutation hFile
      refine ⟨fun hAccepted => ⟨?_, ?_⟩, fun hIn hSending => ?_⟩
      · have hKept := hNamed.mp (h.named _ _ hLoad hAfter) mutation hFile hAccepted
        simpa using hKept
      · have hKept := hLogbook.mp (h.logbook hResult _ _ hLoad hAfter) mutation hFile hAccepted
        simpa using hKept
      · by_contra hAccepted
        have hKept : acceptedMutation request now mutation = mutation := by
          rw [acceptedMutation, if_neg hAccepted]
        exact h.settled reply _ hReply hAfter mutation
          ((hMem mutation).mpr ⟨mutation, hFile, hKept⟩) hIn hSending
    · intro h
      refine ⟨?_, ?_, ?_, ?_⟩
      · intro before after hBefore hShown
        obtain rfl := Except.ok.inj (hLoad.symm.trans hBefore)
        obtain rfl := Except.ok.inj (hAfter.symm.trans hShown)
        refine hNamed.mpr fun mutation hFile hAccepted => ?_
        simpa using ((h mutation hFile).1 hAccepted).1
      · intro _ after _ hShown mutation hShows hIn hSending
        obtain rfl := Except.ok.inj (hAfter.symm.trans hShown)
        obtain ⟨old, hOld, rfl⟩ := (hMem mutation).mp hShows
        by_cases hAccepted : acceptedByHash request.acceptedEventHashes old = true
        · rw [acceptedMutation, if_pos hAccepted] at hSending
          cases hSending
        · rw [acceptedMutation, if_neg hAccepted] at hIn hSending
          exact hAccepted ((h old hOld).2 hIn hSending)
      · intro _ before after hBefore hShown
        obtain rfl := Except.ok.inj (hLoad.symm.trans hBefore)
        obtain rfl := Except.ok.inj (hAfter.symm.trans hShown)
        refine hLogbook.mpr fun mutation hFile hAccepted => ?_
        simpa using ((h mutation hFile).1 hAccepted).2
      · intro fault hFault
        rw [hReply] at hFault
        cases hFault
  · rw [hCut]
    dsimp only
    rw [hFile, hFault]
    exact ⟨fun h => h.refused fault rfl, fun hSame => applies_of_file hSame fault⟩

/-- What fails at its first part, changing nothing, fails as a whole. -/
theorem refused_bind {α β : Type} {first : QueueProgram α} {disk : QueueDisk}
    (h : Ensures first disk fun later outcome =>
      later = disk ∧ ∃ fault, outcome = .error fault) (next : α → QueueProgram β) :
    Ensures (first >>= next) disk fun later outcome =>
      later = disk ∧ ∃ fault, outcome = .error fault := by
  refine h.bind ?_ ?_
  · intro later error hLater
    exact ⟨hLater.1, error, rfl⟩
  · intro later value hLater
    obtain ⟨_, fault, hFault⟩ := hLater
    cases hFault

/-- A request that changes nothing before it fails. -/
theorem applies_of_refused {request : IosRetryResultRequest} {now : DateTime}
    {cuts : Nat → Option Cut} {disk : QueueDisk}
    (h : request.operationIds = [] ∨
      (request.result = .accepted ∧ request.acceptedEventHashes = []) ∨
      ∃ fault, loadFile disk = .error fault) :
    Ensures (syncOfflineQueueRetryResult request now cuts) disk
      (AppliesAsNamed request disk) := by
  by_cases hIds : request.operationIds = []
  · unfold syncOfflineQueueRetryResult
    rw [if_pos hIds]
    exact Ensures.throw (applies_of_file rfl _)
  have hApply : Ensures (applyResult request now cuts) disk fun later outcome =>
      later = disk ∧ ∃ fault, outcome = .error fault := by
    rcases h with hNone | ⟨hAccepted, hHashes⟩ | ⟨fault, hLoad⟩
    · exact absurd hNone hIds
    · unfold applyResult
      rw [if_pos hAccepted, if_pos hHashes]
      exact Ensures.throw ⟨rfl, _, rfl⟩
    · unfold applyResult
      split
      · split
        · exact Ensures.throw ⟨rfl, _, rfl⟩
        · have hCall : markAcceptedByEventHashes disk request.acceptedEventHashes now =
              .error fault := by
            rw [markAcceptedByEventHashes, hLoad]
          exact queueCall_of_error hCall (cuts 0)
      · obtain ⟨first, rest, hList⟩ := List.exists_cons_of_ne_nil hIds
        rw [hList, callEach]
        have hCall : resultCall request now first disk = .error fault := by
          rw [resultCall_eq_updateMutation, updateMutation, hLoad]
        exact refused_bind (refused_bind (queueCall_of_error hCall (cuts 0)) _) _
  refine (retryResult_of_applyResult hIds hApply).mono ?_
  intro later outcome hLater
  rcases hLater with ⟨fault, rfl, rfl, _⟩ | ⟨⟨count, _, fault, hFault⟩, _⟩
  · exact applies_of_file rfl fault
  · cases hFault

/-- When a result changes what it names and nothing else, leaves none of it
Sending, and changes nothing where it is answered with an error. The condition
is needed unless a mutation of the file carries the very instant of the call. -/
theorem retryResult_applies (request : IosRetryResultRequest) (now : DateTime)
    (cuts : Nat → Option Cut) (disk : QueueDisk) :
    (Covers request now cuts disk →
      Ensures (syncOfflineQueueRetryResult request now cuts) disk
        (AppliesAsNamed request disk)) ∧
    ((∀ file, loadFile disk = .ok file →
        ∀ mutation ∈ file.mutations, mutation.updatedAt ≠ now) →
      Ensures (syncOfflineQueueRetryResult request now cuts) disk
        (AppliesAsNamed request disk) → Covers request now cuts disk) := by
  cases hLoad : loadFile disk with
  | error fault =>
      refine ⟨fun _ => applies_of_refused (Or.inr (Or.inr ⟨fault, hLoad⟩)), ?_⟩
      intro _ _ file hFile
      cases hLoad.symm.trans hFile
  | ok file =>
      have hOnly : Covers request now cuts disk ↔
          if request.result = .accepted then
            request.operationIds ≠ [] → request.acceptedEventHashes ≠ [] →
              match cuts 0 with
              | none => CoversHashes request file
              | some cut => KeepsFile disk cut
          else CoversOperations request now cuts file ∨
            StopsAtFirst request now cuts disk file := by
        refine ⟨fun h => h file hLoad, fun h other hOther => ?_⟩
        obtain rfl := Except.ok.inj (hLoad.symm.trans hOther)
        exact h
      rw [hOnly]
      by_cases hIds : request.operationIds = []
      · refine ⟨fun _ => applies_of_refused (Or.inl hIds), fun _ _ => ?_⟩
        split
        · exact fun hSome => absurd hIds hSome
        · refine Or.inr fun first hFirst => ?_
          rw [hIds] at hFirst
          cases hFirst
      by_cases hAccepted : request.result = .accepted
      · rw [if_pos hAccepted]
        by_cases hHashes : request.acceptedEventHashes = []
        · exact ⟨fun _ => applies_of_refused (Or.inr (Or.inl ⟨hAccepted, hHashes⟩)),
            fun _ _ _ hSome => absurd hHashes hSome⟩
        · have hIff :=
            @applies_iff_of_hashes request now cuts disk file hIds hAccepted hHashes hLoad
          exact ⟨fun h => hIff.mpr (h hIds hHashes), fun _ h _ _ => hIff.mp h⟩
      · rw [if_neg hAccepted]
        refine ⟨applies_of_loop hIds hAccepted hLoad, fun hClock h => ?_⟩
        exact covers_of_loop hIds hAccepted hLoad (hClock file rfl) h

section
open Crates

/-- A contact that a retry plan has marked for sending. -/
def sendingContact : OfflineMutationEnvelope :=
  { OfflineMutationEnvelope.new (sampleInput defaultLogbookId 7) 1 epoch 0 with
    status := .sending, attempts := 1, localEventHash := some "hash" }

def sendingFile : OfflineQueueFile where
  mutations := [sendingContact]

theorem loadFile_sendingFile : loadFile (Disk.holding sendingFile) = .ok sendingFile := rfl

/-- A transport failure that names the contact is applied as it is meant. -/
theorem retryResult_applies_failure :
    Ensures (syncOfflineQueueRetryResult { operationIds := [7], result := .transientFailure }
      epoch fun _ => none) (Disk.holding sendingFile)
      (AppliesAsNamed { operationIds := [7], result := .transientFailure }
        (Disk.holding sendingFile)) := by
  refine (retryResult_applies _ _ _ _).1 fun file hFile => ?_
  obtain rfl := Except.ok.inj (loadFile_sendingFile.symm.trans hFile)
  refine Or.inl ⟨?_, fun _ _ => rfl, ?_⟩
  · intro operationId hMem
    obtain rfl := List.mem_singleton.mp hMem
    exact ⟨sendingContact, by decide +kernel, fun _ _ => by decide +kernel⟩
  · intro mutation hMem _ _
    obtain rfl := List.mem_singleton.mp hMem
    decide +kernel

/-- A result that accepts another event than the one of the contact it names
succeeds, and leaves the contact Sending. -/
theorem accepted_result_leaves_sending :
    ¬ Ensures (syncOfflineQueueRetryResult
      { operationIds := [7], acceptedEventHashes := ["other"], result := .accepted }
      epoch fun _ => none) (Disk.holding sendingFile)
      (AppliesAsNamed
        { operationIds := [7], acceptedEventHashes := ["other"], result := .accepted }
        (Disk.holding sendingFile)) := by
  rw [applies_iff_of_hashes epoch (List.cons_ne_nil _ _) rfl (List.cons_ne_nil _ _)
    loadFile_sendingFile]
  intro hCovers
  have hAccepted := (hCovers sendingContact List.mem_cons_self).2 (by decide +kernel) rfl
  revert hAccepted
  decide +kernel

end

end HamLogger
