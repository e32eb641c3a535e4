import HamLogger.Sync.QueueEvolution

/-! Sequences and submissions of the queue. Nothing that was queued is
dropped, sequences are handed out in growing order, and what is submitted
again is answered with what is queued. -/
namespace HamLogger

open FileReplace (Content Cut Disk Plan Store)
open Transition (Run System)
open JsonOfflineMutationQueue

/-- The input can be queued: it has an operation type, no blank key and no
dependency that is not supported. -/
structure OfflineMutationInput.WellFormed (input : OfflineMutationInput) : Prop where
  operationType : trim input.operationType ≠ ""
  idempotencyKey : ∀ key, input.idempotencyKey = some key → trim key ≠ ""
  dependencies : OfflineMutationEnvelope.unsupportedDependency input.dependencies = none

/-- The logbook of the input has queued neither its operation nor its key. -/
def OfflineMutationInput.IsNew (input : OfflineMutationInput) (file : OfflineQueueFile) : Prop :=
  ∀ mutation ∈ file.mutations, mutation.logbookId = input.logbookId →
    input.operationId ≠ some mutation.operationId ∧
      input.idempotencyKey ≠ some mutation.idempotencyKey

/-- The call is not cut off where that shows in the queue file: between the
removal of the file and the renaming, or in a recovery after it has put a
temporary file in the place of the missing one. -/
structure LeavesFile (disk : QueueDisk) (label : QueueCall × Option Cut) : Prop where
  whole : label.2 = some .oldRemoved → disk.file = none
  unpromoted : label.1.recovers = true → label.2 ≠ none → label.2 ≠ some .notStarted →
    disk.file = none → ∀ file, disk.temp ≠ some (.document file)

/-- A queue file with distinct operations in each logbook and counters that
start above zero. -/
structure Counted (file : OfflineQueueFile) : Prop where
  distinct : DistinctBy OfflineMutationEnvelope.operationKey file
  counters : ∀ logbookId next,
    file.nextSequenceByLogbook.lookup logbookId = some next → next ≠ 0

theorem stable_counted : Stable Counted where
  empty := ⟨(stable_distinctBy _).empty, fun _ _ hNext => by cases hNext⟩
  sorted file h := ⟨(stable_distinctBy _).sorted file h.distinct, h.counters⟩
  valid _ h := h.distinct.valid

theorem max_ne_zero {left right : UInt64} (hLeft : left ≠ 0) (hRight : right ≠ 0) :
    max left right ≠ 0 := by
  rcases Std.MaxEqOr.max_eq_or left right with hMax | hMax
  · rw [hMax]
    exact hLeft
  · rw [hMax]
    exact hRight

theorem counted_of_saves [UuidCrate] {call : QueueCall} {base next : OfflineQueueFile}
    (hBase : Counted base)
    (hFresh : call.Fresh base) (hSaved : call.Saves base next)
    (hValid : next.validate = .ok ()) : Counted next := by
  refine ⟨⟨hValid, hSaved.nodup operationKey_of_identity hBase.distinct.nodup
    fun _ _ hAdds => hAdds.operationKey hFresh⟩, ?_⟩
  intro logbookId counter hLookup
  cases hSaved with
  | revised mutations h => exact hBase.counters logbookId counter hLookup
  | added mutation added h =>
      have hInserted : (base.nextSequenceByLogbook.insert mutation.logbookId added).lookup
          logbookId = some counter := hLookup
      rw [KeyMap.lookup_insert_eq_ite] at hInserted
      split at hInserted
      · obtain rfl := Option.some.inj hInserted
        cases call with
        | enqueueInput input now random =>
            obtain ⟨_, _, _, rfl⟩ := h
            exact saturatingSucc_ne_zero _
        | enqueue envelope =>
            obtain ⟨_, _, rfl⟩ := h
            have hNext : base.nextSequence envelope.logbookId ≠ 0 :=
              OfflineQueueFile.nextSequence_ne_zero (hBase.counters envelope.logbookId)
            exact max_ne_zero hNext (saturatingSucc_ne_zero _)
        | loadSnapshot | recordLocalEvent | markSending | recordTransientFailure | markBlocked
        | markFailed | markUserActionRequired | markAccepted | markAcceptedByEventHashes
        | recoverInterruptedWrites | recoverOrInitialize | readyToSend | readyEventBatch => cases h
      · exact hBase.counters logbookId counter hInserted

/-- Recovery changes nothing that the check looks at. -/
theorem validate_recovered {file : OfflineQueueFile} (h : file.validate = .ok ()) (now : DateTime) :
    (recoverInterruptedWritesInFile file now).1.sorted.validate = .ok () := by
  obtain ⟨hVersion, hAll, hNodup⟩ := (OfflineQueueFile.validate_eq_ok_iff file).mp h
  rw [OfflineQueueFile.validate_sorted, OfflineQueueFile.validate_eq_ok_iff]
  refine ⟨hVersion, ?_, ?_⟩
  · intro mutation hMem
    obtain ⟨old, hOld, rfl⟩ := List.mem_map.mp hMem
    split
    · exact hAll old hOld
    · exact hAll old hOld
  · have hKeys : (recoverInterruptedWritesInFile file now).1.mutations.map
        OfflineMutationEnvelope.sequenceKey =
          file.mutations.map OfflineMutationEnvelope.sequenceKey := by
      refine List.map_map.trans (List.map_congr_left fun old _ => ?_)
      show OfflineMutationEnvelope.sequenceKey (if old.status = .sending then _ else old) = _
      split <;> rfl
    rw [hKeys]
    exact hNodup

/-! The envelope of an input. -/

section Envelope
variable [UuidCrate] {input : OfflineMutationInput} {sequence : UInt64} {now : DateTime}
  {random : Uuid}

/-- The key that is made up for an input without one contains colons. -/
theorem trim_newKey (hKey : ∀ key, input.idempotencyKey = some key → trim key ≠ "") :
    trim (OfflineMutationEnvelope.new input sequence now random).idempotencyKey ≠ "" := by
  unfold OfflineMutationEnvelope.new
  cases hSome : input.idempotencyKey with
  | some key => exact hKey key hSome
  | none =>
      have hColon : isWhitespace ':' = false := by decide
      refine trim_ne_empty (c := ':') ?_ hColon
      simp

theorem validate_new (hInput : input.WellFormed) (hSequence : sequence ≠ 0) :
    (OfflineMutationEnvelope.new input sequence now random).validate = .ok () := by
  have hKey : trim (OfflineMutationEnvelope.new input sequence now random).idempotencyKey ≠ "" :=
    trim_newKey hInput.idempotencyKey
  have hType : trim (OfflineMutationEnvelope.new input sequence now random).operationType ≠ "" :=
    hInput.operationType
  have hDependencies : OfflineMutationEnvelope.unsupportedDependency
      (OfflineMutationEnvelope.new input sequence now random).dependencies = none :=
    hInput.dependencies
  have hNumber : (OfflineMutationEnvelope.new input sequence now random).sequence ≠ 0 := hSequence
  have hSchema : (OfflineMutationEnvelope.new input sequence now random).schemaVersion =
      offlineMutationSchemaVersion := rfl
  rw [OfflineMutationEnvelope.validate, if_neg (not_not.mpr hSchema), if_neg hType, if_neg hKey,
    if_neg hNumber, hDependencies]

end Envelope

/-- The check of a file with one more mutation. -/
theorem validate_withMutation {file : OfflineQueueFile} (hFile : file.validate = .ok ())
    {mutation : OfflineMutationEnvelope} (hMutation : mutation.validate = .ok ())
    (counter : UInt64) :
    (withMutation file mutation counter).validate = .ok () ↔
      ∀ old ∈ file.mutations, old.sequenceKey ≠ mutation.sequenceKey := by
  obtain ⟨hVersion, hAll, hNodup⟩ := (OfflineQueueFile.validate_eq_ok_iff file).mp hFile
  have hPerm := perm_withMutation file mutation counter
  have hKeys := hPerm.map OfflineMutationEnvelope.sequenceKey
  rw [OfflineQueueFile.validate_eq_ok_iff, hKeys.nodup_iff, List.map_cons, List.nodup_cons]
  constructor
  · rintro ⟨_, _, hApart, _⟩ old hOld hSame
    exact hApart (List.mem_map.mpr ⟨old, hOld, hSame⟩)
  · intro hApart
    refine ⟨hVersion, ?_, ?_, hNodup⟩
    · intro other hOther
      rcases List.mem_cons.mp (hPerm.mem_iff.mp hOther) with rfl | hOld
      · exact hMutation
      · exact hAll other hOld
    · intro hMem
      obtain ⟨old, hOld, hSame⟩ := List.mem_map.mp hMem
      exact hApart old hOld hSame

/-- The next sequence is free unless the largest one is taken. -/
theorem nextSequence_free_iff {file : OfflineQueueFile} {logbookId : Uuid} :
    (∀ old ∈ file.mutations, old.sequenceKey ≠ (logbookId, file.nextSequence logbookId)) ↔
      ∀ mutation ∈ file.mutations, mutation.logbookId = logbookId →
        mutation.sequence ≠ 18446744073709551615 := by
  constructor
  · intro hApart mutation hMem hLogbook hLast
    have hSame := OfflineQueueFile.nextSequence_of_last hMem hLast
    rw [hLogbook] at hSame
    have hKey : mutation.sequenceKey = (logbookId, file.nextSequence logbookId) := by
      rw [hSame, ← hLogbook]
      rfl
    exact hApart mutation hMem hKey
  · intro hBelow old hOld hSame
    have hLogbook : old.logbookId = logbookId := congrArg Prod.fst hSame
    have hNumber : old.sequence = file.nextSequence logbookId := congrArg Prod.snd hSame
    have hLt := OfflineQueueFile.lt_nextSequence hOld (hBelow old hOld hLogbook)
    rw [hLogbook, ← hNumber] at hLt
    exact absurd hLt (UInt64.lt_irrefl _)

namespace JsonOfflineMutationQueue
variable {disk : QueueDisk} {file : OfflineQueueFile} {input : OfflineMutationInput}

theorem of_queuedOperation {stored : OfflineMutationEnvelope}
    (h : queuedOperation file input = some stored) :
    stored ∈ file.mutations ∧ stored.logbookId = input.logbookId ∧
      input.operationId = some stored.operationId := by
  unfold queuedOperation at h
  have hFound := List.find?_some h
  exact ⟨List.mem_of_find?_eq_some h, of_decide_eq_true hFound⟩

theorem of_queuedKey {logbookId : Uuid} {key : String} {stored : OfflineMutationEnvelope}
    (h : queuedKey file logbookId key = some stored) :
    stored ∈ file.mutations ∧ stored.logbookId = logbookId ∧ stored.idempotencyKey = key := by
  unfold queuedKey at h
  have hFound := List.find?_some h
  exact ⟨List.mem_of_find?_eq_some h, of_decide_eq_true hFound⟩

theorem queued_eq_none_iff :
    (queuedOperation file input).or
        (input.idempotencyKey.bind (queuedKey file input.logbookId)) = none ↔
      input.IsNew file := by
  rw [Option.or_eq_none_iff, queuedOperation, List.find?_eq_none]
  constructor
  · rintro ⟨hOperation, hKey⟩ mutation hMem hLogbook
    refine ⟨fun hSame => hOperation mutation hMem (decide_eq_true ⟨hLogbook, hSame⟩), ?_⟩
    intro hSame
    rw [hSame, Option.bind_some, queuedKey, List.find?_eq_none] at hKey
    exact hKey mutation hMem (decide_eq_true ⟨hLogbook, rfl⟩)
  · intro hNew
    refine ⟨?_, ?_⟩
    · intro mutation hMem hFound
      obtain ⟨hLogbook, hSame⟩ := of_decide_eq_true hFound
      exact (hNew mutation hMem hLogbook).1 hSame
    · cases hKey : input.idempotencyKey with
      | none => rfl
      | some key =>
          rw [Option.bind_some, queuedKey, List.find?_eq_none]
          intro mutation hMem hFound
          obtain ⟨hLogbook, hSame⟩ := of_decide_eq_true hFound
          exact (hNew mutation hMem hLogbook).2 (by rw [hKey, hSame])

variable [UuidCrate]

theorem enqueueInput_of_queued (hLoad : loadFile disk = .ok file)
    {stored : OfflineMutationEnvelope}
    (hQueued : (queuedOperation file input).or
      (input.idempotencyKey.bind (queuedKey file input.logbookId)) = some stored)
    (now : DateTime) (random : Uuid) :
    enqueueInput disk input now random = .ok (stored, none) := by
  simp only [enqueueInput, hLoad, hQueued]

theorem enqueueInput_of_new (hLoad : loadFile disk = .ok file) (hNew : input.IsNew file)
    (now : DateTime) (random : Uuid)
    (hValid : (OfflineMutationEnvelope.new input (file.nextSequence input.logbookId) now
      random).validate = .ok ()) :
    enqueueInput disk input now random =
      saveFile (withMutation file
        (.new input (file.nextSequence input.logbookId) now random)
        (saturatingSucc (file.nextSequence input.logbookId)))
        (.new input (file.nextSequence input.logbookId) now random) := by
  simp only [enqueueInput, hLoad, queued_eq_none_iff.mpr hNew, hValid]
  rfl

end JsonOfflineMutationQueue

section Calls
variable [UuidCrate] [LegacyQueueJson] {disk : QueueDisk} {file : OfflineQueueFile}
  {input : OfflineMutationInput}

theorem prepared_of_ordinary {call : QueueCall} (h : call.recovers = false) :
    (call.plan disk).prepared = disk := by
  cases call with
  | recoverOrInitialize => cases h
  | _ => rfl

/-- A call that finds what it was asked to queue changes nothing. -/
theorem resubmitted {call : QueueCall} (hCall : call.recovers = false)
    {stored : OfflineMutationEnvelope}
    (h : (call.plan disk).outcome = .ok (.mutation stored, none)) :
    queueStore.answer disk call none = .ok (.mutation stored) ∧
      queueStore.next disk call none = disk := by
  refine ⟨Plan.response_of_ok _ h, ?_⟩
  have hUnsaved : ∀ reply value, (call.plan disk).outcome ≠ .ok (reply, some value) := by
    intro reply value hSaved
    rw [h] at hSaved
    cases hSaved
  exact (Plan.carryOut_of_unsaved disk hUnsaved).trans (prepared_of_ordinary hCall)

/-- A new well formed input is queued exactly where the largest sequence is
still free. -/
theorem enqueueInput_succeeds_iff (hLoad : loadFile disk = .ok file) (hFile : Counted file)
    (hInput : input.WellFormed) (hNew : input.IsNew file) (now : DateTime) (random : Uuid) :
    (∃ reply, queueStore.answer disk (.enqueueInput input now random) none = .ok reply) ↔
      ∀ mutation ∈ file.mutations, mutation.logbookId = input.logbookId →
        mutation.sequence ≠ 18446744073709551615 := by
  have hSequence : file.nextSequence input.logbookId ≠ 0 :=
    OfflineQueueFile.nextSequence_ne_zero (hFile.counters input.logbookId)
  have hValid : (OfflineMutationEnvelope.new input (file.nextSequence input.logbookId) now
      random).validate = .ok () := validate_new hInput hSequence
  have hEnqueue := enqueueInput_of_new hLoad hNew now random hValid
  have hCheck := validate_withMutation hFile.distinct.valid hValid
    (saturatingSucc (file.nextSequence input.logbookId))
  have hSaves : (∃ reply, queueStore.answer disk (.enqueueInput input now random) none =
      .ok reply) ↔ ∀ old ∈ file.mutations, old.sequenceKey ≠
        (OfflineMutationEnvelope.new input (file.nextSequence input.logbookId) now
          random).sequenceKey := by
    rw [← hCheck]
    constructor
    · rintro ⟨reply, hAnswer⟩
      obtain ⟨_, saved, hOutcome⟩ := Plan.response_eq_ok hAnswer
      obtain ⟨value, hValue, _⟩ := QueueCall.replying_eq_ok hOutcome
      rw [hEnqueue] at hValue
      exact (saveFile_eq_ok hValue).1
    · intro hSaved
      rw [saveFile, hSaved] at hEnqueue
      have hOutcome : (QueueCall.plan disk (.enqueueInput input now random)).outcome =
          QueueCall.replying .mutation (enqueueInput disk input now random) := rfl
      rw [hEnqueue] at hOutcome
      exact ⟨_, Plan.response_of_ok _ hOutcome⟩
  rw [hSaves]
  exact nextSequence_free_iff

/-- What is newly queued gets a sequence above all others of its logbook. -/
theorem enqueueInput_grows (hLoad : loadFile disk = .ok file)
    (hValid : file.validate = .ok ()) (hNew : input.IsNew file) {now : DateTime} {random : Uuid}
    {reply : QueueReply}
    (hAnswer : queueStore.answer disk (.enqueueInput input now random) none = .ok reply) :
    ∃ mutation next, reply = .mutation mutation ∧ mutation.logbookId = input.logbookId ∧
      loadFile (queueStore.next disk (.enqueueInput input now random) none) = .ok next ∧
      mutation ∈ next.mutations ∧
      ∀ old ∈ file.mutations, old.logbookId = input.logbookId →
        old.sequence < mutation.sequence := by
  obtain ⟨_, saved, hOutcome⟩ := Plan.response_eq_ok hAnswer
  obtain ⟨value, hValue, rfl⟩ := QueueCall.replying_eq_ok hOutcome
  cases hEnvelope : (OfflineMutationEnvelope.new input (file.nextSequence input.logbookId) now
      random).validate with
  | error error =>
      simp only [enqueueInput, hLoad, queued_eq_none_iff.mpr hNew, hEnvelope] at hValue
      cases hValue
  | ok valid =>
      rw [enqueueInput_of_new hLoad hNew now random hEnvelope] at hValue
      obtain ⟨hSaved, rfl, rfl⟩ := saveFile_eq_ok hValue
      have hNotCut : (none : Option Cut) ≠ some .notStarted := by decide
      have hDisk := Plan.carryOut_of_saved disk hOutcome hNotCut
      refine ⟨_, _, rfl, rfl, loadFile_eq_ok_iff.mpr
        ⟨_, congrArg (Disk.contents {}) hDisk, hSaved, rfl⟩, ?_, ?_⟩
      · rw [OfflineQueueFile.mem_sorted, (perm_withMutation file _ _).mem_iff]
        exact List.mem_cons_self
      · intro old hOld hLogbook
        have hFree := (validate_withMutation hValid hEnvelope _).mp hSaved
        have hBelow := nextSequence_free_iff.mp hFree old hOld hLogbook
        have hLt := OfflineQueueFile.lt_nextSequence hOld hBelow
        rw [hLogbook] at hLt
        exact hLt

/-- An input whose operation or key is queued is answered with what is queued,
and with the operation if that is it. -/
theorem enqueueInput_known (hLoad : loadFile disk = .ok file) (hKnown : ¬ input.IsNew file)
    (now : DateTime) (random : Uuid) :
    ∃ stored ∈ file.mutations, stored.logbookId = input.logbookId ∧
      (input.operationId = some stored.operationId ∨
        input.idempotencyKey = some stored.idempotencyKey) ∧
      queueStore.answer disk (.enqueueInput input now random) none = .ok (.mutation stored) ∧
      queueStore.next disk (.enqueueInput input now random) none = disk := by
  cases hQueued : (queuedOperation file input).or
      (input.idempotencyKey.bind (queuedKey file input.logbookId)) with
  | none => exact absurd (queued_eq_none_iff.mp hQueued) hKnown
  | some stored =>
      have hFound : stored ∈ file.mutations ∧ stored.logbookId = input.logbookId ∧
          (input.operationId = some stored.operationId ∨
            input.idempotencyKey = some stored.idempotencyKey) := by
        rcases Option.or_eq_some_iff.mp hQueued with hOperation | ⟨_, hKey⟩
        · obtain ⟨hMem, hLogbook, hSame⟩ := of_queuedOperation hOperation
          exact ⟨hMem, hLogbook, Or.inl hSame⟩
        · obtain ⟨key, hSome, hFind⟩ := Option.bind_eq_some_iff.mp hKey
          obtain ⟨hMem, hLogbook, hSame⟩ := of_queuedKey hFind
          exact ⟨hMem, hLogbook, Or.inr (by rw [hSome, hSame])⟩
      obtain ⟨hMem, hLogbook, hSame⟩ := hFound
      refine ⟨stored, hMem, hLogbook, hSame, resubmitted rfl ?_⟩
      show QueueCall.replying .mutation (enqueueInput disk input now random) = _
      rw [enqueueInput_of_queued hLoad hQueued]
      rfl

theorem enqueueInput_operation (hLoad : loadFile disk = .ok file) (hFile : Counted file)
    {stored : OfflineMutationEnvelope} (hMem : stored ∈ file.mutations)
    (hLogbook : stored.logbookId = input.logbookId)
    (hOperation : input.operationId = some stored.operationId) (now : DateTime)
    (random : Uuid) :
    queueStore.answer disk (.enqueueInput input now random) none = .ok (.mutation stored) := by
  have hQueued : queuedOperation file input = some stored := by
    cases hFind : queuedOperation file input with
    | none =>
        exact absurd (decide_eq_true ⟨hLogbook, hOperation⟩)
          (List.find?_eq_none.mp hFind stored hMem)
    | some found =>
        obtain ⟨hFound, hFoundLogbook, hFoundOperation⟩ := of_queuedOperation hFind
        have hSame : found.operationKey = stored.operationKey :=
          Prod.ext (hFoundLogbook.trans hLogbook.symm)
            (Option.some.inj (hFoundOperation.symm.trans hOperation))
        rw [hFile.distinct.eq_of_key hFound hMem hSame]
  have hFirst : (queuedOperation file input).or
      (input.idempotencyKey.bind (queuedKey file input.logbookId)) = some stored := by
    rw [hQueued, Option.some_or]
  have hOutcome : (QueueCall.plan disk (.enqueueInput input now random)).outcome =
      QueueCall.replying .mutation (enqueueInput disk input now random) := rfl
  rw [enqueueInput_of_queued hLoad hFirst] at hOutcome
  exact Plan.response_of_ok _ hOutcome

/-- An envelope whose operation or key is queued is answered with what is
queued. -/
theorem enqueue_known (hLoad : loadFile disk = .ok file) {envelope : OfflineMutationEnvelope}
    (hEnvelope : envelope.validate = .ok ()) {known : OfflineMutationEnvelope}
    (hKnown : known ∈ file.mutations) (hSame : known.operationId = envelope.operationId ∨
      (known.logbookId = envelope.logbookId ∧
        known.idempotencyKey = envelope.idempotencyKey)) :
    ∃ stored ∈ file.mutations, (stored.operationId = envelope.operationId ∨
        (stored.logbookId = envelope.logbookId ∧
          stored.idempotencyKey = envelope.idempotencyKey)) ∧
      queueStore.answer disk (.enqueue envelope) none = .ok (.mutation stored) ∧
      queueStore.next disk (.enqueue envelope) none = disk := by
  cases hQueued : (file.findMutation envelope.operationId).or
      (queuedKey file envelope.logbookId envelope.idempotencyKey) with
  | none =>
      obtain ⟨hOperation, hKey⟩ := Option.or_eq_none_iff.mp hQueued
      rcases hSame with hSame | hSame
      · exact absurd (decide_eq_true hSame) (List.find?_eq_none.mp hOperation known hKnown)
      · exact absurd (decide_eq_true hSame) (List.find?_eq_none.mp hKey known hKnown)
  | some stored =>
      have hFound : stored ∈ file.mutations ∧ (stored.operationId = envelope.operationId ∨
          (stored.logbookId = envelope.logbookId ∧
            stored.idempotencyKey = envelope.idempotencyKey)) := by
        rcases Option.or_eq_some_iff.mp hQueued with hFind | ⟨_, hFind⟩
        · exact ⟨List.mem_of_find?_eq_some hFind,
            Or.inl (QueueCall.operationId_of_findMutation hFind)⟩
        · obtain ⟨hMem, hLogbook, hKey⟩ := of_queuedKey hFind
          exact ⟨hMem, Or.inr ⟨hLogbook, hKey⟩⟩
      obtain ⟨hMem, hStored⟩ := hFound
      refine ⟨stored, hMem, hStored, resubmitted rfl ?_⟩
      show QueueCall.replying .mutation (enqueue disk envelope) = _
      simp only [enqueue, hEnvelope, hLoad, hQueued]
      rfl

/-- Before it saves, a call changes the queue file only where recovery puts a
temporary file in its place, and such a recovery does not fail by itself. -/
theorem prepared_file {P : OfflineQueueFile → Prop} (hDisk : disk.Holds P)
    (hValid : ∀ file, P file → file.validate = .ok ()) (call : QueueCall) :
    (call.plan disk).prepared.file = disk.file ∨
      (call.recovers = true ∧ disk.file = none ∧ (∃ file, disk.temp = some (.document file)) ∧
        ∃ result, (call.plan disk).outcome = .ok result) := by
  cases hCall : call.recovers with
  | false => exact Or.inl (by rw [prepared_of_ordinary hCall])
  | true =>
      cases call with
      | recoverOrInitialize now =>
          have hPlan : QueueCall.plan disk (.recoverOrInitialize now) =
              ⟨(recoveryBase disk now).1,
                QueueCall.replying .report (recoverOrInitialize disk now).outcome⟩ := rfl
          rcases recoveryBase_cases hDisk hValid now with
            ⟨found, report, prepared, _, hCase, hFile, _⟩ | ⟨found, report, hFile, hTemp, hCase⟩ |
            ⟨report, prepared, _, hCase, hFile, _⟩
          · left
            rw [hPlan, hCase]
            exact hFile
          · right
            have hFound := (OfflineQueueFile.validate_sorted found).mpr
              (hValid found (hDisk.temp found hTemp))
            refine ⟨rfl, hFile, ⟨found, hTemp⟩, ?_⟩
            rw [hPlan, recoverOrInitialize, hCase]
            simp only [saveFile, validate_recovered hFound now]
            exact ⟨_, rfl⟩
          · left
            rw [hPlan, hCase]
            exact hFile
      | _ => cases hCall

/-- A call that does not succeed leaves the queue file. -/
theorem file_of_error {P : OfflineQueueFile → Prop} (hDisk : disk.Holds P)
    (hValid : ∀ file, P file → file.validate = .ok ()) {call : QueueCall} {cut : Option Cut}
    (hAllowed : LeavesFile disk (call, cut)) {failure : Fault OfflineQueueError}
    (hAnswer : queueStore.answer disk call cut = .error failure) :
    (queueStore.next disk call cut).file = disk.file := by
  by_cases hStarted : cut = some .notStarted
  · rw [hStarted]
    rfl
  have hPrepared : (call.plan disk).prepared.file = disk.file := by
    rcases prepared_file hDisk hValid call with hSame |
      ⟨hCall, hMissing, ⟨file, hTemp⟩, result, hOk⟩
    · exact hSame
    · cases cut with
      | none =>
          have hSuccess := Plan.response_of_ok queueStore.io hOk
          cases hAnswer.symm.trans hSuccess
      | some cut => exact absurd hTemp (hAllowed.unpromoted hCall nofun hStarted hMissing file)
  rcases (call.plan disk).carryOut_cases disk cut with hSame | hSame |
    ⟨reply, saved, hOutcome, hSame⟩
  · exact congrArg Disk.file hSame
  · exact (congrArg Disk.file hSame).trans hPrepared
  · cases cut with
    | none =>
        have hSuccess := Plan.response_of_ok queueStore.io hOutcome
        cases hAnswer.symm.trans hSuccess
    | some cut =>
        by_cases hRemoved : cut = .oldRemoved
        · subst hRemoved
          exact (congrArg Disk.file hSame).trans (hAllowed.whole rfl).symm
        · exact ((congrArg Disk.file hSame).trans
            (Disk.file_replace_of_cut _ saved hRemoved)).trans hPrepared

/-- What the queue owes to its callers in a state. -/
structure KeepsPromises (disk : QueueDisk) (file : OfflineQueueFile) : Prop where
  loaded : loadFile disk = .ok file
  sequences : (file.mutations.map OfflineMutationEnvelope.sequenceKey).Nodup
  accepts : ∀ (input : OfflineMutationInput) (now : DateTime) (random : Uuid),
    input.WellFormed → input.IsNew file →
    ((∃ reply, queueStore.answer disk (.enqueueInput input now random) none = .ok reply) ↔
      ∀ mutation ∈ file.mutations, mutation.logbookId = input.logbookId →
        mutation.sequence ≠ 18446744073709551615)
  grows : ∀ (input : OfflineMutationInput) (now : DateTime) (random : Uuid) (reply : QueueReply),
    input.IsNew file →
    queueStore.answer disk (.enqueueInput input now random) none = .ok reply →
    ∃ mutation next, reply = .mutation mutation ∧ mutation.logbookId = input.logbookId ∧
      loadFile (queueStore.next disk (.enqueueInput input now random) none) = .ok next ∧
      mutation ∈ next.mutations ∧
      ∀ old ∈ file.mutations, old.logbookId = input.logbookId → old.sequence < mutation.sequence
  known : ∀ (input : OfflineMutationInput) (now : DateTime) (random : Uuid), ¬ input.IsNew file →
    ∃ stored ∈ file.mutations, stored.logbookId = input.logbookId ∧
      (input.operationId = some stored.operationId ∨
        input.idempotencyKey = some stored.idempotencyKey) ∧
      queueStore.answer disk (.enqueueInput input now random) none = .ok (.mutation stored) ∧
      queueStore.next disk (.enqueueInput input now random) none = disk
  operation : ∀ (input : OfflineMutationInput) (now : DateTime) (random : Uuid),
    ∀ stored ∈ file.mutations, stored.logbookId = input.logbookId →
    input.operationId = some stored.operationId →
    queueStore.answer disk (.enqueueInput input now random) none = .ok (.mutation stored)
  envelope : ∀ envelope : OfflineMutationEnvelope, envelope.validate = .ok () →
    ∀ known ∈ file.mutations, (known.operationId = envelope.operationId ∨
      (known.logbookId = envelope.logbookId ∧ known.idempotencyKey = envelope.idempotencyKey)) →
    ∃ stored ∈ file.mutations, (stored.operationId = envelope.operationId ∨
        (stored.logbookId = envelope.logbookId ∧
          stored.idempotencyKey = envelope.idempotencyKey)) ∧
      queueStore.answer disk (.enqueue envelope) none = .ok (.mutation stored) ∧
      queueStore.next disk (.enqueue envelope) none = disk
  unchanged : ∀ (call : QueueCall) (cut : Option Cut) (failure : Fault OfflineQueueError),
    LeavesFile disk (call, cut) → queueStore.answer disk call cut = .error failure →
    (queueStore.next disk call cut).file = disk.file

/-- In every run whose cuts leave the queue file, nothing queued is dropped,
and the queue keeps its promises. -/
theorem queue_keeps_promises {labels : List (QueueCall × Option Cut)}
    (run : Run (queueSystem.restrict LeavesFile) {} labels disk) :
    ∃ file, KeepsPromises disk file ∧
      ∀ (further : List (QueueCall × Option Cut)) (later : QueueDisk),
        Run (queueSystem.restrict LeavesFile) disk further later →
        Evolves (fun old new => new.identity = old.identity) disk later := by
  have hSaves : ∀ (before : QueueDisk) (call : QueueCall) (cut : Option Cut)
      (base next : OfflineQueueFile), LeavesFile before (call, cut) → Counted base →
      call.base before = .ok base → call.Fresh base → call.Saves base next →
      next.validate = .ok () → Counted next :=
    fun _ _ _ _ _ _ hBase _ => counted_of_saves hBase
  have hDisk := holds_of_run stable_counted hSaves (Disk.holds_empty _) run
  obtain ⟨file, hLoad, hFile⟩ := loadFile_of_holds stable_counted hDisk
  refine ⟨file, ?_, ?_⟩
  · exact
      { loaded := hLoad
        sequences := ((OfflineQueueFile.validate_eq_ok_iff file).mp hFile.distinct.valid).2.2
        accepts := fun _ now random hInput hNew =>
          enqueueInput_succeeds_iff hLoad hFile hInput hNew now random
        grows := fun _ _ _ _ hNew => enqueueInput_grows hLoad hFile.distinct.valid hNew
        known := fun _ now random hKnown => enqueueInput_known hLoad hKnown now random
        operation := fun _ now random _ hMem hLogbook hOperation =>
          enqueueInput_operation hLoad hFile hMem hLogbook hOperation now random
        envelope := fun _ hEnvelope _ => enqueue_known hLoad hEnvelope
        unchanged := fun _ _ _ hAllowed hAnswer =>
          file_of_error hDisk stable_counted.valid hAllowed hAnswer }
  · intro further later hLater
    refine evolves_of_run (R := fun old new => new.identity = old.identity) stable_counted
      hSaves (fun _ => rfl) ?_ (fun _ _ _ hAllowed => hAllowed.whole) ?_ hDisk hLater
    · intro first second third hFirst hSecond
      exact hSecond.trans hFirst
    · intro before call cut base next _ _ hSaved old hOld
      obtain ⟨new, hNew, rfl | hRevises⟩ := hSaved.mem hOld
      · exact ⟨new, hNew, rfl⟩
      · exact ⟨new, hNew, hRevises.identity⟩

end Calls

section
open Crates

theorem queue_keeps_promises_contact :
    ∃ file, KeepsPromises (queueStore.next {} (.enqueueInput (sampleInput 1 7) epoch 0) none)
      file := by
  have hStep : (queueSystem.restrict LeavesFile).step {}
      (.enqueueInput (sampleInput 1 7) epoch 0, none)
      (queueStore.next {} (.enqueueInput (sampleInput 1 7) epoch 0) none) := by
    refine ⟨⟨fun h => ?_, fun h => ?_⟩, ?_, rfl⟩
    · cases h
    · cases h
    · intro file hFile mutation hMem
      cases hFile
      cases hMem
  obtain ⟨file, hPromises, _⟩ := queue_keeps_promises (Run.single hStep)
  exact ⟨file, hPromises⟩

/-- Once an envelope with the largest sequence is queued, no input can be
queued in its logbook any more. -/
theorem last_sequence_blocks_input :
    let last := OfflineMutationEnvelope.new (sampleInput 1 7) 18446744073709551615 epoch 0
    let input := { sampleInput 1 8 with idempotencyKey := some "other" }
    let queued := queueStore.next {} (.enqueue last) none
    Run queueSystem {} [(.enqueue last, none)] queued ∧
      queueStore.answer queued (.enqueueInput input epoch 0) none =
        .error (.error (.duplicateSequence 1 18446744073709551615)) := by
  intro last input queued
  have hStep : queueSystem.step {} (.enqueue last, none) queued := ⟨fun _ _ => trivial, rfl⟩
  exact ⟨Run.single hStep, by decide⟩

end

end HamLogger
