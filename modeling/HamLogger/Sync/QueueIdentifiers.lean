import HamLogger.Sync.QueueEvolution

/-! Operation identifiers in the queue. The updates find a mutation by its
operation alone, so they change the mutation they were meant for as long as
no two logbooks queue an operation of the same identifier. -/
namespace HamLogger

open FileReplace (Content Cut Disk Plan Store)
open Transition (Run System)
open JsonOfflineMutationQueue

/-- The input is new to its logbook and names an operation that is queued in
another one. -/
def QueueCall.SharesOperation (file : OfflineQueueFile) : QueueCall → Prop
  | .enqueueInput input _ _ =>
      (queuedOperation file input).or
        (input.idempotencyKey.bind (queuedKey file input.logbookId)) = none ∧
      ∃ mutation ∈ file.mutations, input.operationId = some mutation.operationId
  | _ => False

/-- A call replied with the one mutation it changed, the only one in the queue
with the operation it addressed. -/
structure ChangesOnly (disk later : QueueDisk) (operationId : Uuid) (reply : QueueReply)
    (before : List OfflineMutationEnvelope) (old new : OfflineMutationEnvelope)
    (after : List OfflineMutationEnvelope) : Prop where
  loaded : ∃ file, loadFile disk = .ok file ∧ file.mutations = before ++ old :: after
  addressed : old.operationId = operationId
  others : ∀ mutation ∈ before ++ after, mutation.operationId ≠ operationId
  identity : new.identity = old.identity
  replied : reply = .mutation new
  saved : ∃ file, loadFile later = .ok file ∧ file.mutations.Perm (before ++ new :: after)

section Runs
variable [UuidCrate]

/-- An addition has a new operation identifier, unless it shares one. -/
theorem QueueCall.Adds.operationId {call : QueueCall} {file : OfflineQueueFile}
    {mutation : OfflineMutationEnvelope} {counter : UInt64} (h : call.Adds file mutation counter)
    (hFresh : call.Fresh file) (hOwn : ¬ call.SharesOperation file) :
    ∀ old ∈ file.mutations, old.operationId ≠ mutation.operationId := by
  intro old hOld hSame
  cases call with
  | enqueueInput input now random =>
      obtain ⟨hQueued, hKey, rfl, _⟩ := h
      have hName : old.operationId = input.operationId.getD random := hSame
      cases hInput : input.operationId with
      | none =>
          rw [hInput] at hName
          exact hFresh old hOld hName
      | some operationId =>
          rw [hInput] at hName
          refine hOwn ⟨?_, old, hOld, by rw [hInput, hName]; rfl⟩
          rw [hQueued, Option.none_or]
          cases hSome : input.idempotencyKey with
          | none => rfl
          | some key => exact hKey key hSome
  | enqueue envelope =>
      obtain ⟨hQueued, rfl, _⟩ := h
      have hNone := List.find?_eq_none.mp hQueued old hOld
      exact hNone (decide_eq_true hSame)
  | loadSnapshot | recordLocalEvent | markSending | recordTransientFailure | markBlocked
  | markFailed | markUserActionRequired | markAccepted | markAcceptedByEventHashes
  | recoverInterruptedWrites | recoverOrInitialize | readyToSend | readyEventBatch => cases h

/-- Every key that the identity determines stays distinct under the steps that
add no key twice. -/
theorem distinctBy_of_saves {α : Type} {key : OfflineMutationEnvelope → α}
    (hKey : ∀ {old new : OfflineMutationEnvelope}, new.identity = old.identity → key new = key old)
    {call : QueueCall} {base next : OfflineQueueFile} (hBase : DistinctBy key base)
    (hSaved : call.Saves base next) (hValid : next.validate = .ok ())
    (hAdds : ∀ mutation counter, call.Adds base mutation counter →
      ∀ old ∈ base.mutations, key old ≠ key mutation) : DistinctBy key next :=
  ⟨hValid, hSaved.nodup hKey hBase.nodup hAdds⟩

variable [LegacyQueueJson]

/-- In a queue of distinct operations, a call that addresses one and succeeds
changes that one only. -/
theorem changesOnly_of_distinct {disk : QueueDisk} {file : OfflineQueueFile}
    (hLoad : loadFile disk = .ok file)
    (hFile : DistinctBy OfflineMutationEnvelope.operationId file) {call : QueueCall}
    {operationId : Uuid} (hCall : call.operationId = some operationId) {reply : QueueReply}
    (hAnswer : queueStore.answer disk call none = .ok reply) :
    ∃ before old new after,
      ChangesOnly disk (queueStore.next disk call none) operationId reply before old new after := by
  obtain ⟨_, saved, hOutcome⟩ := Plan.response_eq_ok hAnswer
  obtain ⟨loaded, old, new, hLoaded, hFound, hRevises, hReply, hSaved, hValid⟩ :=
    changesOne hCall hOutcome
  obtain rfl : loaded = file := Except.ok.inj (hLoaded.symm.trans hLoad)
  obtain ⟨before, after, hSplit, hUpdated⟩ := @updateFirst_of_find? _ _ (fun _ => new) _ _ hFound
  have hOperation : old.operationId = operationId := QueueCall.operationId_of_findMutation hFound
  refine ⟨before, old, new, after, ⟨loaded, hLoad, hSplit⟩, hOperation, ?_, hRevises.identity,
    hReply, (loaded.setMutation operationId new).sorted, ?_, ?_⟩
  · intro mutation hMem hSame
    have hNodup := hFile.nodup
    rw [hSplit, List.map_append, List.map_cons] at hNodup
    have hApart := (List.nodup_middle.mp hNodup).notMem
    rw [← List.map_append] at hApart
    exact hApart (List.mem_map.mpr ⟨mutation, hMem, hSame.trans hOperation.symm⟩)
  · rw [hSaved] at hOutcome
    have hNotCut : (none : Option Cut) ≠ some .notStarted := by decide
    have hNext := Plan.carryOut_of_saved disk hOutcome hNotCut
    refine loadFile_eq_ok_iff.mpr ⟨_, congrArg (Disk.contents {}) hNext, hValid, ?_⟩
    exact OfflineQueueFile.sorted_sorted _
  · have hMutations : (loaded.setMutation operationId new).mutations = before ++ new :: after :=
      hUpdated
    rw [← hMutations]
    exact OfflineQueueFile.perm_sorted _

/-- In every run in which no input shares the operation of another logbook,
operations are queued once, and a call that addresses one changes it alone. -/
theorem operations_unique {labels : List (QueueCall × Option Cut)} {disk : QueueDisk}
    (run : Run (queueSystem.restrict fun disk label => ∀ file, loadFile disk = .ok file →
      ¬ label.1.SharesOperation file) {} labels disk) :
    ∃ file, loadFile disk = .ok file ∧
      (file.mutations.map OfflineMutationEnvelope.operationId).Nodup ∧
      ∀ (call : QueueCall) (operationId : Uuid) (reply : QueueReply),
        call.operationId = some operationId → queueStore.answer disk call none = .ok reply →
        ∃ before old new after,
          ChangesOnly disk (queueStore.next disk call none) operationId reply before old new
            after := by
  have stable := stable_distinctBy OfflineMutationEnvelope.operationId
  have hDisk : disk.Holds (DistinctBy OfflineMutationEnvelope.operationId) := by
    refine holds_of_run stable ?_ (Disk.holds_empty _) run
    intro before call cut base next hOwn hBase hLoad hFresh hSaved hValid
    refine distinctBy_of_saves operationId_of_identity hBase hSaved hValid ?_
    intro mutation counter hAdds
    refine hAdds.operationId hFresh ?_
    cases call with
    | enqueueInput => exact hOwn base hLoad
    | _ => exact id
  obtain ⟨file, hLoad, hFile⟩ := loadFile_of_holds stable hDisk
  refine ⟨file, hLoad, hFile.nodup, ?_⟩
  intro call operationId reply hCall hAnswer
  exact changesOnly_of_distinct hLoad hFile hCall hAnswer

end Runs

section
open Crates

theorem operations_unique_contact :
    ∃ reply, queueStore.answer (queueStore.next {} (.enqueueInput (sampleInput 1 7) epoch 0) none)
        (.markAccepted 7 epoch) none = .ok reply ∧
      ∃ before old new after,
        ChangesOnly (queueStore.next {} (.enqueueInput (sampleInput 1 7) epoch 0) none)
          (queueStore.next (queueStore.next {} (.enqueueInput (sampleInput 1 7) epoch 0) none)
            (.markAccepted 7 epoch) none) 7 reply before old new after := by
  have hStep : (queueSystem.restrict fun disk label => ∀ file, loadFile disk = .ok file →
      ¬ label.1.SharesOperation file).step {} (.enqueueInput (sampleInput 1 7) epoch 0, none)
        (queueStore.next {} (.enqueueInput (sampleInput 1 7) epoch 0) none) := by
    refine ⟨?_, ?_, rfl⟩
    · rintro file hFile ⟨_, mutation, hMem, _⟩
      cases hFile
      cases hMem
    · intro file hFile mutation hMem
      cases hFile
      cases hMem
  obtain ⟨reply, hReply⟩ : ∃ reply,
      queueStore.answer (queueStore.next {} (.enqueueInput (sampleInput 1 7) epoch 0) none)
        (.markAccepted 7 epoch) none = .ok reply := ⟨_, rfl⟩
  obtain ⟨_, _, _, hChanges⟩ := operations_unique (Run.single hStep)
  exact ⟨reply, hReply, hChanges _ 7 reply rfl hReply⟩

/-- Two logbooks queue an operation of the same identifier. Its acceptance in
the second one is recorded in the first one. -/
theorem shared_operation_accepts_other :
    let first := queueStore.next {} (.enqueueInput (sampleInput 1 7) epoch 0) none
    let second := queueStore.next first (.enqueueInput (sampleInput 2 7) epoch 0) none
    let later := queueStore.next second (.markAccepted 7 epoch) none
    Run queueSystem {} [(.enqueueInput (sampleInput 1 7) epoch 0, none),
      (.enqueueInput (sampleInput 2 7) epoch 0, none)] second ∧
    (∃ file, loadFile second = .ok file ∧
      ¬ (file.mutations.map OfflineMutationEnvelope.operationId).Nodup) ∧
    ∃ file, loadFile later = .ok file ∧
      file.mutations.map (fun mutation => (mutation.logbookId, mutation.status)) =
        [(1, .accepted), (2, .pending)] := by
  intro first second later
  have hFirst : queueSystem.step {} (.enqueueInput (sampleInput 1 7) epoch 0, none) first := by
    refine ⟨?_, rfl⟩
    intro file hFile mutation hMem
    cases hFile
    cases hMem
  have hSecond : queueSystem.step first (.enqueueInput (sampleInput 2 7) epoch 0, none)
      second := by
    refine ⟨?_, rfl⟩
    intro file hFile
    cases hFile
    show ∀ mutation ∈ _, OfflineMutationEnvelope.operationId mutation ≠ 0
    decide
  refine ⟨Run.snoc (Run.single hFirst) hSecond, ⟨_, rfl, ?_⟩, _, rfl, ?_⟩
  · decide
  · decide

end

end HamLogger
