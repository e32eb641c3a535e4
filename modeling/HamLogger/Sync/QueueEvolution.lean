import HamLogger.Sync.QueueRuns

/-! How the queue evolves over a call and over a run: the identities a call
keeps and adds, and what becomes of each queued mutation. -/
namespace HamLogger

open FileReplace (Content Cut Disk Plan Store)
open Transition (Run System)
open JsonOfflineMutationQueue

/-! The parts of the identity of a mutation. -/

theorem operationId_of_identity {old new : OfflineMutationEnvelope}
    (h : new.identity = old.identity) : new.operationId = old.operationId :=
  congrArg (fun identity => identity.2.2.1) h

/-- What the queue finds a mutation by, within all logbooks or one. -/
def OfflineMutationEnvelope.operationKey (mutation : OfflineMutationEnvelope) : Uuid × Uuid :=
  (mutation.logbookId, mutation.operationId)

theorem operationKey_of_identity {old new : OfflineMutationEnvelope}
    (h : new.identity = old.identity) : new.operationKey = old.operationKey :=
  congrArg (fun identity => (identity.1, identity.2.2.1)) h

theorem perm_withMutation (file : OfflineQueueFile) (mutation : OfflineMutationEnvelope)
    (counter : UInt64) :
    (withMutation file mutation counter).mutations.Perm (mutation :: file.mutations) :=
  (OfflineQueueFile.perm_sorted _).trans (List.perm_append_singleton _ _)

namespace QueueCall

/-- A quantity that the identity determines is the same throughout a list
that a call has revised. -/
theorem map_eq_of_revised {α : Type} {key : OfflineMutationEnvelope → α}
    (hKey : ∀ {old new : OfflineMutationEnvelope}, new.identity = old.identity → key new = key old)
    {call : QueueCall} {file : OfflineQueueFile} {olds news : List OfflineMutationEnvelope}
    (h : List.Forall₂ (fun old new => new = old ∨ call.Revises file old new) olds news) :
    news.map key = olds.map key := by
  induction h with
  | nil => rfl
  | @cons old new olds news hHead _ ih =>
      have hSame : key new = key old := by
        rcases hHead with rfl | hRevises
        · rfl
        · exact hKey hRevises.identity
      rw [List.map_cons, List.map_cons, hSame, ih]

variable [UuidCrate]

/-- A call keeps the identities of the file, and may add one. -/
theorem Saves.keys {α : Type} {key : OfflineMutationEnvelope → α}
    (hKey : ∀ {old new : OfflineMutationEnvelope}, new.identity = old.identity → key new = key old)
    {call : QueueCall} {file next : OfflineQueueFile} (h : call.Saves file next) :
    (next.mutations.map key).Perm (file.mutations.map key) ∨
    ∃ mutation counter, call.Adds file mutation counter ∧
      (next.mutations.map key).Perm (key mutation :: file.mutations.map key) := by
  cases h with
  | revised mutations h =>
      have hPerm := (OfflineQueueFile.perm_sorted { file with mutations := mutations }).map key
      have hSame := map_eq_of_revised hKey h
      exact Or.inl (hPerm.trans (List.Perm.of_eq hSame))
  | added mutation counter h =>
      exact Or.inr ⟨mutation, counter, h, (perm_withMutation file mutation counter).map key⟩

/-- Keys stay distinct if no call adds a key that is there. -/
theorem Saves.nodup {α : Type} {key : OfflineMutationEnvelope → α}
    (hKey : ∀ {old new : OfflineMutationEnvelope}, new.identity = old.identity → key new = key old)
    {call : QueueCall} {file next : OfflineQueueFile} (h : call.Saves file next)
    (hFile : (file.mutations.map key).Nodup)
    (hAdds : ∀ mutation counter, call.Adds file mutation counter →
      ∀ old ∈ file.mutations, key old ≠ key mutation) :
    (next.mutations.map key).Nodup := by
  rcases h.keys hKey with hPerm | ⟨mutation, counter, hAdded, hPerm⟩
  · exact hPerm.nodup_iff.mpr hFile
  · rw [hPerm.nodup_iff, List.nodup_cons]
    refine ⟨fun hMem => ?_, hFile⟩
    obtain ⟨old, hOld, hSame⟩ := List.mem_map.mp hMem
    exact hAdds mutation counter hAdded old hOld hSame

/-- Every mutation of the file is still there, revised at most. -/
theorem Saves.mem {call : QueueCall} {file next : OfflineQueueFile} (h : call.Saves file next)
    {old : OfflineMutationEnvelope} (hOld : old ∈ file.mutations) :
    ∃ new ∈ next.mutations, new = old ∨ call.Revises file old new := by
  cases h with
  | revised mutations h =>
      obtain ⟨new, hNew, hRelated⟩ := exists_right_of_forall₂ h hOld
      exact ⟨new, (OfflineQueueFile.mem_sorted _ new).mpr hNew, hRelated⟩
  | added mutation counter h =>
      have hMem := (perm_withMutation file mutation counter).mem_iff.mpr
        (List.mem_cons_of_mem _ hOld)
      exact ⟨old, hMem, Or.inl rfl⟩

/-- Every mutation of the new file was there, was revised, or was added. -/
theorem Saves.source {call : QueueCall} {file next : OfflineQueueFile} (h : call.Saves file next)
    {new : OfflineMutationEnvelope} (hNew : new ∈ next.mutations) :
    (∃ old ∈ file.mutations, new = old ∨ call.Revises file old new) ∨
      ∃ counter, call.Adds file new counter := by
  cases h with
  | revised mutations h =>
      have hMem := (OfflineQueueFile.mem_sorted _ new).mp hNew
      exact Or.inl (exists_left_of_forall₂ h hMem)
  | added mutation counter h =>
      rcases List.mem_cons.mp ((perm_withMutation file mutation counter).mem_iff.mp hNew) with
        rfl | hOld
      · exact Or.inr ⟨counter, h⟩
      · exact Or.inl ⟨new, hOld, Or.inl rfl⟩

/-- What a call adds has no operation identifier of its logbook. -/
theorem Adds.operationKey {call : QueueCall} {file : OfflineQueueFile}
    {mutation : OfflineMutationEnvelope} {counter : UInt64} (h : call.Adds file mutation counter)
    (hFresh : call.Fresh file) :
    ∀ old ∈ file.mutations, old.operationKey ≠ mutation.operationKey := by
  intro old hOld hSame
  have hLogbook : old.logbookId = mutation.logbookId := congrArg Prod.fst hSame
  have hOperation : old.operationId = mutation.operationId := congrArg Prod.snd hSame
  cases call with
  | enqueueInput input now random =>
      obtain ⟨hQueued, _, rfl, _⟩ := h
      have hName : old.operationId = input.operationId.getD random := hOperation
      cases hInput : input.operationId with
      | none =>
          rw [hInput] at hName
          exact hFresh old hOld hName
      | some operationId =>
          rw [hInput] at hName
          have hNone := List.find?_eq_none.mp hQueued old hOld
          refine hNone (decide_eq_true ⟨hLogbook, ?_⟩)
          rw [hInput, hName]
          rfl
  | enqueue envelope =>
      obtain ⟨hQueued, rfl, _⟩ := h
      have hNone := List.find?_eq_none.mp hQueued old hOld
      exact hNone (decide_eq_true hOperation)
  | loadSnapshot | recordLocalEvent | markSending | recordTransientFailure | markBlocked
  | markFailed | markUserActionRequired | markAccepted | markAcceptedByEventHashes
  | recoverInterruptedWrites | recoverOrInitialize | readyToSend | readyEventBatch => cases h

end QueueCall

/-! What becomes of the mutations that a load of the queue shows. -/

/-- Every mutation of the queue is there later, in the given relation. -/
def Evolves (R : OfflineMutationEnvelope → OfflineMutationEnvelope → Prop)
    (disk later : QueueDisk) : Prop :=
  ∀ file, loadFile disk = .ok file → ∃ next, loadFile later = .ok next ∧
    ∀ old ∈ file.mutations, ∃ new ∈ next.mutations, R old new

section Evolves
variable {R : OfflineMutationEnvelope → OfflineMutationEnvelope → Prop}

theorem Evolves.refl (hRefl : ∀ old, R old old) (disk : QueueDisk) : Evolves R disk disk := by
  intro file hFile
  exact ⟨file, hFile, fun old hOld => ⟨old, hOld, hRefl old⟩⟩

theorem Evolves.trans (hTrans : ∀ first second third, R first second → R second third →
    R first third) {disk middle later : QueueDisk} (first : Evolves R disk middle)
    (second : Evolves R middle later) : Evolves R disk later := by
  intro file hFile
  obtain ⟨between, hBetween, hFirst⟩ := first file hFile
  obtain ⟨next, hNext, hSecond⟩ := second between hBetween
  refine ⟨next, hNext, fun old hOld => ?_⟩
  obtain ⟨mid, hMid, hOldMid⟩ := hFirst old hOld
  obtain ⟨new, hNew, hMidNew⟩ := hSecond mid hMid
  exact ⟨new, hNew, hTrans old mid new hOldMid hMidNew⟩

theorem loadFile_of_file {disk other : QueueDisk} (h : disk.file = other.file) :
    loadFile disk = loadFile other := by
  rw [loadFile, loadFile, Disk.contents_of_file h]

theorem loadFile_of_missing {disk : QueueDisk} (h : disk.file = none) :
    loadFile disk = .ok {} := by
  rw [loadFile, Disk.contents, h]
  rfl

variable [UuidCrate] [LegacyQueueJson]

/-- A call works from the mutations of the queue, where it can be loaded. -/
theorem mem_base {P : OfflineQueueFile → Prop} {disk : QueueDisk} (hDisk : disk.Holds P)
    (hValid : ∀ file, P file → file.validate = .ok ()) {call : QueueCall}
    {file base : OfflineQueueFile} (hFile : loadFile disk = .ok file)
    (hBase : call.base disk = .ok base) {old : OfflineMutationEnvelope}
    (hOld : old ∈ file.mutations) : old ∈ base.mutations := by
  cases call with
  | recoverOrInitialize now =>
      have hRecovered : (recoveryBase disk now).2.map Prod.snd = .ok base := hBase
      obtain ⟨stored, hStored, _, rfl⟩ := loadFile_eq_ok_iff.mp hFile
      rcases recoveryBase_cases hDisk hValid now with
        ⟨found, report, prepared, hFound, hCase, _⟩ | ⟨found, report, hMissing, _, _⟩ |
        ⟨report, prepared, hMissing, _, _⟩
      · rw [hCase] at hRecovered
        rw [Disk.contents, hFound] at hStored
        cases hRecovered
        cases hStored
        exact (OfflineQueueFile.mem_sorted _ old).mp hOld
      · rw [Disk.contents, hMissing] at hStored
        cases hStored
        cases (OfflineQueueFile.mem_sorted _ old).mp hOld
      · rcases hMissing with hMissing | hMissing
        · rw [Disk.contents, hMissing] at hStored
          cases hStored
          cases (OfflineQueueFile.mem_sorted _ old).mp hOld
        · rw [Disk.contents, hMissing] at hStored
          cases hStored
          cases (OfflineQueueFile.mem_sorted _ old).mp hOld
  | _ =>
      obtain rfl : file = base := Except.ok.inj (hFile.symm.trans hBase)
      exact hOld

/-- A call that is not cut off between the removal of the queue file and the
renaming does to the mutations of the queue what its saves do. -/
theorem evolves_next {P : OfflineQueueFile → Prop} (stable : Stable P) {disk : QueueDisk}
    (hDisk : disk.Holds P) {call : QueueCall} {cut : Option Cut} (hRefl : ∀ old, R old old)
    (hSaves : ∀ base next, call.base disk = .ok base → call.Saves base next →
      ∀ old ∈ base.mutations, ∃ new ∈ next.mutations, R old new)
    (hLater : (queueStore.next disk call cut).Holds P)
    (hCut : cut = some .oldRemoved → disk.file = none) :
    Evolves R disk (queueStore.next disk call cut) := by
  intro file hFile
  obtain ⟨next, hNext, _⟩ := loadFile_of_holds stable hLater
  refine ⟨next, hNext, fun old hOld => ?_⟩
  -- a queue that shows a mutation has a file
  have hSome : disk.file ≠ none := by
    intro hMissing
    rw [loadFile_of_missing hMissing] at hFile
    cases hFile
    cases hOld
  have hKept : ∀ later : QueueDisk, queueStore.next disk call cut = later →
      later.file = disk.file → ∃ new ∈ next.mutations, R old new := by
    intro later hSame hLaterFile
    rw [hSame, loadFile_of_file hLaterFile, hFile] at hNext
    cases hNext
    exact ⟨old, hOld, hRefl old⟩
  have hPrepared : (call.plan disk).prepared.file = disk.file := by
    rcases prepared_cases hDisk stable.valid call with hSame | ⟨hSame, _⟩ | ⟨hMissing, _⟩
    · rw [hSame]
    · exact hSame
    · exact absurd hMissing hSome
  rcases (call.plan disk).carryOut_cases disk cut with hSame | hSame |
    ⟨reply, saved, hOutcome, hSame⟩
  · exact hKept disk hSame rfl
  · exact hKept _ hSame hPrepared
  · rcases cut with _ | cut
    · obtain ⟨base, hBase, hSaved, hValid⟩ := saves hOutcome
      obtain ⟨new, hNew, hRelated⟩ := hSaves base saved hBase hSaved old
        (mem_base hDisk stable.valid hFile hBase hOld)
      have hLoad : loadFile (queueStore.next disk call none) = .ok saved.sorted :=
        loadFile_eq_ok_iff.mpr ⟨saved, congrArg (Disk.contents {}) hSame, hValid, rfl⟩
      obtain rfl := Except.ok.inj (hNext.symm.trans hLoad)
      exact ⟨new, (OfflineQueueFile.mem_sorted _ new).mpr hNew, hRelated⟩
    · have hOther : cut ≠ .oldRemoved := fun hEq => hSome (hCut (by rw [hEq]))
      exact hKept _ hSame ((Disk.file_replace_of_cut _ saved hOther).trans hPrepared)

end Evolves

/-! Runs from an empty disk, with a condition on their steps. -/

/-- A queue file that passes the check and lists no key twice. -/
structure DistinctBy {α : Type} (key : OfflineMutationEnvelope → α) (file : OfflineQueueFile) :
    Prop where
  valid : file.validate = .ok ()
  nodup : (file.mutations.map key).Nodup

theorem stable_distinctBy {α : Type} (key : OfflineMutationEnvelope → α) :
    Stable (DistinctBy key) where
  empty := ⟨rfl, List.nodup_nil⟩
  sorted file h := ⟨(OfflineQueueFile.validate_sorted file).mpr h.valid,
    (file.perm_sorted.map key).nodup_iff.mpr h.nodup⟩
  valid _ h := h.valid

/-- A mutation of the file is determined by a key that is listed once. -/
theorem DistinctBy.eq_of_key {α : Type} {key : OfflineMutationEnvelope → α}
    {file : OfflineQueueFile} (h : DistinctBy key file) {left right : OfflineMutationEnvelope}
    (hLeft : left ∈ file.mutations) (hRight : right ∈ file.mutations)
    (hKey : key left = key right) : left = right :=
  List.inj_on_of_nodup_map h.nodup hLeft hRight hKey

section Runs
variable [UuidCrate] [LegacyQueueJson] {P : OfflineQueueFile → Prop}
  {allowed : QueueDisk → QueueCall × Option Cut → Prop}

/-- What every allowed call keeps in the files it saves holds of every file on
the disk of an allowed run. -/
theorem holds_of_run (stable : Stable P)
    (hSaves : ∀ disk call cut base next, allowed disk (call, cut) → P base →
      call.base disk = .ok base → call.Fresh base → call.Saves base next →
      next.validate = .ok () → P next)
    {start disk : QueueDisk} {labels : List (QueueCall × Option Cut)} (hStart : start.Holds P)
    (run : Run (queueSystem.restrict allowed) start labels disk) : disk.Holds P := by
  refine run.invariant ?_ hStart
  rintro before ⟨call, cut⟩ after hBefore ⟨hAllowed, hFresh, rfl⟩
  refine holds_next stable hBefore ?_ cut
  intro base next hBase hLoad hSaved hValid
  exact hSaves before call cut base next hAllowed hBase hLoad (hFresh base hLoad) hSaved hValid

theorem evolves_of_run {R : OfflineMutationEnvelope → OfflineMutationEnvelope → Prop}
    (stable : Stable P)
    (hSaves : ∀ disk call cut base next, allowed disk (call, cut) → P base →
      call.base disk = .ok base → call.Fresh base → call.Saves base next →
      next.validate = .ok () → P next)
    (hRefl : ∀ old, R old old)
    (hTrans : ∀ first second third, R first second → R second third → R first third)
    (hCut : ∀ disk call cut, allowed disk (call, cut) → cut = some .oldRemoved → disk.file = none)
    (hRelated : ∀ disk call cut base next, allowed disk (call, cut) →
      call.base disk = .ok base → call.Saves base next →
      ∀ old ∈ base.mutations, ∃ new ∈ next.mutations, R old new)
    {start disk : QueueDisk} {labels : List (QueueCall × Option Cut)} (hStart : start.Holds P)
    (run : Run (queueSystem.restrict allowed) start labels disk) : Evolves R start disk := by
  have hKeep : ∀ before label after, before.Holds P →
      (queueSystem.restrict allowed).step before label after → after.Holds P :=
    fun _ _ _ hBefore hStep => holds_of_run stable hSaves hBefore (Run.single hStep)
  refine run.relation_of_invariant hKeep (Evolves.refl hRefl)
    (fun _ _ _ => Evolves.trans hTrans) ?_ hStart
  rintro before ⟨call, cut⟩ after hBefore hStep
  have hAfter := hKeep before (call, cut) after hBefore hStep
  obtain ⟨hAllowed, _, rfl⟩ := hStep
  refine evolves_next stable hBefore hRefl ?_ hAfter (hCut before call cut hAllowed)
  intro base next hBase hSaved
  exact hRelated before call cut base next hAllowed hBase hSaved

end Runs

end HamLogger
