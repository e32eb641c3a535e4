import HamLogger.Sync.QueueSequences
import HamLogger.Sync.ReviewRuns
import HamLogger.Sync.TrustRuns

/-! Crashes inside `write_json_atomically`, for the three stores that save
through it: what later calls see after a save that was cut off. -/
namespace HamLogger

open FileReplace (Content Cut Disk Plan Store)
open JsonOfflineMutationQueue

namespace OfflineQueueFile

theorem sorted_eq_empty_iff (file : OfflineQueueFile) : file.sorted = {} ↔ file = {} := by
  constructor
  · intro h
    have hPerm := file.perm_sorted
    rw [h] at hPerm
    have hVersion : file.version = offlineQueueFileVersion := congrArg OfflineQueueFile.version h
    have hNext : file.nextSequenceByLogbook = ∅ := congrArg nextSequenceByLogbook h
    have hMutations : file.mutations = [] := hPerm.symm.eq_nil
    cases file
    simp_all
  · rintro rfl
    rfl

/-- Every mutation of the file is still there in the next one. -/
def Keeps (file next : OfflineQueueFile) : Prop :=
  ∀ old ∈ file.mutations, ∃ new ∈ next.mutations, new.identity = old.identity

/-- Two files that list the same mutations are sorted to the same file. -/
theorem sorted_congr {left right : OfflineQueueFile} (hVersion : left.version = right.version)
    (hNext : left.nextSequenceByLogbook = right.nextSequenceByLogbook)
    (hPerm : left.mutations.Perm right.mutations)
    (hNodup : (left.mutations.map OfflineMutationEnvelope.sequenceKey).Nodup) :
    left.sorted = right.sorted := by
  have hTotal : Std.Total fun left right : OfflineMutationEnvelope =>
      left.sortKey ≤ right.sortKey := ⟨fun left right => le_total left.sortKey right.sortKey⟩
  have hTrans : IsTrans OfflineMutationEnvelope fun left right =>
      left.sortKey ≤ right.sortKey := ⟨fun _ _ _ => le_trans⟩
  have hLeft := List.pairwise_insertionSort
    (fun left right : OfflineMutationEnvelope => left.sortKey ≤ right.sortKey) left.mutations
  have hRight := List.pairwise_insertionSort
    (fun left right : OfflineMutationEnvelope => left.sortKey ≤ right.sortKey) right.mutations
  have hSorted := left.perm_sorted.trans (hPerm.trans right.perm_sorted.symm)
  have hSame : left.sorted.mutations = right.sorted.mutations := by
    refine hSorted.eq_of_pairwise ?_ hLeft hRight
    intro first second hFirst hSecond hLe hGe
    -- a mutation is determined by its logbook and its sequence
    have hKey : first.sortKey = second.sortKey := le_antisymm hLe hGe
    have hLogbook : first.logbookId = second.logbookId :=
      BitVec.eq_of_toNat_eq (congrArg (fun key => (ofLex key).1) hKey)
    have hSequence : first.sequence = second.sequence :=
      UInt64.toNat_inj.mp (congrArg (fun key => (ofLex (ofLex key).2).1) hKey)
    have hMem := left.perm_sorted.mem_iff.mp hFirst
    have hOther := hPerm.mem_iff.mpr (right.perm_sorted.mem_iff.mp hSecond)
    exact List.inj_on_of_nodup_map hNodup hMem hOther (Prod.ext hLogbook hSequence)
  unfold sorted at hSame ⊢
  simp_all

end OfflineQueueFile

namespace JsonOfflineMutationQueue

theorem loadFile_of_contents {disk other : QueueDisk} (h : disk.contents {} = other.contents {}) :
    loadFile disk = loadFile other := by
  unfold loadFile
  rw [h]

theorem loadFile_holding (value : OfflineQueueFile) (loaded : OfflineQueueFile) :
    loadFile (.holding value) = .ok loaded ↔ value.validate = .ok () ∧ value.sorted = loaded := by
  rw [loadFile_eq_ok_iff]
  constructor
  · rintro ⟨stored, hStored, h⟩
    obtain rfl : value = stored := Option.some.inj hStored
    exact h
  · intro h
    exact ⟨value, rfl, h⟩

/-- What an ordinary call does depends on the queue that it loads. -/
theorem outcome_of_loadFile [UuidCrate] [LegacyQueueJson] {disk other : QueueDisk}
    {call : QueueCall} (hCall : call.recovers = false) (h : loadFile disk = loadFile other) :
    call.outcome disk = call.outcome other := by
  cases call with
  | recoverOrInitialize => cases hCall
  | loadSnapshot => simp only [QueueCall.outcome, loadSnapshot, h]
  | enqueueInput => simp only [QueueCall.outcome, enqueueInput, h]
  | enqueue => simp only [QueueCall.outcome, enqueue, h]
  | recordLocalEvent => simp only [QueueCall.outcome, recordLocalEvent, h]
  | markSending => simp only [QueueCall.outcome, markSending, updateMutation, h]
  | recordTransientFailure =>
      simp only [QueueCall.outcome, recordTransientFailure, updateMutation, h]
  | markBlocked => simp only [QueueCall.outcome, markBlocked, updateMutation, h]
  | markFailed => simp only [QueueCall.outcome, markFailed, updateMutation, h]
  | markUserActionRequired =>
      simp only [QueueCall.outcome, markUserActionRequired, updateMutation, h]
  | markAccepted => simp only [QueueCall.outcome, markAccepted, updateMutation, h]
  | markAcceptedByEventHashes => simp only [QueueCall.outcome, markAcceptedByEventHashes, h]
  | recoverInterruptedWrites => simp only [QueueCall.outcome, recoverInterruptedWrites, h]
  | readyToSend => simp only [QueueCall.outcome, readyToSend, h]
  | readyEventBatch => simp only [QueueCall.outcome, readyEventBatch, h]

/-! Recovery on a disk that has a queue file. -/

/-- What recovery goes on with: the disk after its renames, and the queue. -/
abbrev RecoveryBase :=
  QueueDisk × Outcome OfflineQueueError (OfflineQueueRecoveryReport × OfflineQueueFile)

/-- Two recoveries go on with the same queue file and the same queue, and where
they find no queue file any more they go on with an empty queue. -/
structure RecoversAlike (left right : RecoveryBase) : Prop where
  file : left.1.file = right.1.file
  queue : left.2.map Prod.snd = right.2.map Prod.snd
  missing : left.1.file = none → left.2.map Prod.snd = .ok {}

theorem recoversAlike_quarantine {disk other : QueueDisk}
    (report report' : OfflineQueueRecoveryReport) :
    RecoversAlike (quarantineQueue disk report) (quarantineQueue other report') :=
  ⟨rfl, rfl, fun _ => rfl⟩

theorem recoverInterruptedAtomicWrite_of_file {disk : QueueDisk} (hFile : disk.file ≠ none) :
    ∃ prepared report, recoverInterruptedAtomicWrite disk = .ok (prepared, report, none) ∧
      prepared.file = disk.file := by
  obtain ⟨diskFile, diskTemp, quarantined⟩ := disk
  cases diskFile with
  | none => exact absurd rfl hFile
  | some content =>
      cases diskTemp with
      | none => exact ⟨_, _, rfl, rfl⟩
      | some temp => exact ⟨_, _, rfl, rfl⟩

/-- An interrupted save that recovery completes is of the queue it goes on with. -/
theorem promoted_of_recovered {disk prepared : QueueDisk} {report : OfflineQueueRecoveryReport}
    {queue : OfflineQueueFile}
    (h : recoverInterruptedAtomicWrite disk = .ok (prepared, report, some queue)) :
    ∃ file, prepared.file = some (.document file) ∧ queue = file.sorted := by
  unfold recoverInterruptedAtomicWrite at h
  split at h
  · cases h
  · split at h
    · split at h
      · cases h
      · cases h
        exact ⟨_, rfl, rfl⟩
    · cases h

section Recovery
variable [UuidCrate]

theorem recoversAlike_legacy {disk other : QueueDisk} (hSame : disk.file = other.file)
    (hFile : disk.file ≠ none) (report report' : OfflineQueueRecoveryReport)
    (legacy : Option LegacyOfflineQueueFileV0) (now : DateTime) :
    RecoversAlike (recoverLegacy disk report legacy now)
      (recoverLegacy other report' legacy now) := by
  cases legacy with
  | none => exact recoversAlike_quarantine report report'
  | some legacy =>
      cases hMigrated : migrateLegacyV02Queue legacy now with
      | error error =>
          simp only [recoverLegacy, hMigrated]
          exact recoversAlike_quarantine report report'
      | ok migrated =>
          simp only [recoverLegacy, hMigrated]
          exact ⟨hSame, rfl, fun hNone => absurd hNone hFile⟩

theorem file_of_legacy (disk : QueueDisk) (report : OfflineQueueRecoveryReport)
    (legacy : Option LegacyOfflineQueueFileV0) (now : DateTime) :
    (recoverLegacy disk report legacy now).1.file = disk.file ∨
      (recoverLegacy disk report legacy now).1.file = none := by
  unfold recoverLegacy
  split
  · exact Or.inr rfl
  · split
    · exact Or.inr rfl
    · exact Or.inl rfl

/-- An empty queue is saved only over an empty queue. -/
theorem empty_of_saved_empty {call : QueueCall} {base next : OfflineQueueFile}
    (h : call.Saves base next) (hNext : next = {}) : base = {} := by
  cases h with
  | revised mutations hMutations =>
      rw [OfflineQueueFile.sorted_eq_empty_iff] at hNext
      have hVersion : base.version = offlineQueueFileVersion :=
        congrArg OfflineQueueFile.version hNext
      have hCounters : base.nextSequenceByLogbook = ∅ :=
        congrArg OfflineQueueFile.nextSequenceByLogbook hNext
      have hNone : mutations = [] := congrArg OfflineQueueFile.mutations hNext
      rw [hNone] at hMutations
      have hBase : base.mutations = [] := List.forall₂_nil_right_iff.mp hMutations
      cases base
      simp_all
  | added mutation counter hAdds =>
      rw [withMutation, OfflineQueueFile.sorted_eq_empty_iff] at hNext
      have hNone := congrArg OfflineQueueFile.mutations hNext
      simp at hNone

variable [LegacyQueueJson]

theorem recoversAlike_of_file {disk other : QueueDisk} (hSame : disk.file = other.file)
    (hFile : disk.file ≠ none) (now : DateTime) :
    RecoversAlike (recoveryBase disk now) (recoveryBase other now) := by
  obtain ⟨prepared, report, hDisk, hPrepared⟩ := recoverInterruptedAtomicWrite_of_file hFile
  rw [hSame] at hFile
  obtain ⟨prepared', report', hOther, hPrepared'⟩ := recoverInterruptedAtomicWrite_of_file hFile
  have hBoth : prepared.file = prepared'.file := hPrepared.trans (hSame.trans hPrepared'.symm)
  have hSome : prepared.file ≠ none := by
    rw [hBoth, hPrepared']
    exact hFile
  simp only [recoveryBase, hDisk, hOther, ← hBoth]
  cases hContent : prepared.file with
  | none => exact absurd hContent hSome
  | some content =>
      cases content with
      | blank => exact ⟨hBoth, rfl, fun _ => rfl⟩
      | unreadable bytes =>
          dsimp only
          split
          · exact recoversAlike_legacy hBoth hSome report report' _ now
          · exact recoversAlike_quarantine report report'
      | document file =>
          dsimp only
          split
          · exact recoversAlike_legacy hBoth hSome report report' _ now
          · split
            · exact ⟨hBoth, rfl, fun hNone => absurd hNone hSome⟩
            · exact ⟨hBoth, rfl, fun hNone => absurd hNone hSome⟩

/-- The queue file after recovery, from what recovery goes on with. -/
theorem file_of_recovery (disk : QueueDisk) (now : DateTime) :
    (queueStore.next disk (.recoverOrInitialize now) none).file =
      match (recoveryBase disk now).2.map Prod.snd with
      | .error _ => (recoveryBase disk now).1.file
      | .ok queue =>
          if (recoverInterruptedWritesInFile queue now).1.sorted.validate = .ok () then
            some (.document (recoverInterruptedWritesInFile queue now).1.sorted)
          else (recoveryBase disk now).1.file := by
  have hPlan : QueueCall.plan disk (.recoverOrInitialize now) =
      ⟨(recoveryBase disk now).1,
        QueueCall.replying .report (recoverOrInitialize disk now).outcome⟩ := rfl
  show ((QueueCall.plan disk (.recoverOrInitialize now)).carryOut disk none).file = _
  rw [hPlan, recoverOrInitialize]
  cases hBase : (recoveryBase disk now).2 with
  | error fault => simp [Plan.carryOut, QueueCall.replying, Except.map, hBase]
  | ok base =>
      cases hValid : (recoverInterruptedWritesInFile base.2 now).1.sorted.validate with
      | error error =>
          simp [Plan.carryOut, QueueCall.replying, Except.map, saveFile, hBase, hValid]
      | ok valid =>
          simp [Plan.carryOut, QueueCall.replying, Except.map, saveFile, hBase, hValid,
            Disk.replace]

/-- Recovery goes on with the queue of the file that its renames leave, if
that queue is of the current version. -/
theorem queue_of_recovery {disk : QueueDisk} {now : DateTime} {old : OfflineQueueFile}
    (hFile : (recoveryBase disk now).1.file = some (.document old))
    (hOld : old.validate = .ok ()) {report : OfflineQueueRecoveryReport}
    {queue : OfflineQueueFile} (hQueue : (recoveryBase disk now).2 = .ok (report, queue)) :
    queue = old ∨ queue = old.sorted := by
  have hVersion : old.version ≠ offlineQueueLegacyV02FileVersion := by
    rw [((OfflineQueueFile.validate_eq_ok_iff old).mp hOld).1]
    decide
  unfold recoveryBase at hFile hQueue
  cases hWrite : recoverInterruptedAtomicWrite disk with
  | error error => simp [hWrite] at hQueue
  | ok result =>
      obtain ⟨prepared, found, recovered⟩ := result
      simp only [hWrite] at hFile hQueue
      cases recovered with
      | some file =>
          obtain ⟨promoted, hPromoted, rfl⟩ := promoted_of_recovered hWrite
          obtain rfl : promoted = old := by
            rw [hPromoted] at hFile
            cases hFile
            rfl
          cases hQueue
          exact Or.inr rfl
      | none =>
          cases hContent : prepared.file with
          | none =>
              simp only [hContent] at hFile
              cases hFile
          | some content =>
              cases content with
              | blank =>
                  simp only [hContent] at hFile
                  cases hFile
              | unreadable bytes =>
                  simp only [hContent] at hFile
                  split at hFile
                  · rcases file_of_legacy prepared found (LegacyQueueJson.fromSlice bytes) now with
                      hSame | hNone
                    · cases hSame.symm.trans hFile |>.symm.trans hContent
                    · cases hNone.symm.trans hFile
                  · cases hFile
              | document file =>
                  simp only [hContent] at hFile hQueue
                  split at hFile
                  · rename_i hLegacy
                    rcases file_of_legacy prepared found (some (.ofCurrent file)) now with
                      hSame | hNone
                    · cases hSame.symm.trans hFile |>.symm.trans hContent
                      exact absurd hLegacy hVersion
                    · cases hNone.symm.trans hFile
                  · rename_i hCurrent
                    rw [if_neg hCurrent] at hQueue
                    cases hValid : file.validate with
                    | error error => simp [hValid] at hQueue
                    | ok valid =>
                        simp only [hValid] at hFile hQueue
                        cases hContent.symm.trans hFile
                        cases hQueue
                        exact Or.inl rfl

/-- A save over an old queue saves a revision of it. -/
theorem saves_of_savesOver {disk : QueueDisk} {call : QueueCall} {old value : OfflineQueueFile}
    {cut : Option Cut} (h : queueStore.SavesOver disk call old value cut) :
    ∃ base, (base = old ∨ base = old.sorted) ∧ call.Saves base value ∧
      value.validate = .ok () := by
  obtain ⟨reply, hSaved⟩ := h.saved
  obtain ⟨loaded, hLoad⟩ := h.readable
  obtain ⟨hOld, rfl⟩ := (loadFile_holding old loaded).mp hLoad
  obtain ⟨base, hBase, hSaves, hValid⟩ := saves hSaved
  refine ⟨base, ?_, hSaves, hValid⟩
  cases hCall : call.recovers with
  | false =>
      have hFile : (call.plan disk).prepared.file = some (.document old) := h.file
      rw [prepared_of_ordinary hCall] at hFile
      have hContents : disk.contents {} = (Disk.holding old).contents {} :=
        Disk.contents_of_file hFile
      have hDisk : loadFile disk = .ok old.sorted :=
        (loadFile_of_contents hContents).trans ((loadFile_holding old _).mpr ⟨hOld, rfl⟩)
      have hSame : call.base disk = loadFile disk := by
        cases call with
        | recoverOrInitialize => cases hCall
        | _ => rfl
      rw [hSame, hDisk] at hBase
      cases hBase
      exact Or.inr rfl
  | true =>
      cases call with
      | recoverOrInitialize now =>
          obtain ⟨⟨report, queue⟩, hQueue, rfl⟩ := (except_map_eq_ok_iff _ _ _).mp hBase
          exact queue_of_recovery h.file hOld hQueue
      | _ => cases hCall

/-- Recovery goes on with the queue of a file that is of the current version. -/
theorem recoveryBase_holding {value : OfflineQueueFile} (hValue : value.validate = .ok ())
    (now : DateTime) : recoveryBase (.holding value) now = (.holding value, .ok ({}, value)) := by
  have hVersion : value.version ≠ offlineQueueLegacyV02FileVersion := by
    rw [((OfflineQueueFile.validate_eq_ok_iff value).mp hValue).1]
    decide
  simp only [recoveryBase, recoverInterruptedAtomicWrite, Disk.holding, hVersion, if_false, hValue]

theorem queue_promotes {value : OfflineQueueFile} (hValue : value.validate = .ok ()) :
    queueStore.Promotes value := by
  intro disk call hCall hFile hTemp
  cases call with
  | recoverOrInitialize now =>
      have hDisk : recoveryBase disk now =
          ({ disk with file := some (.document value), temp := none },
            .ok ({ promotedInterruptedAtomicWrite := true }, value.sorted)) := by
        simp only [recoveryBase, recoverInterruptedAtomicWrite, hFile, hTemp, hValue]
      have hHolding := recoveryBase_holding hValue now
      constructor
      · show (recoveryBase disk now).2.map _ = (recoveryBase (.holding value) now).2.map _
        rw [hDisk, hHolding]
        exact congrArg Except.ok value.sorted_sorted
      · have hSame : (recoverInterruptedWritesInFile value.sorted now).1.sorted =
            (recoverInterruptedWritesInFile value now).1.sorted := by
          have hSorted := validate_recovered ((value.validate_sorted).mpr hValue) now
          rw [OfflineQueueFile.validate_sorted, OfflineQueueFile.validate_eq_ok_iff] at hSorted
          exact OfflineQueueFile.sorted_congr rfl rfl (value.perm_sorted.map _) hSorted.2.2
        rw [file_of_recovery, file_of_recovery, hDisk, hHolding]
        simp only [Except.map, hSame]
        rfl
  | _ => cases hCall

/-- A recovery that finds no queue file leaves an empty queue. -/
theorem file_of_recovery_ne_none {disk : QueueDisk} {now : DateTime}
    (h : (recoveryBase disk now).1.file = none →
      (recoveryBase disk now).2.map Prod.snd = .ok {}) :
    (queueStore.next disk (.recoverOrInitialize now) none).file ≠ none := by
  have hEmpty : (recoverInterruptedWritesInFile {} now).1.sorted.validate = .ok () := rfl
  rw [file_of_recovery]
  by_cases hFile : (recoveryBase disk now).1.file = none
  · rw [h hFile]
    simp [hEmpty]
  · split
    · exact hFile
    · split
      · simp
      · exact hFile

theorem lawful_queueStore : queueStore.Lawful where
  load_of_contents _ _ h := loadFile_of_contents h
  load_eq_empty_iff value := by
    have hEmpty := value.sorted_eq_empty_iff
    refine (loadFile_holding value {}).trans ⟨fun h => hEmpty.mp h.2, ?_⟩
    rintro rfl
    exact ⟨rfl, rfl⟩
  ordinary_outcome _ _ _ hCall h := outcome_of_loadFile hCall (loadFile_of_contents h)
  ordinary_prepared _ _ hCall := prepared_of_ordinary hCall
  recovering_of_file disk other call hCall hSame hFile := by
    cases call with
    | recoverOrInitialize now =>
        have hAlike := recoversAlike_of_file hSame hFile now
        have hNext := (file_of_recovery disk now).trans
          (by rw [hAlike.queue, hAlike.file, ← file_of_recovery other now])
        refine ⟨?_, hNext, ?_⟩
        · have hMap : ∀ base : RecoveryBase, (base.2.map fun result => result.2.sorted) =
              (base.2.map Prod.snd).map OfflineQueueFile.sorted := by
            rintro ⟨_, fault | result⟩
            · rfl
            · rfl
          show (recoveryBase disk now).2.map _ = (recoveryBase other now).2.map _
          rw [hMap, hMap, hAlike.queue]
        · exact file_of_recovery_ne_none hAlike.missing
    | _ => cases hCall
  saves disk call old value cut h := by
    obtain ⟨base, hBase, hSaves, hValid⟩ := saves_of_savesOver h
    refine ⟨fun hEmpty => ?_, queue_promotes hValid⟩
    have hNone := empty_of_saved_empty hSaves hEmpty
    rcases hBase with rfl | rfl
    · exact hNone
    · exact old.sorted_eq_empty_iff.mp hNone

theorem queue_grows : queueStore.Grows OfflineQueueFile.Keeps where
  refl _ old hOld := ⟨old, hOld, rfl⟩
  trans first second third h h' := by
    intro old hOld
    obtain ⟨middle, hMiddle, hFirst⟩ := h old hOld
    obtain ⟨new, hNew, hSecond⟩ := h' middle hMiddle
    exact ⟨new, hNew, hSecond.trans hFirst⟩
  observes value loaded call hLoad := by
    obtain ⟨hValue, rfl⟩ := (loadFile_holding value loaded).mp hLoad
    refine ⟨value.sorted, ?_, fun old hOld => ⟨old, (value.mem_sorted old).mpr hOld, rfl⟩⟩
    cases call with
    | recoverOrInitialize now =>
        show (recoveryBase (.holding value) now).2.map _ = _
        rw [recoveryBase_holding hValue now]
        rfl
    | _ => exact hLoad
  prepared value loaded call hLoad := by
    obtain ⟨hValue, rfl⟩ := (loadFile_holding value loaded).mp hLoad
    cases call with
    | recoverOrInitialize now =>
        show (recoveryBase (.holding value) now).1.file = _
        rw [recoveryBase_holding hValue now]
        rfl
    | _ => rfl
  saves disk call old value cut h := by
    obtain ⟨base, hBase, hSaves, hValid⟩ := saves_of_savesOver h
    refine ⟨fun mutation hMutation => ?_, _, (loadFile_holding value _).mpr ⟨hValid, rfl⟩⟩
    have hMem : mutation ∈ base.mutations := by
      rcases hBase with rfl | rfl
      · exact hMutation
      · exact (old.mem_sorted mutation).mpr hMutation
    obtain ⟨new, hNew, rfl | hRevises⟩ := hSaves.mem hMem
    · exact ⟨new, hNew, rfl⟩
    · exact ⟨new, hNew, hRevises.identity⟩

end Recovery

end JsonOfflineMutationQueue

/-! The other two stores save no empty document. -/

theorem lawful_trustStore [UuidCrate] [Sha2Crate] : trustStore.Lawful where
  read_eq_empty_iff value := by
    refine readTrustFile_eq_ok_iff.trans ⟨fun h => Option.some.inj h.1, ?_⟩
    rintro rfl
    exact ⟨rfl, rfl⟩
  perform_ne_empty call loaded reply h := by
    have hPerform : TrustCall.perform call loaded = .ok (reply, some {}) := h
    obtain ⟨file, now, request, hWritten⟩ : ∃ file now request,
        TrustCall.written file now request = .ok (reply, {}) := by
      cases loaded with
      | error fault =>
          cases call with
          | write request now =>
              cases request with
              | issue _ _ _ approvedByOperator => cases approvedByOperator <;> cases hPerform
              | accept | trust | rotate | authorize | revoke => cases hPerform
          | trustedPeer | snapshot => cases hPerform
      | ok file =>
          cases call with
          | write request now =>
              obtain ⟨next, hNext, hWritten⟩ := written_of_perform hPerform
              cases hNext
              exact ⟨file, now, request, hWritten⟩
          | trustedPeer =>
              obtain ⟨device, _, hPair⟩ := (except_map_eq_ok_iff _ _ _).mp hPerform
              cases hPair
          | snapshot => cases hPerform
    obtain ⟨_, hEffect⟩ := TrustCall.effect_of_written hWritten
    cases hEffect with
    | issued expires tokens scope => simp at tokens
    | @accepted acceptance token device next found fresh inTime code tokens peer granted scope =>
        have hScope := scope acceptance.peerDeviceId
        rw [if_pos rfl] at hScope
        cases hScope
    | @trusted update device next tokens peer granted scope =>
        have hScope := scope update.peerDeviceId
        rw [if_pos rfl] at hScope
        cases hScope
    | rotated tokens scope found => exact found rfl
    | authorized tokens scope found => exact found rfl
    | revoked tokens scope found => exact found rfl

theorem lawful_reviewStore [Sha2Crate] [ConflictReportJson] : reviewStore.Lawful where
  read_eq_empty_iff value := by
    constructor
    · intro h
      have hRead : JsonConflictReviewStore.readFile (some value) = .ok {} := h
      obtain ⟨stored, hStored, _, hSorted⟩ := JsonConflictReviewStore.readFile_eq_ok_iff.mp hRead
      cases hStored
      have hPerm := value.perm_sorted
      rw [hSorted] at hPerm
      have hVersion : value.version = conflictReviewFileVersion :=
        congrArg ConflictReviewFile.version hSorted
      have hReviews : value.reviews = [] := hPerm.symm.eq_nil
      cases value
      simp_all
      rfl
    · rintro rfl
      rfl
  perform_ne_empty call loaded reply h := by
    have hPerform : ReviewCall.perform call loaded = .ok (reply, some {}) := h
    cases loaded with
    | error error => cases hPerform
    | ok file =>
        rcases JsonConflictReviewStore.onFile_eq_ok hPerform with
          ⟨report, now, random, value, rfl, hCreate⟩ |
          ⟨reviewId, resolution, now, value, rfl, hResolve⟩
        · obtain ⟨_, hNext, _⟩ := JsonConflictReviewStore.createReview_eq_ok hCreate
          have hMem : ManualConflictReview.new report now random ∈
              (ConflictReviewFile.sorted
                { file with reviews := file.reviews ++ [.new report now random] }).reviews :=
            (ConflictReviewFile.mem_sorted _ _).mpr (List.mem_append_right _ List.mem_cons_self)
          rw [← hNext] at hMem
          cases hMem
        · obtain ⟨review, hFound, hNext, _⟩ := JsonConflictReviewStore.resolveReview_eq_ok hResolve
          obtain ⟨new, hNew, _⟩ := exists_right_of_forall₂
            (@forall₂_updateFirst _ (fun existing => existing.reviewId = reviewId)
              (fun _ => review.resolve resolution now) file.reviews)
            (List.mem_of_find?_eq_some hFound)
          have hMem := (ConflictReviewFile.mem_sorted
            (JsonConflictReviewStore.setReview file reviewId (review.resolve resolution now))
            new).mpr hNew
          rw [← hNext] at hMem
          cases hMem

section Theorem
variable [UuidCrate] [LegacyQueueJson] [Sha2Crate] [ConflictReportJson]

/-- A save over an old document survives the point that it came to, and no
acknowledged mutation is lost, unless it was cut off after the removal of the
old file and before the renaming. Then it survives only if nothing is called
any more, or the next call is the recovery of the queue, or the old document
was empty. -/
theorem interrupted_saves_survive_iff :
    (∀ disk call old value cut calls, queueStore.SavesOver disk call old value cut →
      ((queueStore.Survives disk call old value cut calls ∧
          ∀ seen ∈ queueStore.observations (queueStore.next disk call cut) calls,
            ∃ queue, seen = .ok queue ∧ (if cut = none then value else old).Keeps queue) ↔
        cut ≠ some .oldRemoved ∨ calls = [] ∨
          (∃ first ∈ calls.head?, first.recovers = true) ∨ old = {})) ∧
    (∀ disk call old value cut calls, trustStore.store.SavesOver disk call old value cut →
      (trustStore.store.Survives disk call old value cut calls ↔
        cut ≠ some .oldRemoved ∨ calls = [] ∨ old = {})) ∧
    ∀ disk call old value cut calls, reviewStore.store.SavesOver disk call old value cut →
      (reviewStore.store.Survives disk call old value cut calls ↔
        cut ≠ some .oldRemoved ∨ calls = [] ∨ old = {}) := by
  refine ⟨?_, fun _ _ _ _ _ calls h => trustStore.survives_iff lawful_trustStore h calls,
    fun _ _ _ _ _ calls h => reviewStore.survives_iff lawful_reviewStore h calls⟩
  intro disk call old value cut calls h
  have hSurvives := queueStore.survives_iff lawful_queueStore h calls
  refine ⟨fun hBoth => hSurvives.mp hBoth.1, fun hCondition => ?_⟩
  have hKept := hSurvives.mpr hCondition
  exact ⟨hKept, hKept.extends queue_grows lawful_queueStore h⟩

end Theorem

section
open Crates

/-- An operation for a logbook, with a key of its own. -/
def secondInput : OfflineMutationInput :=
  { sampleInput 1 8 with idempotencyKey := some "second" }

/-- A second mutation is queued, and the save is cut off before the renaming. -/
theorem secondInput_savesOver :
    ∃ old value, old ≠ {} ∧ queueStore.SavesOver
      (queueStore.next {} (.enqueueInput (sampleInput 1 7) epoch 0) none)
      (.enqueueInput secondInput epoch 0) old value (some .oldRemoved) := by
  obtain ⟨disk, hDisk⟩ : ∃ disk, disk =
      queueStore.next {} (.enqueueInput (sampleInput 1 7) epoch 0) none := ⟨_, rfl⟩
  obtain ⟨old, hOld, hSome⟩ : ∃ old, disk.file = some (.document old) ∧ old.mutations ≠ [] := by
    rw [hDisk]
    exact ⟨_, rfl, List.cons_ne_nil _ _⟩
  obtain ⟨loaded, hLoad⟩ : ∃ loaded, loadFile disk = .ok loaded := by
    rw [hDisk]
    exact ⟨_, rfl⟩
  obtain ⟨reply, value, hSaved⟩ : ∃ reply value, (queueStore.plan disk
      (.enqueueInput secondInput epoch 0)).outcome = .ok (reply, some value) := by
    rw [hDisk]
    exact ⟨_, _, rfl⟩
  have hContents : (Disk.holding old).contents {} = disk.contents {} :=
    Disk.contents_of_file hOld.symm
  have hReadable := (loadFile_of_contents hContents).trans hLoad
  refine ⟨old, value, ?_, ?_⟩
  · rintro rfl
    exact hSome rfl
  · rw [← hDisk]
    exact ⟨hOld, nofun, ⟨loaded, hReadable⟩, reply, hSaved⟩

theorem interrupted_saves_survive_contact :
    let disk := queueStore.next {} (.enqueueInput (sampleInput 1 7) epoch 0) none
    ∃ old value, queueStore.Survives disk (.enqueueInput secondInput epoch 0) old value
      (some .oldRemoved) [.recoverOrInitialize epoch] := by
  intro disk
  obtain ⟨old, value, _, hOver⟩ := secondInput_savesOver
  have hSurvives := interrupted_saves_survive_iff.1 disk _ old value _
    [.recoverOrInitialize epoch] hOver
  exact ⟨old, value, (hSurvives.mpr (Or.inr (Or.inr (Or.inl ⟨_, rfl, rfl⟩)))).1⟩

/-- A queue whose saving is cut off before the renaming is empty for the next
call, and if that call queues another mutation, the acknowledged one is lost
for good. -/
theorem crash_before_rename_loses_mutation :
    let disk := queueStore.next {} (.enqueueInput (sampleInput 1 7) epoch 0) none
    let crashed := queueStore.next disk (.enqueueInput secondInput epoch 0) (some .oldRemoved)
    let third := { sampleInput 1 9 with idempotencyKey := some "third" }
    let later := queueStore.finish crashed
      [.enqueueInput third epoch 0, .recoverOrInitialize epoch]
    (∃ old value, queueStore.SavesOver disk (.enqueueInput secondInput epoch 0) old value
        (some .oldRemoved) ∧
      ¬ queueStore.Survives disk (.enqueueInput secondInput epoch 0) old value
        (some .oldRemoved) [.loadSnapshot epoch]) ∧
    (∃ reply, queueStore.answer {} (.enqueueInput (sampleInput 1 7) epoch 0) none =
      .ok (.mutation reply) ∧ reply.operationId = 7) ∧
    loadFile crashed = .ok {} ∧
    (loadFile later).map (fun queue => queue.mutations.map fun mutation => mutation.operationId) =
      .ok [9] := by
  intro disk crashed third later
  obtain ⟨old, value, hSome, hOver⟩ := secondInput_savesOver
  refine ⟨⟨old, value, hOver, fun hSurvives => ?_⟩, ⟨_, rfl, rfl⟩, rfl, by decide⟩
  rcases (queueStore.survives_iff lawful_queueStore hOver _).mp hSurvives with
    hCut | hCalls | ⟨first, hFirst, hRecovers⟩ | hEmpty
  · exact hCut rfl
  · cases hCalls
  · cases hFirst
    cases hRecovers
  · exact hSome hEmpty

end

end HamLogger
