import HamLogger.Sync.QueueRecovery
import Mathlib.Logic.Function.Basic

/-! When the migration of a legacy queue keeps every record. Records with and
without a number share the counters of one pass, so a number that does not
ascend makes two records collide, and of two lists of records only one is read. -/
namespace HamLogger

open FileReplace (Content Cut Disk Plan)
open JsonOfflineMutationQueue

namespace LegacyOfflineMutationV0

/-- What a record may say next to its operation type and its number. -/
structure Acceptable (record : LegacyOfflineMutationV0) : Prop where
  idempotencyKey : ∀ key, record.idempotencyKey = some key → trim key ≠ ""
  dependencies : ∀ dependency ∈ record.dependencies, ∀ version,
    dependency.minimumSchemaVersion = some version → version ≤ offlineMutationSchemaVersion

/-- The number of a record: its own one, or the next after the numbers that
were reached in its logbook. -/
def number (reached : Uuid → Nat) (record : LegacyOfflineMutationV0) : Nat :=
  record.sequence.elim (reached record.logbookId + 1) UInt64.toNat

/-- The numbers of the records ascend in each logbook and do not run out. -/
def Ascending : (Uuid → Nat) → List LegacyOfflineMutationV0 → Prop
  | _, [] => True
  | reached, record :: rest =>
      reached record.logbookId < record.number reached ∧ record.number reached < 2 ^ 64 ∧
        Ascending (Function.update reached record.logbookId (record.number reached)) rest

/-- An envelope keeps what a record says. -/
structure KeptBy (record : LegacyOfflineMutationV0) (envelope : OfflineMutationEnvelope) :
    Prop where
  operationId : envelope.operationId = record.operationId
  logbookId : envelope.logbookId = record.logbookId
  payload : envelope.payload = record.payload
  dependencies : envelope.dependencies = record.dependencies
  localEventHash : envelope.localEventHash = record.localEventHash
  sequence : ∀ sequence, record.sequence = some sequence → envelope.sequence = sequence

end LegacyOfflineMutationV0

open LegacyOfflineMutationV0 (Acceptable Ascending KeptBy)

/-- Within each logbook the sequences ascend in the order of the list. -/
def AscendingEnvelopes (envelopes : List OfflineMutationEnvelope) : Prop :=
  envelopes.Pairwise fun first second =>
    first.logbookId = second.logbookId → first.sequence < second.sequence

/-- Envelopes that keep the records and ascend show that the numbers do. -/
theorem ascending_of_envelopes {records : List LegacyOfflineMutationV0}
    {envelopes : List OfflineMutationEnvelope} {reached : Uuid → Nat}
    (hKept : List.Forall₂ KeptBy records envelopes) (hAscending : AscendingEnvelopes envelopes)
    (hReached : ∀ envelope ∈ envelopes, reached envelope.logbookId < envelope.sequence.toNat) :
    Ascending reached records := by
  induction hKept generalizing reached with
  | nil => trivial
  | @cons record envelope records envelopes hHead hRest ih =>
      obtain ⟨hFirst, hLater⟩ := List.pairwise_cons.mp hAscending
      have hBound := envelope.sequence.toNat_lt
      have hAbove := hReached envelope List.mem_cons_self
      rw [hHead.logbookId] at hAbove
      have hNumber : reached record.logbookId < record.number reached ∧
          record.number reached ≤ envelope.sequence.toNat := by
        unfold LegacyOfflineMutationV0.number
        cases hSequence : record.sequence with
        | none => exact ⟨Nat.lt_succ_self _, hAbove⟩
        | some sequence =>
            rw [hHead.sequence sequence hSequence] at hAbove ⊢
            exact ⟨hAbove, Nat.le_refl _⟩
      refine ⟨hNumber.1, by omega, ih hLater fun later hMem => ?_⟩
      by_cases hSame : later.logbookId = record.logbookId
      · rw [hSame, Function.update_self]
        have hLess := hFirst later hMem (by rw [hHead.logbookId, hSame])
        rw [UInt64.lt_iff_toNat_lt] at hLess
        omega
      · rw [Function.update_of_ne hSame]
        exact hReached later (List.mem_cons_of_mem _ hMem)

/-- The counters of the pass, as long as the numbers ascend: one above the
number that was reached, or the largest number there is. -/
def Counts (counters : KeyMap Uuid UInt64) (reached : Uuid → Nat) : Prop :=
  ∀ logbookId, ((counters.lookup logbookId).getD 1).toNat =
    min (reached logbookId + 1) (2 ^ 64 - 1)

theorem toNat_saturatingSucc (value : UInt64) :
    (saturatingSucc value).toNat = min (value.toNat + 1) (2 ^ 64 - 1) := by
  have hBound := value.toNat_lt
  unfold saturatingSucc
  split
  · next hTop =>
      rw [hTop]
      rfl
  · next hBelow =>
      have hNot : value.toNat ≠ 18446744073709551615 := fun hEq => hBelow (UInt64.toNat_inj.mp hEq)
      rw [UInt64.toNat_add]
      show (value.toNat + 1) % 2 ^ 64 = _
      omega

/-- A record gets its number. -/
theorem toNat_legacySequence {counters : KeyMap Uuid UInt64} {reached : Uuid → Nat}
    {record : LegacyOfflineMutationV0} (hCounts : Counts counters reached)
    (hBound : record.number reached < 2 ^ 64) :
    (legacySequence counters record).1.toNat = record.number reached := by
  have hCounter := hCounts record.logbookId
  unfold LegacyOfflineMutationV0.number at hBound ⊢
  unfold legacySequence
  cases hSequence : record.sequence with
  | some sequence => rfl
  | none =>
      simp only [hSequence, Option.elim_none] at hBound ⊢
      omega

/-- A counter that is there is no further than the number of the record takes it. -/
theorem le_saturatingSucc_legacySequence {counters : KeyMap Uuid UInt64} {reached : Uuid → Nat}
    {record : LegacyOfflineMutationV0} (hCounts : Counts counters reached)
    (hAbove : reached record.logbookId < record.number reached)
    (hBound : record.number reached < 2 ^ 64) {next : UInt64}
    (hNext : (legacySequence counters record).2.lookup record.logbookId = some next) :
    next ≤ saturatingSucc (legacySequence counters record).1 := by
  have hNumber := toNat_legacySequence hCounts hBound
  have hCounter := hCounts record.logbookId
  rw [UInt64.le_iff_toNat_le, toNat_saturatingSucc, hNumber]
  unfold legacySequence at hNext hNumber
  cases hSequence : record.sequence with
  | some sequence =>
      simp only [hSequence] at hNext
      rw [hNext, Option.getD_some] at hCounter
      omega
  | none =>
      simp only [hSequence, AList.lookup_insert, Option.some.injEq] at hNext hNumber
      rw [← hNext, toNat_saturatingSucc, hNumber]

/-- The counters go on from the number of the record. -/
theorem counts_countLegacy {counters : KeyMap Uuid UInt64} {reached : Uuid → Nat}
    {record : LegacyOfflineMutationV0} (hCounts : Counts counters reached)
    (hAbove : reached record.logbookId < record.number reached)
    (hBound : record.number reached < 2 ^ 64) :
    Counts (countLegacy (legacySequence counters record).2 record.logbookId
        (legacySequence counters record).1)
      (Function.update reached record.logbookId (record.number reached)) := by
  have hNumber := toNat_legacySequence hCounts hBound
  intro logbookId
  by_cases hSame : logbookId = record.logbookId
  · rw [hSame, Function.update_self, countLegacy, AList.lookup_insert, Option.getD_some]
    have hTaken : (saturatingSucc (legacySequence counters record).1).toNat =
        min (record.number reached + 1) (2 ^ 64 - 1) := by
      rw [toNat_saturatingSucc, hNumber]
    split
    · next next hNext =>
        have hLe := le_saturatingSucc_legacySequence hCounts hAbove hBound hNext
        have hMax : max next (saturatingSucc (legacySequence counters record).1) =
            saturatingSucc (legacySequence counters record).1 := if_pos hLe
        rw [hMax, hTaken]
    · exact hTaken
  · rw [Function.update_of_ne hSame, countLegacy, AList.lookup_insert_ne hSame, ← hCounts logbookId]
    unfold legacySequence
    split
    · rfl
    · rw [AList.lookup_insert_ne hSame]

/-- The records that the migration reads. -/
def LegacyOfflineQueueFileV0.read (legacy : LegacyOfflineQueueFileV0) :
    List LegacyOfflineMutationV0 :=
  if legacy.pendingOperations = [] then legacy.mutations else legacy.pendingOperations

theorem LegacyOfflineQueueFileV0.read_eq {legacy : LegacyOfflineQueueFileV0}
    (h : legacy.pendingOperations = [] ∨ legacy.mutations = []) :
    legacy.read = legacy.pendingOperations ++ legacy.mutations := by
  unfold LegacyOfflineQueueFileV0.read
  split
  · next hNone => rw [hNone, List.nil_append]
  · next hSome => rw [h.resolve_left hSome, List.append_nil]

/-- When as many records are read as there are, one of the lists is empty. -/
theorem LegacyOfflineQueueFileV0.one_empty {legacy : LegacyOfflineQueueFileV0}
    (h : legacy.read.length = (legacy.pendingOperations ++ legacy.mutations).length) :
    legacy.pendingOperations = [] ∨ legacy.mutations = [] := by
  by_cases hNone : legacy.pendingOperations = []
  · exact .inl hNone
  · rw [LegacyOfflineQueueFileV0.read, if_neg hNone, List.length_append] at h
    exact .inr (List.length_eq_zero_iff.mp (by omega))

theorem checks_of_validate {mutation : OfflineMutationEnvelope} (h : mutation.validate = .ok ()) :
    trim mutation.idempotencyKey ≠ "" ∧ mutation.sequence ≠ 0 ∧
      OfflineMutationEnvelope.unsupportedDependency mutation.dependencies = none := by
  unfold OfflineMutationEnvelope.validate at h
  split at h
  · cases h
  · split at h
    · cases h
    · split at h
      · cases h
      · next hKey =>
          split at h
          · cases h
          · next hSequence =>
              split at h
              · cases h
              · next hDependencies => exact ⟨hKey, hSequence, hDependencies⟩

theorem recovered_of_idle {file : OfflineQueueFile}
    (h : ∀ mutation ∈ file.mutations, mutation.status ≠ .sending) (now : DateTime) :
    (recoverInterruptedWritesInFile file now).1 = file := by
  have hSame : file.mutations.map (fun mutation =>
      if mutation.status = .sending then
        { mutation with
          status := .retrying, nextAttemptAt := some now, updatedAt := now,
          failureReason := some "recovered interrupted send attempt" }
      else mutation) = file.mutations :=
    (List.map_congr_left fun mutation hMem => if_neg (h mutation hMem)).trans (List.map_id' _)
  rw [recoverInterruptedWritesInFile, hSame]

section Migration
variable [UuidCrate]

/-- The envelopes that the migration of ascending records gives. -/
def migratedFrom (now : DateTime) :
    (Uuid → Nat) → List LegacyOfflineMutationV0 → List OfflineMutationEnvelope
  | _, [] => []
  | reached, record :: rest =>
      migratedEnvelope record (UInt64.ofNat (record.number reached)) now ::
        migratedFrom now (Function.update reached record.logbookId (record.number reached)) rest

theorem validate_migratedEnvelope {record : LegacyOfflineMutationV0} (h : record.Acceptable)
    (hType : trim record.operationType ≠ "") {sequence : UInt64} (hSequence : sequence ≠ 0)
    (now : DateTime) : (migratedEnvelope record sequence now).validate = .ok () := by
  have hKey : trim (migratedEnvelope record sequence now).idempotencyKey ≠ "" := by
    unfold migratedEnvelope
    cases hSome : record.idempotencyKey with
    | some key => exact h.idempotencyKey key hSome
    | none =>
        have hColon : isWhitespace ':' = false := by decide
        refine trim_ne_empty (c := ':') ?_ hColon
        simp
  have hDependencies : OfflineMutationEnvelope.unsupportedDependency
      (migratedEnvelope record sequence now).dependencies = none := by
    refine List.findSome?_eq_none_iff.mpr fun dependency hMem => ?_
    refine Option.filter_eq_none_iff.mpr fun version hVersion => ?_
    have hLe := h.dependencies dependency hMem version hVersion
    simpa using hLe
  have hSchema : (migratedEnvelope record sequence now).schemaVersion =
      offlineMutationSchemaVersion := rfl
  have hOperation : trim (migratedEnvelope record sequence now).operationType ≠ "" := hType
  have hNumber : (migratedEnvelope record sequence now).sequence ≠ 0 := hSequence
  rw [OfflineMutationEnvelope.validate, if_neg (not_not.mpr hSchema), if_neg hOperation,
    if_neg hKey, if_neg hNumber, hDependencies]

theorem acceptable_of_validate {record : LegacyOfflineMutationV0} {sequence : UInt64}
    {now : DateTime} (h : (migratedEnvelope record sequence now).validate = .ok ()) :
    record.Acceptable := by
  obtain ⟨hKey, _, hDependencies⟩ := checks_of_validate h
  refine ⟨fun key hSome => ?_, fun dependency hMem version hVersion => ?_⟩
  · simpa [migratedEnvelope, hSome] using hKey
  · have hNone := List.findSome?_eq_none_iff.mp hDependencies dependency hMem
    have hNot := Option.filter_eq_none_iff.mp hNone version hVersion
    simpa using hNot

/-- A migration that succeeds takes over every record of its list. -/
theorem migrateRecords_eq_ok {now : DateTime} {records : List LegacyOfflineMutationV0}
    {counters final : KeyMap Uuid UInt64} {migrated result : List OfflineMutationEnvelope}
    (h : migrateRecords now records counters migrated = .ok (final, result)) :
    result.length = migrated.length + records.length ∧ ∀ record ∈ records, record.Acceptable := by
  induction records generalizing counters migrated with
  | nil =>
      cases h
      simp
  | cons record rest ih =>
      unfold migrateRecords at h
      dsimp only at h
      split at h
      · cases h
      · split at h
        · cases h
        · next hValid =>
            obtain ⟨hLength, hRest⟩ := ih h
            rw [List.length_append, List.length_singleton] at hLength
            refine ⟨by rw [hLength, List.length_cons]; omega, fun other hMem => ?_⟩
            rcases List.mem_cons.mp hMem with rfl | hOther
            · exact acceptable_of_validate hValid
            · exact hRest other hOther

/-- Ascending records are all taken over, each under its number. -/
theorem migrateRecords_of_ascending {now : DateTime} {records : List LegacyOfflineMutationV0}
    {reached : Uuid → Nat} {counters : KeyMap Uuid UInt64}
    (hAcceptable : ∀ record ∈ records, record.Acceptable)
    (hTypes : ∀ record ∈ records, trim record.operationType ≠ "")
    (hAscending : Ascending reached records) (hCounts : Counts counters reached)
    (migrated : List OfflineMutationEnvelope) : ∃ final,
      migrateRecords now records counters migrated =
        .ok (final, migrated ++ migratedFrom now reached records) := by
  induction records generalizing reached counters migrated with
  | nil => exact ⟨counters, by rw [migrateRecords, migratedFrom, List.append_nil]⟩
  | cons record rest ih =>
      obtain ⟨hAbove, hBound, hRest⟩ := hAscending
      have hNumber := toNat_legacySequence hCounts hBound
      have hNonzero : (legacySequence counters record).1 ≠ 0 := by
        intro hZero
        rw [hZero] at hNumber
        have hNone : (0 : UInt64).toNat = 0 := rfl
        omega
      have hSame : UInt64.ofNat (record.number reached) = (legacySequence counters record).1 := by
        rw [← hNumber, UInt64.ofNat_toNat]
      have hValid := validate_migratedEnvelope (hAcceptable record List.mem_cons_self)
        (hTypes record List.mem_cons_self) hNonzero now
      obtain ⟨final, hFinal⟩ := ih
        (fun other hMem => hAcceptable other (List.mem_cons_of_mem _ hMem))
        (fun other hMem => hTypes other (List.mem_cons_of_mem _ hMem)) hRest
        (counts_countLegacy hCounts hAbove hBound)
        (migrated ++ [migratedEnvelope record (legacySequence counters record).1 now])
      refine ⟨final, ?_⟩
      unfold migrateRecords
      dsimp only
      rw [if_neg hNonzero, hValid]
      dsimp only
      rw [hFinal, migratedFrom, hSame, List.append_assoc, List.singleton_append]

/-- Their envelopes keep the records. -/
theorem kept_migratedFrom {now : DateTime} {records : List LegacyOfflineMutationV0}
    {reached : Uuid → Nat} (hAscending : Ascending reached records) :
    List.Forall₂ KeptBy records (migratedFrom now reached records) := by
  induction records generalizing reached with
  | nil => exact .nil
  | cons record rest ih =>
      obtain ⟨_, hBound, hRest⟩ := hAscending
      refine .cons ⟨rfl, rfl, rfl, rfl, rfl, fun sequence hSequence => ?_⟩ (ih hRest)
      have hNumber : record.number reached = sequence.toNat := by
        rw [LegacyOfflineMutationV0.number, hSequence, Option.elim_some]
      show UInt64.ofNat (record.number reached) = sequence
      rw [hNumber, UInt64.ofNat_toNat]

/-- They ascend above the numbers that were reached before. -/
theorem ascending_migratedFrom {now : DateTime} {records : List LegacyOfflineMutationV0}
    {reached : Uuid → Nat} (hAscending : Ascending reached records) :
    AscendingEnvelopes (migratedFrom now reached records) ∧
      ∀ envelope ∈ migratedFrom now reached records,
        reached envelope.logbookId < envelope.sequence.toNat := by
  induction records generalizing reached with
  | nil => exact ⟨.nil, by simp [migratedFrom]⟩
  | cons record rest ih =>
      obtain ⟨hAbove, hBound, hRest⟩ := hAscending
      obtain ⟨hLater, hReached⟩ := ih hRest
      have hSequence : (UInt64.ofNat (record.number reached)).toNat = record.number reached :=
        UInt64.toNat_ofNat_of_lt' hBound
      refine ⟨List.pairwise_cons.mpr ⟨fun envelope hMem hSame => ?_, hLater⟩,
        fun envelope hMem => ?_⟩
      · have hNext := hReached envelope hMem
        have hLogbook : envelope.logbookId = record.logbookId := hSame.symm
        rw [hLogbook, Function.update_self] at hNext
        rw [UInt64.lt_iff_toNat_lt]
        show (UInt64.ofNat (record.number reached)).toNat < _
        rw [hSequence]
        exact hNext
      · rcases List.mem_cons.mp hMem with rfl | hOther
        · show reached record.logbookId < (UInt64.ofNat (record.number reached)).toNat
          rw [hSequence]
          exact hAbove
        · have hNext := hReached envelope hOther
          by_cases hSame : envelope.logbookId = record.logbookId
          · rw [hSame, Function.update_self] at hNext
            rw [hSame]
            exact Nat.lt_trans hAbove hNext
          · rw [Function.update_of_ne hSame] at hNext
            exact hNext

/-- None of them is being sent. -/
theorem status_migratedFrom {now : DateTime} {records : List LegacyOfflineMutationV0}
    {reached : Uuid → Nat} :
    ∀ envelope ∈ migratedFrom now reached records, envelope.status ≠ .sending := by
  induction records generalizing reached with
  | nil => simp [migratedFrom]
  | cons record rest ih =>
      intro envelope hMem
      rcases List.mem_cons.mp hMem with rfl | hOther
      · show (if record.localEventHash.isSome then OfflineMutationStatus.retrying else .pending) ≠ _
        split <;> decide
      · exact ih envelope hOther

theorem valid_migratedFrom {now : DateTime} {records : List LegacyOfflineMutationV0}
    {reached : Uuid → Nat} (hAcceptable : ∀ record ∈ records, record.Acceptable)
    (hTypes : ∀ record ∈ records, trim record.operationType ≠ "")
    (hAscending : Ascending reached records) :
    ∀ envelope ∈ migratedFrom now reached records, envelope.validate = .ok () := by
  induction records generalizing reached with
  | nil => simp [migratedFrom]
  | cons record rest ih =>
      obtain ⟨hAbove, hBound, hRest⟩ := hAscending
      intro envelope hMem
      rcases List.mem_cons.mp hMem with rfl | hOther
      · refine validate_migratedEnvelope (hAcceptable record List.mem_cons_self)
          (hTypes record List.mem_cons_self) (fun hZero => ?_) now
        have hNumber : (UInt64.ofNat (record.number reached)).toNat = record.number reached :=
          UInt64.toNat_ofNat_of_lt' hBound
        rw [hZero] at hNumber
        have hNone : (0 : UInt64).toNat = 0 := rfl
        omega
      · exact ih (fun other h => hAcceptable other (List.mem_cons_of_mem _ h))
          (fun other h => hTypes other (List.mem_cons_of_mem _ h)) hRest envelope hOther

theorem migrateLegacyV02Queue_eq_ok {legacy : LegacyOfflineQueueFileV0} {now : DateTime}
    {file : OfflineQueueFile} {count : Nat}
    (h : migrateLegacyV02Queue legacy now = .ok (file, count)) :
    file.mutations.length = legacy.read.length ∧ ∀ record ∈ legacy.read, record.Acceptable := by
  unfold migrateLegacyV02Queue at h
  dsimp only at h
  split at h
  · cases h
  · next counters migrated hRecords =>
      obtain ⟨hLength, hAcceptable⟩ := migrateRecords_eq_ok hRecords
      split at h
      · cases h
      · cases h
        refine ⟨?_, hAcceptable⟩
        rw [(OfflineQueueFile.perm_sorted _).length_eq, LegacyOfflineQueueFileV0.read]
        simpa using hLength

/-- The file that the migration of ascending records gives. -/
theorem migrateLegacyV02Queue_of_ascending {legacy : LegacyOfflineQueueFileV0}
    (hAcceptable : ∀ record ∈ legacy.read, record.Acceptable)
    (hTypes : ∀ record ∈ legacy.read, trim record.operationType ≠ "")
    (hAscending : Ascending (fun _ => 0) legacy.read) (now : DateTime) : ∃ file,
      migrateLegacyV02Queue legacy now = .ok (file, file.mutations.length) ∧
        file.validate = .ok () ∧
          file.mutations.Perm (migratedFrom now (fun _ => 0) legacy.read) := by
  obtain ⟨counters, hRecords⟩ : ∃ counters, migrateRecords now legacy.read ∅ [] =
      .ok (counters, [] ++ migratedFrom now (fun _ => 0) legacy.read) :=
    migrateRecords_of_ascending hAcceptable hTypes hAscending (fun _ => rfl) []
  have hNodup : ((migratedFrom now (fun _ => 0) legacy.read).map
      OfflineMutationEnvelope.sequenceKey).Nodup := by
    refine List.pairwise_map.mpr ((ascending_migratedFrom hAscending).1.imp ?_)
    intro first second hLess hSame
    obtain ⟨hLogbook, hSequence⟩ := Prod.mk.inj hSame
    exact absurd hSequence (UInt64.ne_of_lt (hLess hLogbook))
  have hValid : (OfflineQueueFile.sorted
      { nextSequenceByLogbook := counters
        mutations := migratedFrom now (fun _ => 0) legacy.read }).validate = .ok () := by
    rw [OfflineQueueFile.validate_sorted, OfflineQueueFile.validate_eq_ok_iff]
    exact ⟨rfl, valid_migratedFrom hAcceptable hTypes hAscending, hNodup⟩
  refine ⟨_, ?_, hValid, OfflineQueueFile.perm_sorted _⟩
  have hRead : (if legacy.pendingOperations = [] then legacy.mutations
    else legacy.pendingOperations) = legacy.read := rfl
  simp only [migrateLegacyV02Queue, hRead, hRecords, List.nil_append, hValid]

end Migration

theorem contentOf_of_legacy [QueueJson] [LawfulQueueJson] {bytes : List UInt8} {value : Value}
    (hValue : QueueJson.value bytes = some value) (hVersion : isLegacyV02Value value = true) :
    contentOf bytes = .unreadable bytes ∧ LegacyQueueJson.isLegacyV02Queue bytes = true ∧
      LegacyQueueJson.fromSlice bytes = QueueJson.legacy value := by
  have hNotBlank : ¬ bytes.all isAsciiWhitespace = true := by
    intro hBlank
    rw [LawfulQueueJson.blank bytes hBlank] at hValue
    cases hValue
  have hLegacy : LegacyQueueJson.isLegacyV02Queue bytes = true := by
    simp [LegacyQueueJson.isLegacyV02Queue, hValue, hVersion]
  refine ⟨?_, hLegacy, by simp [LegacyQueueJson.fromSlice, hValue]⟩
  rw [contentOf, if_neg hNotBlank, if_pos hLegacy]

section Recovery
variable [UuidCrate]

/-- Recovery takes over every record of a legacy file into one envelope each,
with numbers in the order of the file, and puts no file aside. -/
def MigratesAll [LegacyQueueJson] (disk : QueueDisk) (legacy : LegacyOfflineQueueFileV0)
    (now : DateTime) : Prop :=
  ∃ report file envelopes, (recoverOrInitialize disk now).outcome = .ok (report, some file) ∧
    (recoverOrInitialize disk now).prepared.file = disk.file ∧
      report.quarantinedCorruptFile = false ∧ report.initializedEmptyQueue = false ∧
        envelopes.Perm file.mutations ∧ AscendingEnvelopes envelopes ∧
          List.Forall₂ KeptBy (legacy.pendingOperations ++ legacy.mutations) envelopes

/-- Recovery goes on with a queue in which nothing is being sent. -/
theorem recoverOrInitialize_of_idle [LegacyQueueJson] {disk prepared : QueueDisk} {now : DateTime}
    {report : OfflineQueueRecoveryReport} {file : OfflineQueueFile}
    (hBase : recoveryBase disk now = (prepared, .ok (report, file)))
    (hIdle : ∀ mutation ∈ file.mutations, mutation.status ≠ .sending)
    (hValid : file.validate = .ok ()) : ∃ final : OfflineQueueRecoveryReport,
      (recoverOrInitialize disk now).outcome = .ok (final, some file.sorted) ∧
        (recoverOrInitialize disk now).prepared = prepared ∧
          final.quarantinedCorruptFile = report.quarantinedCorruptFile ∧
            final.initializedEmptyQueue = report.initializedEmptyQueue := by
  have hSorted : file.sorted.validate = .ok () := by rw [OfflineQueueFile.validate_sorted, hValid]
  unfold recoverOrInitialize
  rw [hBase]
  dsimp only
  rw [recovered_of_idle hIdle, saveFile, hSorted]
  exact ⟨_, rfl, rfl, rfl, rfl⟩

/-- What recovery from the bytes of a legacy file ends with when it puts no
file aside. -/
theorem migrated_of_outcome [LegacyQueueJson] {disk : QueueDisk} {bytes : List UInt8}
    {legacy : LegacyOfflineQueueFileV0} {now : DateTime} {report : OfflineQueueRecoveryReport}
    {file : OfflineQueueFile} (hFile : disk.file = some (.unreadable bytes))
    (hLegacy : LegacyQueueJson.isLegacyV02Queue bytes = true)
    (hRead : LegacyQueueJson.fromSlice bytes = some legacy)
    (h : (recoverOrInitialize disk now).outcome = .ok (report, some file))
    (hKept : report.quarantinedCorruptFile = false) :
    file.mutations.length = legacy.read.length ∧ (∀ record ∈ legacy.read, record.Acceptable) ∧
      file.validate = .ok () := by
  obtain ⟨prepared, started, _, _, _, hBase⟩ := recoveryBase_of_unreadable hFile now
  rw [if_pos hLegacy, hRead, recoverLegacy] at hBase
  unfold recoverOrInitialize at h
  rw [hBase] at h
  cases hMigrated : migrateLegacyV02Queue legacy now with
  | error error =>
      simp only [hMigrated, quarantineQueue] at h
      obtain ⟨_, rfl, _⟩ := saveFile_eq_ok h
      cases hKept
  | ok result =>
      obtain ⟨migrated, count⟩ := result
      obtain ⟨hLength, hAcceptable⟩ := migrateLegacyV02Queue_eq_ok hMigrated
      simp only [hMigrated] at h
      obtain ⟨hValid, _, hSaved⟩ := saveFile_eq_ok h
      obtain rfl := Option.some.inj hSaved
      refine ⟨?_, hAcceptable, hValid⟩
      rw [(OfflineQueueFile.perm_sorted _).length_eq, ← hLength]
      exact List.length_map _

/-- A migration that fails ends in an empty queue. -/
theorem emptied_of_migration_error [LegacyQueueJson] {disk : QueueDisk} {bytes : List UInt8}
    {legacy : LegacyOfflineQueueFileV0} {now : DateTime} {error : OfflineQueueError}
    (hFile : disk.file = some (.unreadable bytes))
    (hLegacy : LegacyQueueJson.isLegacyV02Queue bytes = true)
    (hRead : LegacyQueueJson.fromSlice bytes = some legacy)
    (h : migrateLegacyV02Queue legacy now = .error error) : ∃ report,
      (recoverOrInitialize disk now).outcome = .ok (report, some {}) ∧
        report.quarantinedCorruptFile = true := by
  obtain ⟨prepared, started, _, _, _, hBase⟩ := recoveryBase_of_unreadable hFile now
  rw [if_pos hLegacy, hRead, recoverLegacy] at hBase
  simp only [h] at hBase
  unfold recoverOrInitialize
  rw [hBase]
  exact ⟨_, rfl, rfl⟩

theorem not_migratesAll [LegacyQueueJson] {disk : QueueDisk} {legacy : LegacyOfflineQueueFileV0}
    {now : DateTime} {report : OfflineQueueRecoveryReport} {saved : Option OfflineQueueFile}
    (h : (recoverOrInitialize disk now).outcome = .ok (report, saved))
    (hMoved : report.quarantinedCorruptFile = true) : ¬MigratesAll disk legacy now := by
  rintro ⟨other, file, envelopes, hOutcome, _, hKept, _⟩
  obtain ⟨rfl, _⟩ := Prod.mk.inj (Except.ok.inj (h.symm.trans hOutcome))
  rw [hMoved] at hKept
  cases hKept

/-- Every record is taken over exactly when one of the two lists is empty, each
record is acceptable, and the numbers ascend. -/
theorem migrates_all_iff [QueueJson] [LawfulQueueJson] {bytes : List UInt8} {value : Value}
    {legacy : LegacyOfflineQueueFileV0} (hValue : QueueJson.value bytes = some value)
    (hVersion : isLegacyV02Value value = true) (hRead : QueueJson.legacy value = some legacy)
    (hTypes : ∀ record ∈ legacy.pendingOperations ++ legacy.mutations,
      trim record.operationType ≠ "")
    {disk : QueueDisk} (hFile : disk.file = some (contentOf bytes)) (now : DateTime) :
    MigratesAll disk legacy now ↔
      (legacy.pendingOperations = [] ∨ legacy.mutations = []) ∧
        (∀ record ∈ legacy.pendingOperations ++ legacy.mutations, record.Acceptable) ∧
          Ascending (fun _ => 0) (legacy.pendingOperations ++ legacy.mutations) := by
  obtain ⟨hContent, hLegacy, hSlice⟩ := contentOf_of_legacy hValue hVersion
  rw [hContent] at hFile
  rw [hRead] at hSlice
  constructor
  · rintro ⟨report, file, envelopes, hOutcome, _, hCorrupt, _, hPerm, hOrder, hKept⟩
    obtain ⟨hLength, hAcceptable, hValid⟩ :=
      migrated_of_outcome hFile hLegacy hSlice hOutcome hCorrupt
    have hOne := LegacyOfflineQueueFileV0.one_empty
      (hLength.symm.trans (hPerm.length_eq.symm.trans hKept.length_eq.symm))
    rw [LegacyOfflineQueueFileV0.read_eq hOne] at hAcceptable
    refine ⟨hOne, hAcceptable, ascending_of_envelopes hKept hOrder fun envelope hMem => ?_⟩
    obtain ⟨_, hAll, _⟩ := (OfflineQueueFile.validate_eq_ok_iff file).mp hValid
    obtain ⟨_, hSequence, _⟩ := checks_of_validate (hAll envelope (hPerm.mem_iff.mp hMem))
    exact UInt64.lt_iff_toNat_lt.mp (UInt64.pos_iff_ne_zero.mpr hSequence)
  · rintro ⟨hOne, hAcceptable, hAscending⟩
    rw [← LegacyOfflineQueueFileV0.read_eq hOne] at hAcceptable hTypes hAscending
    obtain ⟨migrated, hMigrated, hValid, hPerm⟩ :=
      migrateLegacyV02Queue_of_ascending hAcceptable hTypes hAscending now
    have hIdle : ∀ mutation ∈ migrated.mutations, mutation.status ≠ .sending := fun mutation hMem =>
      status_migratedFrom mutation (hPerm.mem_iff.mp hMem)
    obtain ⟨prepared, started, hSame, hCorrupt, hEmpty, hBase⟩ :=
      recoveryBase_of_unreadable hFile now
    rw [if_pos hLegacy, hSlice, recoverLegacy] at hBase
    simp only [hMigrated] at hBase
    obtain ⟨final, hOutcome, hDisk, hFinal, hInitial⟩ :=
      recoverOrInitialize_of_idle hBase hIdle hValid
    refine ⟨final, migrated.sorted, migratedFrom now (fun _ => 0) legacy.read, hOutcome, ?_,
      hFinal.trans hCorrupt, hInitial.trans hEmpty, ?_, (ascending_migratedFrom hAscending).1, ?_⟩
    · rw [hDisk, hSame]
    · exact hPerm.symm.trans (OfflineQueueFile.perm_sorted _).symm
    · rw [← LegacyOfflineQueueFileV0.read_eq hOne]
      exact kept_migratedFrom hAscending

end Recovery

/-! Two records of one logbook, of which only the second has a number: 1. -/

def collidingRecord (operationId : Uuid) (sequence : Option UInt64) : LegacyOfflineMutationV0 where
  operationId := operationId
  correlationId := none
  clientId := none
  deviceId := 2
  logbookId := 3
  entityId := none
  sequence := sequence
  operationType := "qso.create"
  idempotencyKey := none
  dependencies := []
  payload := .null
  createdAt := none
  officialEventId := none
  localEventHash := none

def collidingQueue : LegacyOfflineQueueFileV0 where
  pendingOperations := []
  mutations := [collidingRecord 4 none, collidingRecord 5 (some 1)]

def collidingRecordText (operationId rest : String) : String :=
  "\x7b\"operation_id\":\"" ++ operationId ++
    "\",\"device_id\":\"00000000000000000000000000000002\"" ++
    ",\"logbook_id\":\"00000000000000000000000000000003\"" ++
    ",\"operation_type\":\"qso.create\"" ++ rest ++ "\x7d"

/-- The document, from its opening brace on. -/
def collidingBytes : List UInt8 :=
  123 :: ByteArray.toList (String.toUTF8
    ("\"version\":0,\"mutations\":[" ++
      collidingRecordText "00000000000000000000000000000004" "" ++ "," ++
      collidingRecordText "00000000000000000000000000000005" ",\"sequence\":1" ++ "]\x7d"))

def collidingRecordValue (operationId : String) (sequence : Fields) : Value :=
  .object ([
    ("device_id", .string "00000000000000000000000000000002"),
    ("logbook_id", .string "00000000000000000000000000000003"),
    ("operation_id", .string operationId),
    ("operation_type", .string "qso.create")] ++ sequence)

def collidingValue : Value :=
  .object [
    ("mutations", .array [
      collidingRecordValue "00000000000000000000000000000004" [],
      collidingRecordValue "00000000000000000000000000000005"
        [("sequence", .number (.posInt 1))]]),
    ("version", .number (.posInt 0))]

/-- The decoders on these bytes. -/
@[reducible] def collidingQueueJson : QueueJson where
  value bytes := if bytes = collidingBytes then some collidingValue else none
  file _ := none
  legacy value := if value = collidingValue then some collidingQueue else none

theorem lawful_collidingQueueJson : @LawfulQueueJson collidingQueueJson :=
  letI := collidingQueueJson
  { blank := by
      intro bytes hBlank
      refine if_neg fun hSame => ?_
      rw [hSame, collidingBytes, List.all_cons] at hBlank
      simp [isAsciiWhitespace] at hBlank
    version := fun _ _ _ _ h => (by cases h)
    legacyVersion := by
      intro value legacy hRead
      have hSame : value = collidingValue := by
        by_contra hOther
        rw [show QueueJson.legacy value = none from if_neg hOther] at hRead
        cases hRead
      exact ⟨0, by rw [hSame]; rfl⟩ }

theorem value_collidingBytes : collidingQueueJson.value collidingBytes = some collidingValue :=
  if_pos rfl

theorem legacy_collidingValue : collidingQueueJson.legacy collidingValue = some collidingQueue :=
  if_pos rfl

theorem trim_collidingQueue : ∀ record ∈ collidingQueue.pendingOperations ++
    collidingQueue.mutations, trim record.operationType ≠ "" := by
  decide +kernel

/-- Both records get number 1. The document is put aside, and an empty queue
takes its place. -/
theorem colliding_queue_is_emptied :
    letI := Crates.uuidCrate
    letI := collidingQueueJson
    let disk : QueueDisk := { file := some (contentOf collidingBytes) }
    QueueJson.value collidingBytes = some collidingValue ∧
      isLegacyV02Value collidingValue = true ∧
      QueueJson.legacy collidingValue = some collidingQueue ∧
      (∀ record ∈ collidingQueue.pendingOperations ++ collidingQueue.mutations,
        trim record.operationType ≠ "" ∧ record.sequence ≠ some 0) ∧
      (∃ report, (recoverOrInitialize disk Crates.epoch).outcome = .ok (report, some {}) ∧
        report.quarantinedCorruptFile = true) ∧
      ¬MigratesAll disk collidingQueue Crates.epoch := by
  let _ := Crates.uuidCrate
  let _ := collidingQueueJson
  have _ := lawful_collidingQueueJson
  have hContent := contentOf_of_legacy value_collidingBytes rfl
  have hMigration :
      migrateLegacyV02Queue collidingQueue Crates.epoch = .error (.duplicateSequence 3 1) := by
    decide +kernel
  have hFile : ({ file := some (contentOf collidingBytes) } : QueueDisk).file =
      some (.unreadable collidingBytes) := congrArg some hContent.1
  obtain ⟨report, hOutcome, hMoved⟩ := emptied_of_migration_error hFile hContent.2.1
    (hContent.2.2.trans legacy_collidingValue) hMigration
  refine ⟨value_collidingBytes, rfl, legacy_collidingValue, fun record hMem => ⟨?_, ?_⟩,
    ⟨report, hOutcome, hMoved⟩, not_migratesAll hOutcome hMoved⟩
  · exact trim_collidingQueue record hMem
  · revert record
    decide

theorem migrates_all_iff_colliding :
    letI := Crates.uuidCrate
    letI := collidingQueueJson
    MigratesAll { file := some (contentOf collidingBytes) } collidingQueue Crates.epoch ↔
      (collidingQueue.pendingOperations = [] ∨ collidingQueue.mutations = []) ∧
        (∀ record ∈ collidingQueue.pendingOperations ++ collidingQueue.mutations,
          record.Acceptable) ∧
        Ascending (fun _ => 0)
          (collidingQueue.pendingOperations ++ collidingQueue.mutations) := by
  let _ := Crates.uuidCrate
  let _ := collidingQueueJson
  have _ := lawful_collidingQueueJson
  exact migrates_all_iff value_collidingBytes rfl legacy_collidingValue trim_collidingQueue rfl
    Crates.epoch

end HamLogger
