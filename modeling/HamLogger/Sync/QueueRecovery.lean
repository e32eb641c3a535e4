import HamLogger.Sync.QueueSequences

/-! Recovery from the bytes of a queue file: which documents are given back as
an error with the file left in place, and which legacy documents are migrated
without a loss. -/
namespace HamLogger

open FileReplace (Content Cut Disk Plan)
open JsonOfflineMutationQueue

/-- serde_json on the bytes of a queue file: any document, and a queue file of
the current shape. A document may also be read as a file of version 0. -/
class QueueJson where
  value : List UInt8 → Option Value
  file : List UInt8 → Option OfflineQueueFile
  legacy : Value → Option LegacyOfflineQueueFileV0

/-- `u8::is_ascii_whitespace`. -/
def isAsciiWhitespace (byte : UInt8) : Bool :=
  byte ∈ [9, 10, 12, 13, 32]

/-- The version is cut off to 32 bits before it is compared. -/
def isLegacyV02Value (value : Value) : Bool :=
  ((value.get "version").bind Value.asU64).map UInt64.toUInt32 =
    some offlineQueueLegacyV02FileVersion

/-- White space is no document, and the typed decoders read the version that
the document has. -/
class LawfulQueueJson [QueueJson] : Prop where
  blank : ∀ bytes, bytes.all isAsciiWhitespace = true → QueueJson.value bytes = none
  version : ∀ bytes value file, QueueJson.value bytes = some value →
    QueueJson.file bytes = some file →
      value.get "version" = some (.number (.posInt file.version.toUInt64))
  legacyVersion : ∀ value legacy, QueueJson.legacy value = some legacy →
    ∃ version : UInt32, value.get "version" = some (.number (.posInt version.toUInt64))

section Bytes
variable [QueueJson]

instance QueueJson.legacyQueueJson : LegacyQueueJson where
  isLegacyV02Queue bytes := (QueueJson.value bytes).any isLegacyV02Value
  fromSlice bytes := (QueueJson.value bytes).bind QueueJson.legacy

/-- What bytes are to recovery, which tries version 0 before the current shape. -/
def contentOf (bytes : List UInt8) : Content OfflineQueueFile :=
  if bytes.all isAsciiWhitespace then .blank
  else if LegacyQueueJson.isLegacyV02Queue bytes then .unreadable bytes
  else match QueueJson.file bytes with
    | some file => .document file
    | none => .unreadable bytes

end Bytes

/-- Where there is a queue file, recovery moves a temporary file aside and
leaves the queue file. -/
theorem recoverInterruptedAtomicWrite_of_file {disk : QueueDisk}
    {content : Content OfflineQueueFile} (hFile : disk.file = some content) : ∃ prepared report,
      recoverInterruptedAtomicWrite disk = .ok (prepared, report, none) ∧
        prepared.file = disk.file ∧ report.quarantinedCorruptFile = false ∧
          report.initializedEmptyQueue = false := by
  unfold recoverInterruptedAtomicWrite
  split
  · exact ⟨disk, {}, rfl, rfl, rfl, rfl⟩
  · split
    · next hMissing _ =>
        rw [hFile] at hMissing
        cases hMissing
    · exact ⟨_, _, rfl, rfl, rfl, rfl⟩

section Recovery
variable [UuidCrate] [LegacyQueueJson] {disk : QueueDisk} {bytes : List UInt8}

/-- Recovery from bytes that are no file of the current shape. -/
theorem recoveryBase_of_unreadable (hFile : disk.file = some (.unreadable bytes))
    (now : DateTime) : ∃ prepared report, prepared.file = disk.file ∧
      report.quarantinedCorruptFile = false ∧ report.initializedEmptyQueue = false ∧
        recoveryBase disk now =
          if LegacyQueueJson.isLegacyV02Queue bytes then
            recoverLegacy prepared report (LegacyQueueJson.fromSlice bytes) now
          else quarantineQueue prepared report := by
  obtain ⟨prepared, report, hPrepared, hSame, hCorrupt, hEmpty⟩ :=
    recoverInterruptedAtomicWrite_of_file hFile
  refine ⟨prepared, report, hSame, hCorrupt, hEmpty, ?_⟩
  simp only [recoveryBase, hPrepared, hSame, hFile]

/-- Recovery from a file of another version than the current one and 0. -/
theorem recoveryBase_of_version {file : OfflineQueueFile}
    (hFile : disk.file = some (.document file))
    (hLegacy : file.version ≠ offlineQueueLegacyV02FileVersion)
    (hCurrent : file.version ≠ offlineQueueFileVersion) (now : DateTime) :
    ∃ prepared, prepared.file = disk.file ∧ recoveryBase disk now =
      (prepared, .error (.error (.unsupportedFileVersion file.version))) := by
  obtain ⟨prepared, report, hPrepared, hSame, _⟩ := recoverInterruptedAtomicWrite_of_file hFile
  have hInvalid : file.validate = .error (.unsupportedFileVersion file.version) := if_pos hCurrent
  refine ⟨prepared, hSame, ?_⟩
  simp only [recoveryBase, hPrepared, hSame, hFile, if_neg hLegacy, hInvalid]

/-- Recovery returns an error and leaves the queue file as it is. -/
def FailsClosed (disk : QueueDisk) (now : DateTime) : Prop :=
  (∃ error, (recoverOrInitialize disk now).outcome = .error (.error error)) ∧
    (recoverOrInitialize disk now).prepared.file = disk.file

/-- A queue file that is moved aside is not left as it is. -/
theorem not_failsClosed_of_quarantined {now : DateTime} (prepared : QueueDisk)
    (report : OfflineQueueRecoveryReport)
    (h : recoveryBase disk now = quarantineQueue prepared report) : ¬FailsClosed disk now := by
  rintro ⟨⟨error, hError⟩, _⟩
  simp only [recoverOrInitialize, h, quarantineQueue] at hError
  cases hError

end Recovery

section Versions
variable [UuidCrate] [QueueJson] [LawfulQueueJson]

/-- A document with another version than 0 and 1 is refused and left in place
exactly when the rest of it has the current shape. -/
theorem fails_closed_iff {bytes : List UInt8} {fields : Fields} {version : Number}
    (hValue : QueueJson.value bytes = some (.object fields))
    (hVersion : Fields.get fields "version" = some (.number version))
    (hZero : version ≠ .posInt 0) (hOne : version ≠ .posInt 1) {disk : QueueDisk}
    (hFile : disk.file = some (contentOf bytes)) (now : DateTime) :
    FailsClosed disk now ↔ (QueueJson.file bytes).isSome = true := by
  have hNotBlank : ¬ bytes.all isAsciiWhitespace = true := by
    intro hBlank
    rw [LawfulQueueJson.blank bytes hBlank] at hValue
    cases hValue
  have hGet : (Value.object fields).get "version" = some (.number version) := hVersion
  cases hTyped : QueueJson.file bytes with
  | some file =>
      refine iff_of_true ?_ rfl
      have hSame := hGet.symm.trans (LawfulQueueJson.version bytes _ file hValue hTyped)
      obtain rfl : version = .posInt file.version.toUInt64 := by simpa using hSame
      have hLegacy : file.version ≠ offlineQueueLegacyV02FileVersion := by
        intro hIs
        exact hZero (by rw [hIs]; rfl)
      have hCurrent : file.version ≠ offlineQueueFileVersion := by
        intro hIs
        exact hOne (by rw [hIs]; rfl)
      have hOther : LegacyQueueJson.isLegacyV02Queue bytes = false := by
        simp [LegacyQueueJson.isLegacyV02Queue, hValue, isLegacyV02Value, hGet, Value.asU64,
          hLegacy]
      have hContent : contentOf bytes = .document file := by
        simp [contentOf, hNotBlank, hOther, hTyped]
      rw [hContent] at hFile
      obtain ⟨prepared, hPrepared, hBase⟩ := recoveryBase_of_version hFile hLegacy hCurrent now
      unfold FailsClosed recoverOrInitialize
      rw [hBase]
      exact ⟨⟨_, rfl⟩, hPrepared⟩
  | none =>
      refine iff_of_false ?_ (by simp)
      have hContent : contentOf bytes = .unreadable bytes := by
        simp [contentOf, hNotBlank, hTyped]
      rw [hContent] at hFile
      obtain ⟨prepared, report, _, _, _, hBase⟩ := recoveryBase_of_unreadable hFile now
      refine not_failsClosed_of_quarantined prepared report ?_
      rw [hBase]
      split
      · next hLegacy =>
          -- a version that is cut off to 0 is no version of a legacy file
          have hUnread : LegacyQueueJson.fromSlice bytes = none := by
            simp only [LegacyQueueJson.fromSlice, hValue, Option.bind_some]
            cases hRead : QueueJson.legacy (.object fields) with
            | none => rfl
            | some legacy =>
                obtain ⟨number, hNumber⟩ := LawfulQueueJson.legacyVersion _ legacy hRead
                have hSame := hGet.symm.trans hNumber
                obtain rfl : version = .posInt number.toUInt64 := by simpa using hSame
                have hCut : number = offlineQueueLegacyV02FileVersion := by
                  simpa [LegacyQueueJson.isLegacyV02Queue, hValue, isLegacyV02Value, hGet,
                    Value.asU64] using hLegacy
                exact absurd (by rw [hCut]; rfl) hZero
          rw [hUnread]
          rfl
      · rfl

end Versions

/-! A document of version 2 with no other field. -/

def futureBytes : List UInt8 :=
  [123, 34, 118, 101, 114, 115, 105, 111, 110, 34, 58, 50, 125]

def futureFields : Fields := [("version", .number (.posInt 2))]

/-- The decoders on these bytes. -/
@[reducible] def futureQueueJson : QueueJson where
  value bytes := if bytes = futureBytes then some (.object futureFields) else none
  file _ := none
  legacy _ := none

theorem lawful_futureQueueJson : @LawfulQueueJson futureQueueJson :=
  letI := futureQueueJson
  { blank := by
      intro bytes hBlank
      refine if_neg fun hSame => ?_
      rw [hSame] at hBlank
      revert hBlank
      decide
    version := fun _ _ _ _ h => (by cases h)
    legacyVersion := fun _ _ h => (by cases h) }

/-- It is moved aside, and an empty queue takes its place. -/
theorem future_queue_is_emptied :
    letI := Crates.uuidCrate
    letI := futureQueueJson
    QueueJson.value futureBytes = some (.object futureFields) ∧
      (∃ report, (recoverOrInitialize { file := some (contentOf futureBytes) }
        Crates.epoch).outcome = .ok (report, some {}) ∧ report.quarantinedCorruptFile = true) ∧
      ¬FailsClosed { file := some (contentOf futureBytes) } Crates.epoch := by
  let _ := Crates.uuidCrate
  let _ := futureQueueJson
  exact ⟨rfl, ⟨_, rfl, rfl⟩, not_failsClosed_of_quarantined _ _ rfl⟩

theorem fails_closed_iff_future :
    letI := Crates.uuidCrate
    letI := futureQueueJson
    FailsClosed { file := some (contentOf futureBytes) } Crates.epoch ↔
      (QueueJson.file futureBytes).isSome = true := by
  let _ := Crates.uuidCrate
  let _ := futureQueueJson
  have _ := lawful_futureQueueJson
  have hValue : QueueJson.value futureBytes = some (.object futureFields) := rfl
  exact fails_closed_iff hValue rfl (by decide) (by decide) rfl Crates.epoch

end HamLogger
