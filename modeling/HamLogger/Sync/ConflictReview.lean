import HamLogger.Core.Crates
import HamLogger.Library.DocumentStore
import HamLogger.Library.UpdateFirst
import HamLogger.Sync.Pull
import Mathlib.Data.List.Sort
import Mathlib.Data.Prod.Lex

/-! The durable store of conflict reviews: a sync conflict that an operator
has to decide is recorded once as an open review, and resolved by the choice
of the operator. -/
namespace HamLogger

open FileReplace (DocumentStore)

def conflictReviewSchemaVersion : UInt32 := 1

def conflictReviewFileVersion : UInt32 := 1

def maxConflictReviewNoteBytes : Nat := 4096

inductive SyncConflictKind where
  | divergentHeads | missingDependency | unsupportedSchema | concurrentCorrection
  | tombstoneRestore | revokedDevice | manualReviewRequired
  deriving DecidableEq

structure SyncConflict where
  kind : SyncConflictKind
  message : String
  relatedOperationIds : List Uuid
  relatedEventHashes : List String
  safeAutoMerge : Bool
  requiresUserAction : Bool
  resolutionOptions : List String
  deriving DecidableEq

structure SyncConflictReport where
  schemaVersion : UInt32
  createdAt : DateTime
  logbookId : Uuid
  peerId : String
  status : ReplicationStatus
  localHeadHash : Option String
  remoteHeadHash : Option String
  missingEventCount : Nat
  pendingOperationCount : Nat
  conflicts : List SyncConflict
  recommendedAction : String
  deriving DecidableEq

inductive ConflictReviewStatus where
  | opened | resolved
  deriving DecidableEq

inductive ManualConflictResolutionChoice where
  | keepLocalHistory | pullRemoteAfterReview | createCorrectiveEvents
  | retryAfterDependencyArrives | markUserActionRequired
  deriving DecidableEq

/-- An I/O error or a decoding error wraps an error of another library, which
is left out. -/
inductive ConflictReviewError where
  | io
  | serde
  | unsupportedFileVersion (version : UInt32)
  | reviewNotFound (reviewId : Uuid)
  | operatorNoteTooLarge
  | missingCorrectiveEvents
  | unsafeResolution (resolution : ManualConflictResolutionChoice) (status : ReplicationStatus)
  deriving DecidableEq

structure ManualConflictResolution where
  choice : ManualConflictResolutionChoice
  operatorNote : Option String := none
  correctiveEventHashes : List String := []
  resolvedByDeviceId : Option Uuid := none
  deriving DecidableEq

structure ManualConflictReview where
  schemaVersion : UInt32
  reviewId : Uuid
  reportFingerprint : String
  report : SyncConflictReport
  status : ConflictReviewStatus
  selectedResolution : Option ManualConflictResolution
  createdAt : DateTime
  updatedAt : DateTime
  resolvedAt : Option DateTime
  deriving DecidableEq

/-- The order in which a file lists its reviews. -/
def ManualConflictReview.sortKey (review : ManualConflictReview) : Nat ×ₗ Int ×ₗ Nat :=
  toLex (review.report.logbookId.toNat,
    toLex (review.createdAt.nanos, review.reviewId.toNat))

structure ConflictReviewFile where
  version : UInt32 := conflictReviewFileVersion
  reviews : List ManualConflictReview := []
  deriving DecidableEq

namespace ConflictReviewFile

def validate (file : ConflictReviewFile) : Except ConflictReviewError Unit :=
  if file.version ≠ conflictReviewFileVersion then .error (.unsupportedFileVersion file.version)
  else .ok ()

def sorted (file : ConflictReviewFile) : ConflictReviewFile :=
  { file with
    reviews := file.reviews.insertionSort fun left right => left.sortKey ≤ right.sortKey }

theorem perm_sorted (file : ConflictReviewFile) : file.sorted.reviews.Perm file.reviews :=
  List.perm_insertionSort _ _

@[simp] theorem mem_sorted (file : ConflictReviewFile) (review : ManualConflictReview) :
    review ∈ file.sorted.reviews ↔ review ∈ file.reviews :=
  file.perm_sorted.mem_iff

@[simp] theorem validate_sorted (file : ConflictReviewFile) :
    file.sorted.validate = file.validate := rfl

end ConflictReviewFile

structure ConflictReviewHealth where
  total : Nat
  opened : Nat
  resolved : Nat
  deriving DecidableEq

structure ConflictReviewSnapshot where
  fileVersion : UInt32
  reviewSchemaVersion : UInt32
  health : ConflictReviewHealth
  reviews : List ManualConflictReview
  deriving DecidableEq

def snapshotFromReviews (reviews : List ManualConflictReview) : ConflictReviewSnapshot where
  fileVersion := conflictReviewFileVersion
  reviewSchemaVersion := conflictReviewSchemaVersion
  health :=
    { total := reviews.length
      opened := reviews.countP fun review => review.status = .opened
      resolved := reviews.countP fun review => review.status = .resolved }
  reviews := reviews

def validateResolutionForReport (report : SyncConflictReport)
    (resolution : ManualConflictResolution) : Except ConflictReviewError Unit :=
  if resolution.operatorNote.any fun note => maxConflictReviewNoteBytes < note.utf8ByteSize then
    .error .operatorNoteTooLarge
  else if resolution.choice = .createCorrectiveEvents ∧
      resolution.correctiveEventHashes.all fun hash => trim hash = "" then
    .error .missingCorrectiveEvents
  else if resolution.choice = .pullRemoteAfterReview ∧
      (report.status = .diverged ∨
        report.conflicts.any fun conflict => conflict.safeAutoMerge = false) then
    .error (.unsafeResolution resolution.choice report.status)
  else if resolution.choice = .retryAfterDependencyArrives ∧
      ¬ report.conflicts.any fun conflict => conflict.kind = .missingDependency then
    .error (.unsafeResolution resolution.choice report.status)
  else .ok ()

/-- The parts of a report that say what the conflict is. -/
structure ConflictReportFingerprint where
  logbookId : Uuid
  peerId : String
  status : ReplicationStatus
  localHeadHash : Option String
  remoteHeadHash : Option String
  missingEventCount : Nat
  pendingOperationCount : Nat
  conflicts : List SyncConflict

/-- `serde_json::to_vec` of these parts. -/
class ConflictReportJson where
  toVec : ConflictReportFingerprint → List UInt8

namespace Crates

def replicationStatusName : ReplicationStatus → String
  | .inSync => "in_sync"
  | .remoteAhead => "remote_ahead"
  | .pulled => "pulled"
  | .diverged => "diverged"
  | .rejected => "rejected"

def syncConflictKindName : SyncConflictKind → String
  | .divergentHeads => "divergent_heads"
  | .missingDependency => "missing_dependency"
  | .unsupportedSchema => "unsupported_schema"
  | .concurrentCorrection => "concurrent_correction"
  | .tombstoneRestore => "tombstone_restore"
  | .revokedDevice => "revoked_device"
  | .manualReviewRequired => "manual_review_required"

/-- The JSON value of a conflict. -/
def syncConflictValue (conflict : SyncConflict) : Value :=
  .object
    [("kind", .string (syncConflictKindName conflict.kind)), ("message", .string conflict.message),
     ("related_operation_ids",
       .array (conflict.relatedOperationIds.map fun id => .string (displayUuid id))),
     ("related_event_hashes", .array (conflict.relatedEventHashes.map .string)),
     ("safe_auto_merge", .bool conflict.safeAutoMerge),
     ("requires_user_action", .bool conflict.requiresUserAction),
     ("resolution_options", .array (conflict.resolutionOptions.map .string))]

/-- The JSON value of the parts of a report. -/
def fingerprintValue (parts : ConflictReportFingerprint) : Value :=
  .object
    [("logbook_id", .string (displayUuid parts.logbookId)), ("peer_id", .string parts.peerId),
     ("status", .string (replicationStatusName parts.status)),
     ("local_head_hash", parts.localHeadHash.elim .null .string),
     ("remote_head_hash", parts.remoteHeadHash.elim .null .string),
     ("missing_event_count", .number (.posInt (UInt64.ofNat parts.missingEventCount))),
     ("pending_operation_count", .number (.posInt (UInt64.ofNat parts.pendingOperationCount))),
     ("conflicts", .array (parts.conflicts.map syncConflictValue))]

scoped instance conflictReportJson : ConflictReportJson where
  toVec parts := toBytes (writeValue (fingerprintValue parts))

/-- A report of diverged histories whose other fields do not matter. -/
def sampleReport (logbookId : Uuid) : SyncConflictReport where
  schemaVersion := 1
  createdAt := epoch
  logbookId := logbookId
  peerId := "peer"
  status := .diverged
  localHeadHash := none
  remoteHeadHash := none
  missingEventCount := 0
  pendingOperationCount := 0
  conflicts := []
  recommendedAction := ""

end Crates

section Fingerprint
variable [Sha2Crate] [ConflictReportJson]

def conflictReportFingerprint (report : SyncConflictReport) : String :=
  bytesToHex (Sha2Crate.digest (ConflictReportJson.toVec
    { logbookId := report.logbookId, peerId := report.peerId, status := report.status,
      localHeadHash := report.localHeadHash, remoteHeadHash := report.remoteHeadHash,
      missingEventCount := report.missingEventCount,
      pendingOperationCount := report.pendingOperationCount, conflicts := report.conflicts }))

/-- A new review. Its identifier is random. -/
def ManualConflictReview.new (report : SyncConflictReport) (now : DateTime) (random : Uuid) :
    ManualConflictReview where
  schemaVersion := conflictReviewSchemaVersion
  reviewId := random
  reportFingerprint := conflictReportFingerprint report
  report := report
  status := .opened
  selectedResolution := none
  createdAt := now
  updatedAt := now
  resolvedAt := none

end Fingerprint

def ManualConflictReview.resolve (review : ManualConflictReview)
    (resolution : ManualConflictResolution) (now : DateTime) : ManualConflictReview :=
  { review with
    status := .resolved, selectedResolution := some resolution, resolvedAt := some now,
    updatedAt := now }

/-! The operations. Each works on the file as it was read, and returns its
result with the file it saves, if it saves one. -/
namespace JsonConflictReviewStore

def readFile : Option ConflictReviewFile → Except ConflictReviewError ConflictReviewFile
  | none => .error .serde
  | some file =>
      match file.validate with
      | .error error => .error error
      | .ok () => .ok file.sorted

def saveFile {α : Type} (file : ConflictReviewFile) (result : α) :
    Except ConflictReviewError (α × Option ConflictReviewFile) :=
  match file.validate with
  | .error error => .error error
  | .ok () => .ok (result, some file)

def findReview (file : ConflictReviewFile) (reviewId : Uuid) : Option ManualConflictReview :=
  file.reviews.find? fun review => review.reviewId = reviewId

/-- Write through the reference that the search for a review returns. -/
def setReview (file : ConflictReviewFile) (reviewId : Uuid) (review : ManualConflictReview) :
    ConflictReviewFile :=
  { file with
    reviews := updateFirst (fun existing => existing.reviewId = reviewId) (fun _ => review)
      file.reviews }

def createReview [Sha2Crate] [ConflictReportJson] (file : ConflictReviewFile)
    (report : SyncConflictReport) (now : DateTime) (random : Uuid) :
    Except ConflictReviewError (ManualConflictReview × Option ConflictReviewFile) :=
  let fingerprint := conflictReportFingerprint report
  match file.reviews.find? fun review =>
      review.report.logbookId = report.logbookId ∧ review.reportFingerprint = fingerprint ∧
        review.status = .opened with
  | some existing => .ok (existing, none)
  | none =>
      let review := ManualConflictReview.new report now random
      saveFile (ConflictReviewFile.sorted { file with reviews := file.reviews ++ [review] }) review

def resolveReview (file : ConflictReviewFile) (reviewId : Uuid)
    (resolution : ManualConflictResolution) (now : DateTime) :
    Except ConflictReviewError (ManualConflictReview × Option ConflictReviewFile) :=
  match findReview file reviewId with
  | none => .error (.reviewNotFound reviewId)
  | some review =>
      match validateResolutionForReport review.report resolution with
      | .error error => .error error
      | .ok () =>
          let resolved := review.resolve resolution now
          saveFile (setReview file reviewId resolved).sorted resolved

end JsonConflictReviewStore

inductive ReviewCall where
  | loadSnapshot
  | createReview (report : SyncConflictReport) (now : DateTime) (random : Uuid)
  | resolveReview (reviewId : Uuid) (resolution : ManualConflictResolution) (now : DateTime)

inductive ReviewReply where
  | snapshot (snapshot : ConflictReviewSnapshot)
  | review (review : ManualConflictReview)
  deriving DecidableEq

namespace ReviewCall
variable [Sha2Crate] [ConflictReportJson]

/-- What a call does with the file that was read. -/
def onFile (file : ConflictReviewFile) :
    ReviewCall → Except ConflictReviewError (ReviewReply × Option ConflictReviewFile)
  | .loadSnapshot => .ok (.snapshot (snapshotFromReviews file.reviews), none)
  | .createReview report now random =>
      (JsonConflictReviewStore.createReview file report now random).map fun result =>
        (.review result.1, result.2)
  | .resolveReview reviewId resolution now =>
      (JsonConflictReviewStore.resolveReview file reviewId resolution now).map fun result =>
        (.review result.1, result.2)

def perform (call : ReviewCall) :
    Except ConflictReviewError ConflictReviewFile →
      Except ConflictReviewError (ReviewReply × Option ConflictReviewFile)
  | .error error => .error error
  | .ok file => call.onFile file

end ReviewCall

/-- The conflict reviews as a store of one document. -/
def reviewStore [Sha2Crate] [ConflictReportJson] :
    DocumentStore ConflictReviewFile ReviewCall ReviewReply ConflictReviewError where
  empty := {}
  io := .io
  read := JsonConflictReviewStore.readFile
  perform := ReviewCall.perform

namespace JsonConflictReviewStore

theorem readFile_eq_ok_iff {stored : Option ConflictReviewFile} {file : ConflictReviewFile} :
    readFile stored = .ok file ↔
      ∃ value, stored = some value ∧ value.validate = .ok () ∧ value.sorted = file := by
  cases stored with
  | none => simp [readFile]
  | some value =>
      unfold readFile
      cases hValid : value.validate with
      | error error => simp [hValid]
      | ok valid => simp [hValid]

theorem saveFile_eq_ok {α : Type} {file : ConflictReviewFile} {result reply : α}
    {saved : Option ConflictReviewFile} (h : saveFile file result = .ok (reply, saved)) :
    file.validate = .ok () ∧ reply = result ∧ saved = some file := by
  unfold saveFile at h
  cases hValid : file.validate with
  | error error => simp [hValid] at h
  | ok valid =>
      simp only [hValid] at h
      cases h
      exact ⟨rfl, rfl, rfl⟩

/-- What resolving a review saves: the file with that review resolved. -/
theorem resolveReview_eq_ok {file next : ConflictReviewFile} {reviewId : Uuid}
    {resolution : ManualConflictResolution} {now : DateTime} {reply : ManualConflictReview}
    (h : resolveReview file reviewId resolution now = .ok (reply, some next)) :
    ∃ review, findReview file reviewId = some review ∧
      next = (setReview file reviewId (review.resolve resolution now)).sorted ∧
      next.validate = .ok () := by
  unfold resolveReview at h
  split at h
  · cases h
  · rename_i review hFound
    split at h
    · cases h
    · dsimp only at h
      obtain ⟨hValid, _, hNext⟩ := saveFile_eq_ok h
      obtain rfl := Option.some.inj hNext
      exact ⟨review, hFound, rfl, hValid⟩

section Saves
variable [Sha2Crate] [ConflictReportJson]

/-- What creating a review saves: the review, if no open one is about the same
conflict. -/
theorem createReview_eq_ok {file next : ConflictReviewFile} {report : SyncConflictReport}
    {now : DateTime} {random : Uuid} {reply : ManualConflictReview}
    (h : createReview file report now random = .ok (reply, some next)) :
    (∀ review ∈ file.reviews, review.report.logbookId = report.logbookId →
      review.reportFingerprint = conflictReportFingerprint report → review.status ≠ .opened) ∧
    next = ConflictReviewFile.sorted
      { file with reviews := file.reviews ++ [.new report now random] } ∧
    next.validate = .ok () := by
  unfold createReview at h
  dsimp only at h
  split at h
  · cases h
  · rename_i hNone
    obtain ⟨hValid, _, hNext⟩ := saveFile_eq_ok h
    obtain rfl := Option.some.inj hNext
    refine ⟨?_, rfl, hValid⟩
    intro review hMem hLogbook hFingerprint hOpen
    have hNot := List.find?_eq_none.mp hNone review hMem
    exact hNot (decide_eq_true ⟨hLogbook, hFingerprint, hOpen⟩)

/-- What a call saves, if it saves a file at all. -/
theorem onFile_eq_ok {file next : ConflictReviewFile} {call : ReviewCall} {reply : ReviewReply}
    (h : call.onFile file = .ok (reply, some next)) :
    (∃ report now random value, call = .createReview report now random ∧
      createReview file report now random = .ok (value, some next)) ∨
    ∃ reviewId resolution now value, call = .resolveReview reviewId resolution now ∧
      resolveReview file reviewId resolution now = .ok (value, some next) := by
  cases call with
  | loadSnapshot => simp [ReviewCall.onFile] at h
  | createReview report now random =>
      obtain ⟨⟨value, saved⟩, hValue, hPair⟩ := (except_map_eq_ok_iff _ _ _).mp h
      cases hPair
      exact Or.inl ⟨report, now, random, value, rfl, hValue⟩
  | resolveReview reviewId resolution now =>
      obtain ⟨⟨value, saved⟩, hValue, hPair⟩ := (except_map_eq_ok_iff _ _ _).mp h
      cases hPair
      exact Or.inr ⟨reviewId, resolution, now, value, rfl, hValue⟩

end Saves

end JsonConflictReviewStore
end HamLogger
