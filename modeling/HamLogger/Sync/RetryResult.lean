import HamLogger.Library.Program
import HamLogger.Sync.QueueRuns

/-! The result of a retry that the bridge of the mobile client reports to its
queue, applied as updates that are saved one after the other. -/
namespace HamLogger

open FileReplace (Cut Disk)
open JsonOfflineMutationQueue (loadFile)
open Program

/-- How a command of the bridge fails. A panic is contained at its boundary. -/
inductive BridgeFault where
  | invalidInput (message : String)
  | storage (error : OfflineQueueError)
  | internal
  deriving DecidableEq

inductive IosRetryResultKind where
  | accepted | transientFailure | authFailed | validationFailed | diverged | missingLocalEvent
  | permanentFailure
  deriving DecidableEq

structure IosRetryResultRequest where
  logbookId : Option Uuid := none
  operationIds : List Uuid := []
  acceptedEventHashes : List String := []
  result : IosRetryResultKind
  errorCode : Option String := none
  message : Option String := none
  deriving DecidableEq

structure IosRetryResult where
  logbookId : Uuid
  result : IosRetryResultKind
  operationIds : List Uuid
  acceptedCount : Nat
  errorCode : String
  message : String
  affectedMutations : List OfflineMutationEnvelope
  offlineQueue : OfflineQueueSnapshot
  deriving DecidableEq

def defaultLogbookId : Uuid := 0x00000000000040008000000000000001

def defaultIosRetryResultCode : IosRetryResultKind → String
  | .accepted => "accepted"
  | .transientFailure => "transient_transport_failure"
  | .authFailed => "auth_failed"
  | .validationFailed => "validation_failed"
  | .diverged => "diverged"
  | .missingLocalEvent => "missing_local_official_event"
  | .permanentFailure => "permanent_failure"

def defaultIosRetryResultMessage : IosRetryResultKind → String
  | .accepted => "queued events were accepted by the sync peer"
  | .transientFailure => "transient sync transport failure; retry using bounded backoff"
  | .authFailed => "sync authentication failed; operator action is required before retry"
  | .validationFailed => "sync validation failed; operator action is required before retry"
  | .diverged => "sync histories diverged; manual review is required before retry"
  | .missingLocalEvent => "offline mutation has no matching local official event"
  | .permanentFailure => "permanent sync failure; operator action is required before retry"

namespace IosRetryResultRequest

def logbook (request : IosRetryResultRequest) : Uuid :=
  request.logbookId.getD defaultLogbookId

/-- The message of a request, unless it is blank. -/
def reason (request : IosRetryResultRequest) : String :=
  (request.message.filter fun text => trim text ≠ "").getD
    (defaultIosRetryResultMessage request.result)

def code (request : IosRetryResultRequest) : String :=
  (request.errorCode.filter fun text => trim text ≠ "").getD
    (defaultIosRetryResultCode request.result)

end IosRetryResultRequest

abbrev QueueProgram (α : Type) := Program QueueDisk BridgeFault α

/-- A call of the queue, whose save can be cut off. -/
def queueCall {α : Type} (call : QueueDisk → QueueOutcome α) (cut : Option Cut) :
    QueueProgram α :=
  Program.ofFunction fun disk =>
    match call disk with
    | .error (.error error) => (disk, .error (.storage error))
    | .error .panic => (disk, .error .internal)
    | .ok (value, none) => (disk, .ok value)
    | .ok (value, some file) =>
        (disk.replace file cut, if cut.isSome then .error (.storage .io) else .ok value)

/-- One call for each operation. -/
def callEach (call : Uuid → QueueDisk → QueueOutcome OfflineMutationEnvelope) :
    (Nat → Option Cut) → List Uuid → QueueProgram Unit
  | _, [] => pure ()
  | cuts, operationId :: rest => do
      let _ ← queueCall (call operationId) (cuts 0)
      callEach call (fun save => cuts (save + 1)) rest

/-- What a result other than an accepted one asks of the queue for an
operation that it names. -/
def resultCall (request : IosRetryResultRequest) (now : DateTime) (operationId : Uuid) :
    QueueDisk → QueueOutcome OfflineMutationEnvelope :=
  match request.result with
  | .transientFailure => fun disk =>
      JsonOfflineMutationQueue.recordTransientFailure disk operationId request.reason
        (some request.code) now
  | .diverged => fun disk =>
      JsonOfflineMutationQueue.markBlocked disk operationId request.reason now
  | _ => fun disk =>
      JsonOfflineMutationQueue.markUserActionRequired disk operationId request.reason
        (some request.code) now

/-- The number of mutations that the result has marked as accepted. -/
def applyResult (request : IosRetryResultRequest) (now : DateTime) (cuts : Nat → Option Cut) :
    QueueProgram Nat :=
  if request.result = .accepted then
    if request.acceptedEventHashes = [] then
      throw (.invalidInput "accepted_event_hashes are required for accepted retry results")
    else
      queueCall (fun disk => JsonOfflineMutationQueue.markAcceptedByEventHashes disk
        request.acceptedEventHashes now) (cuts 0)
  else do
    callEach (resultCall request now) cuts request.operationIds
    return 0

def syncOfflineQueueRetryResult (request : IosRetryResultRequest) (now : DateTime)
    (cuts : Nat → Option Cut) : QueueProgram IosRetryResult :=
  if request.operationIds = [] then
    throw (.invalidInput "operation_ids must contain at least one operation")
  else do
    let acceptedCount ← applyResult request now cuts
    let snapshot ← queueCall (fun disk => JsonOfflineMutationQueue.loadSnapshot disk now) none
    return { logbookId := request.logbook, result := request.result,
             operationIds := request.operationIds, acceptedCount := acceptedCount,
             errorCode := request.code, message := request.reason,
             affectedMutations := snapshot.mutations.filter fun mutation =>
               mutation.operationId ∈ request.operationIds
             offlineQueue := snapshot }

/-! What the queue file shows afterwards. -/

/-- A result does what it names, and an error does nothing. -/
structure AppliesAsNamed (request : IosRetryResultRequest) (disk later : QueueDisk)
    (outcome : Except BridgeFault IosRetryResult) : Prop where
  named : ∀ before after, loadFile disk = .ok before → loadFile later = .ok after →
    (after.mutations.filter fun mutation => mutation.operationId ∉ request.operationIds).Perm
      (before.mutations.filter fun mutation => mutation.operationId ∉ request.operationIds)
  settled : ∀ reply after, outcome = .ok reply → loadFile later = .ok after →
    ∀ mutation ∈ after.mutations, mutation.operationId ∈ request.operationIds →
      mutation.status ≠ .sending
  logbook : request.result = .accepted →
    ∀ before after, loadFile disk = .ok before → loadFile later = .ok after →
      (after.mutations.filter fun mutation => mutation.logbookId ≠ request.logbook).Perm
        (before.mutations.filter fun mutation => mutation.logbookId ≠ request.logbook)
  refused : ∀ fault, outcome = .error fault → later.file = disk.file

/-- A cut that leaves the queue file as it was. -/
def KeepsFile (disk : QueueDisk) (cut : Cut) : Prop :=
  cut = .oldRemoved → disk.file = none

/-- The mutations with the hashes of the result are named by it and belong to
its logbook, and those that are named and Sending have one of its hashes. -/
def CoversHashes (request : IosRetryResultRequest) (file : OfflineQueueFile) : Prop :=
  ∀ mutation ∈ file.mutations,
    (JsonOfflineMutationQueue.acceptedByHash request.acceptedEventHashes mutation = true →
      mutation.operationId ∈ request.operationIds ∧ mutation.logbookId = request.logbook) ∧
    (mutation.operationId ∈ request.operationIds → mutation.status = .sending →
      JsonOfflineMutationQueue.acceptedByHash request.acceptedEventHashes mutation = true)

/-- The queue has the operation, and the next attempt is an instant that the
clock has. -/
def Reachable (request : IosRetryResultRequest) (now : DateTime) (file : OfflineQueueFile)
    (operationId : Uuid) : Prop :=
  ∃ mutation, file.findMutation operationId = some mutation ∧
    (request.result = .transientFailure → mutation.attempts < mutation.maxAttempts →
      (now.addSeconds mutation.retryDelay).isSome = true)

/-- Every operation can be reached and saved, and none that is Sending is
hidden by another one of the same identifier. -/
def CoversOperations (request : IosRetryResultRequest) (now : DateTime) (cuts : Nat → Option Cut)
    (file : OfflineQueueFile) : Prop :=
  (∀ operationId ∈ request.operationIds, Reachable request now file operationId) ∧
  (∀ save < request.operationIds.length, cuts save = none) ∧
  ∀ mutation ∈ file.mutations, mutation.operationId ∈ request.operationIds →
    mutation.status = .sending → file.findMutation mutation.operationId = some mutation

/-- The first operation is refused, or its save leaves the file as it was. -/
def StopsAtFirst (request : IosRetryResultRequest) (now : DateTime) (cuts : Nat → Option Cut)
    (disk : QueueDisk) (file : OfflineQueueFile) : Prop :=
  ∀ first ∈ request.operationIds.head?, Reachable request now file first →
    ∃ cut, cuts 0 = some cut ∧ KeepsFile disk cut

/-- When a result is applied as it is meant. -/
def Covers (request : IosRetryResultRequest) (now : DateTime) (cuts : Nat → Option Cut)
    (disk : QueueDisk) : Prop :=
  ∀ file, loadFile disk = .ok file →
    if request.result = .accepted then
      request.operationIds ≠ [] → request.acceptedEventHashes ≠ [] →
        match cuts 0 with
        | none => CoversHashes request file
        | some cut => KeepsFile disk cut
    else CoversOperations request now cuts file ∨ StopsAtFirst request now cuts disk file

end HamLogger
