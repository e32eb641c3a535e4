import HamLogger.Sync.CloudService
import HamLogger.Sync.QueueRuns

/-! A push of the desktop client to its cloud server: of the events of the
mutations that are ready, or of the whole log. What the server answers is then
written into the queue. -/
namespace HamLogger

open FileReplace (Cut Disk)
open JsonOfflineMutationQueue

/-- The client of a logbook with its server. -/
structure CloudClient [UuidCrate] where
  logbookId : Uuid
  cloudAuth : Option CloudAuth
  localEvents : List CoreEventEnvelope
  offlineQueue : QueueDisk
  cloudServer : InMemoryCloudState

inductive CloudPushMode where
  | manual | autoDrainQueueOnly
  deriving DecidableEq

def CloudPushMode.queueOnly : CloudPushMode → Bool
  | .manual => false
  | .autoDrainQueueOnly => true

/-- What a push comes to. An answer of the server comes with the events that
were pushed. -/
inductive CloudPushReply where
  | notConnected
  | queueNotReadable (error : OfflineQueueError)
  | noReadyMutations
  | missingLocalEvent
  | pushed (events : List CoreEventEnvelope) (push : CloudPushEventsResponse)
  | failed (error : CloudSyncError)

/-- A call of the queue whose error is ignored. A panic is not. -/
def ignoring {α : Type} (call : QueueDisk → QueueOutcome α) (disk : QueueDisk) :
    Option QueueDisk :=
  match call disk with
  | .error .panic => none
  | .error (.error _) => some disk
  | .ok (_, none) => some disk
  | .ok (_, some file) => some (disk.replace file none)

def ignoringEach (call : Uuid → QueueDisk → QueueOutcome OfflineMutationEnvelope) :
    List Uuid → QueueDisk → Option QueueDisk
  | [], disk => some disk
  | operationId :: rest, disk => (ignoring (call operationId) disk).bind (ignoringEach call rest)

/-- The events of a push, the whole log where no mutation is ready. -/
def pushedEvents (localEvents : List CoreEventEnvelope) (batch : OfflinePushBatch) :
    List CoreEventEnvelope :=
  if batch.events.isEmpty then localEvents else batch.events

def OfflinePushBatch.queuedHashes (batch : OfflinePushBatch) : List String :=
  batch.events.map CoreEventEnvelope.eventHash

section Settle
variable [UuidCrate]

/-- What the queue is told of the answer of the server. -/
def settlePush (batch : OfflinePushBatch) (now : DateTime) (queue : QueueDisk) :
    Except CloudSyncError CloudPushEventsResponse → Option QueueDisk
  | .ok push =>
      if push.errors.isEmpty then
        ignoring (fun disk => markAcceptedByEventHashes disk batch.queuedHashes now) queue
      else if push.status = .diverged then
        ignoringEach (fun operationId disk => markBlocked disk operationId
          (push.errors.head?.getD "cloud divergence detected") now) batch.operationIds queue
      else
        ignoringEach (fun operationId disk => markUserActionRequired disk operationId
          (push.errors.head?.getD "cloud push rejected") (some "cloud_push_rejected") now)
          batch.operationIds queue
  | .error error =>
      ignoringEach (fun operationId disk => recordTransientFailure disk operationId
        error.display (some "cloud_push_failed") now) batch.operationIds queue

variable [RustFmt] [CanonicalJson] [Sha2Crate]

/-- The part of a push that reaches the server. -/
def sendBatch (client : CloudClient) (auth : CloudAuth) (batch : OfflinePushBatch)
    (now : DateTime) : Option (CloudClient × CloudPushReply) := do
  let queue ← ignoringEach (fun operationId disk => markSending disk operationId now)
    batch.operationIds client.offlineQueue
  let events := pushedEvents client.localEvents batch
  let (server, response) :=
    InMemoryCloudSyncServer.pushEvents client.cloudServer auth client.logbookId events now
  let queue ← settlePush batch now queue response
  return ({ client with offlineQueue := queue, cloudServer := server },
    match response with
    | .ok push => .pushed events push
    | .error error => .failed error)

/-- Nothing comes of a push that panics. -/
def runCloudPush (client : CloudClient) (mode : CloudPushMode) (now : DateTime) :
    Option (CloudClient × CloudPushReply) :=
  match client.cloudAuth with
  | none => some (client, .notConnected)
  | some auth =>
      match readyEventBatch client.offlineQueue client.logbookId client.localEvents now with
      | .error .panic => none
      | .error (.error error) => some (client, .queueNotReadable error)
      | .ok (batch, _) => do
          let queue ← ignoringEach (fun operationId disk =>
            markUserActionRequired disk operationId
              "offline mutation has no matching local official event"
              (some "missing_local_official_event") now)
            batch.missingLocalEventOperationIds client.offlineQueue
          let client := { client with offlineQueue := queue }
          if mode.queueOnly && batch.events.isEmpty &&
              batch.missingLocalEventOperationIds.isEmpty then
            return (client, .noReadyMutations)
          else if mode.queueOnly && batch.events.isEmpty then
            return (client, .missingLocalEvent)
          else sendBatch client auth batch now

end Settle
end HamLogger
