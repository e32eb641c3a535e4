import HamLogger.Library.FileReplace
import HamLogger.Sync.OfflineQueue

/-! The durable queue: every operation reads the queue file, and returns
either its result with the file it saves, or a fault with nothing saved. Only
startup recovery looks at the temporary file of an interrupted save. -/
namespace HamLogger

open FileReplace (Cut Disk Plan Store)

abbrev QueueDisk := Disk OfflineQueueFile

/-- The outcome of an operation, with the file it saves if it saves one. -/
abbrev QueueOutcome (α : Type) := Outcome OfflineQueueError (α × Option OfflineQueueFile)

structure LegacyOfflineMutationV0 where
  operationId : Uuid
  correlationId : Option Uuid
  clientId : Option Uuid
  deviceId : Uuid
  logbookId : Uuid
  entityId : Option Uuid
  sequence : Option UInt64
  operationType : String
  idempotencyKey : Option String
  dependencies : List OfflineMutationDependency
  payload : Value
  createdAt : Option DateTime
  officialEventId : Option Uuid
  localEventHash : Option String
  deriving DecidableEq

structure LegacyOfflineQueueFileV0 where
  pendingOperations : List LegacyOfflineMutationV0
  mutations : List LegacyOfflineMutationV0
  deriving DecidableEq

/-- serde_json on bytes that are no queue file of the current shape: whether
they are a document of version 0, and that document. -/
class LegacyQueueJson where
  isLegacyV02Queue : List UInt8 → Bool
  fromSlice : List UInt8 → Option LegacyOfflineQueueFileV0

namespace Crates

/-- No bytes are a document of version 0. -/
scoped instance legacyQueueJson : LegacyQueueJson where
  isLegacyV02Queue _ := false
  fromSlice _ := none

end Crates

/-- A queue file of the current shape, read as a file of version 0. -/
def LegacyOfflineQueueFileV0.ofCurrent (file : OfflineQueueFile) : LegacyOfflineQueueFileV0 where
  pendingOperations := []
  mutations := file.mutations.map fun mutation =>
    { operationId := mutation.operationId
      correlationId := some mutation.correlationId
      clientId := some mutation.clientId
      deviceId := mutation.deviceId
      logbookId := mutation.logbookId
      entityId := mutation.entityId
      sequence := some mutation.sequence
      operationType := mutation.operationType
      idempotencyKey := some mutation.idempotencyKey
      dependencies := mutation.dependencies
      payload := mutation.payload
      createdAt := some mutation.createdAt
      officialEventId := mutation.officialEventId
      localEventHash := mutation.localEventHash }

/-- The fields that can name the entity of an operation. -/
def entityFields (operationType : String) : List String :=
  if operationType ∈ ["qso.create", "qso.correct", "qso.delete", "qso.restore", "qso.note.add",
      "proposal.qso.correct", "proposal.qso.delete", "proposal.qso.restore",
      "proposal.qso.note.add", "official.log.qso.corrected", "official.log.qso.deleted",
      "official.log.qso.restored"] then
    ["entity_id", "qso_id"]
  else if operationType ∈ ["activation.start", "activation.end"] then
    ["entity_id", "activation_id"]
  else if operationType ∈ ["net.session.start", "net.session.end"] then
    ["entity_id", "net_session_id"]
  else if operationType ∈ ["net.checkin.create", "net.checkin.delete"] then
    ["entity_id", "checkin_id"]
  else if operationType = "net.traffic.create" then ["entity_id", "traffic_id"]
  else if operationType ∈ ["station.profile.create", "station.profile.select"] then
    ["entity_id", "station_profile_id"]
  else if operationType = "station.equipment.create" then ["entity_id", "equipment_id"]
  else if operationType.startsWith "proposal.activation." then ["entity_id", "activation_id"]
  else if operationType.startsWith "proposal.net.session." then ["entity_id", "net_session_id"]
  else if operationType.startsWith "proposal.net.checkin." then ["entity_id", "checkin_id"]
  else if operationType.startsWith "proposal.net.traffic." then ["entity_id", "traffic_id"]
  else if operationType.startsWith "station.profile." then ["entity_id", "station_profile_id"]
  else if operationType.startsWith "station.equipment." then ["entity_id", "equipment_id"]
  else ["entity_id"]

section Migration
variable [UuidCrate]

def entityIdFromPayloadForOperation (operationType : String) (payload : Value) : Option Uuid :=
  (entityFields operationType).findSome? fun field =>
    ((payload.get field).bind Value.asStr).bind UuidCrate.parseStr

/-- The sequence of a legacy record, and the counters once one is assigned. -/
def legacySequence (counters : KeyMap Uuid UInt64) (record : LegacyOfflineMutationV0) :
    UInt64 × KeyMap Uuid UInt64 :=
  match record.sequence with
  | some sequence => (sequence, counters)
  | none =>
      let next := (counters.lookup record.logbookId).getD 1
      (next, counters.insert record.logbookId (saturatingSucc next))

/-- The counters once a record with this sequence is taken over. -/
def countLegacy (counters : KeyMap Uuid UInt64) (logbookId : Uuid) (sequence : UInt64) :
    KeyMap Uuid UInt64 :=
  counters.insert logbookId <|
    match counters.lookup logbookId with
    | some next => max next (saturatingSucc sequence)
    | none => saturatingSucc sequence

def migratedEnvelope (record : LegacyOfflineMutationV0) (sequence : UInt64) (now : DateTime) :
    OfflineMutationEnvelope where
  schemaVersion := offlineMutationSchemaVersion
  operationId := record.operationId
  correlationId := record.correlationId.getD record.operationId
  clientId := record.clientId.getD record.deviceId
  deviceId := record.deviceId
  logbookId := record.logbookId
  entityId := record.entityId.or
    (entityIdFromPayloadForOperation record.operationType record.payload)
  sequence := sequence
  operationType := record.operationType
  idempotencyKey := record.idempotencyKey.getD
    ("legacy-v0.2:" ++ UuidCrate.display record.logbookId ++ ":" ++
      UuidCrate.display record.deviceId ++ ":" ++ UuidCrate.display record.operationId)
  dependencies := record.dependencies
  payload := record.payload
  status := if record.localEventHash.isSome then .retrying else .pending
  attempts := 0
  maxAttempts := defaultMaxAttempts
  backoffSeconds := defaultBackoffSeconds
  maxBackoffSeconds := defaultMaxBackoffSeconds
  nextAttemptAt := if record.localEventHash.isSome then some now else none
  createdAt := record.createdAt.getD now
  updatedAt := now
  officialEventId := record.officialEventId
  localEventHash := record.localEventHash
  acceptedAt := none
  failureReason := some "migrated from v0.2 offline queue state"
  lastErrorCode := none

/-- The loop over the legacy records, with the counters and the envelopes so
far. -/
def migrateRecords (now : DateTime) : List LegacyOfflineMutationV0 → KeyMap Uuid UInt64 →
    List OfflineMutationEnvelope →
    Except OfflineQueueError (KeyMap Uuid UInt64 × List OfflineMutationEnvelope)
  | [], counters, migrated => .ok (counters, migrated)
  | record :: rest, counters, migrated =>
      let (sequence, assigned) := legacySequence counters record
      if sequence = 0 then .error (.invalidSequence record.operationId sequence)
      else
        let envelope := migratedEnvelope record sequence now
        match envelope.validate with
        | .error error => .error error
        | .ok () =>
            migrateRecords now rest (countLegacy assigned record.logbookId sequence)
              (migrated ++ [envelope])

/-- The migration of a file of version 0, with the number of its records. -/
def migrateLegacyV02Queue (legacy : LegacyOfflineQueueFileV0) (now : DateTime) :
    Except OfflineQueueError (OfflineQueueFile × Nat) :=
  let records := if legacy.pendingOperations = [] then legacy.mutations
    else legacy.pendingOperations
  match migrateRecords now records ∅ [] with
  | .error error => .error error
  | .ok (counters, migrated) =>
      let file : OfflineQueueFile :=
        OfflineQueueFile.sorted { nextSequenceByLogbook := counters, mutations := migrated }
      match file.validate with
      | .error error => .error error
      | .ok () => .ok (file, file.mutations.length)

end Migration

namespace JsonOfflineMutationQueue

def loadFile (disk : QueueDisk) : Outcome OfflineQueueError OfflineQueueFile :=
  match disk.contents {} with
  | none => .error (.error .serde)
  | some file =>
      match file.validate with
      | .error error => .error (.error error)
      | .ok () => .ok file.sorted

/-- The last step of every operation that writes. -/
def saveFile {α : Type} (file : OfflineQueueFile) (result : α) : QueueOutcome α :=
  match file.validate with
  | .error error => .error (.error error)
  | .ok () => .ok (result, some file)

def loadSnapshot (disk : QueueDisk) (now : DateTime) : QueueOutcome OfflineQueueSnapshot :=
  match loadFile disk with
  | .error fault => .error fault
  | .ok file => .ok (snapshotFromFile file.mutations now, none)

/-- The file after a new mutation was put into it. -/
def withMutation (file : OfflineQueueFile) (mutation : OfflineMutationEnvelope)
    (nextSequence : UInt64) : OfflineQueueFile :=
  OfflineQueueFile.sorted
    { file with
      nextSequenceByLogbook := file.nextSequenceByLogbook.insert mutation.logbookId nextSequence
      mutations := file.mutations ++ [mutation] }

/-- The mutation of the same logbook that was queued for an operation. -/
def queuedOperation (file : OfflineQueueFile) (input : OfflineMutationInput) :
    Option OfflineMutationEnvelope :=
  file.mutations.find? fun mutation =>
    mutation.logbookId = input.logbookId ∧ input.operationId = some mutation.operationId

def queuedKey (file : OfflineQueueFile) (logbookId : Uuid) (idempotencyKey : String) :
    Option OfflineMutationEnvelope :=
  file.mutations.find? fun mutation =>
    mutation.logbookId = logbookId ∧ mutation.idempotencyKey = idempotencyKey

def enqueueInput [UuidCrate] (disk : QueueDisk) (input : OfflineMutationInput) (now : DateTime)
    (random : Uuid) : QueueOutcome OfflineMutationEnvelope :=
  match loadFile disk with
  | .error fault => .error fault
  | .ok file =>
      match (queuedOperation file input).or
          (input.idempotencyKey.bind (queuedKey file input.logbookId)) with
      | some existing => .ok (existing, none)
      | none =>
          let envelope :=
            OfflineMutationEnvelope.new input (file.nextSequence input.logbookId) now random
          match envelope.validate with
          | .error error => .error (.error error)
          | .ok () =>
              saveFile (withMutation file envelope (saturatingSucc envelope.sequence)) envelope

def enqueue (disk : QueueDisk) (envelope : OfflineMutationEnvelope) :
    QueueOutcome OfflineMutationEnvelope :=
  match envelope.validate with
  | .error error => .error (.error error)
  | .ok () =>
      match loadFile disk with
      | .error fault => .error fault
      | .ok file =>
          match (file.findMutation envelope.operationId).or
              (queuedKey file envelope.logbookId envelope.idempotencyKey) with
          | some existing => .ok (existing, none)
          | none =>
              if file.mutations.any fun mutation =>
                  mutation.logbookId = envelope.logbookId ∧
                    mutation.sequence = envelope.sequence then
                .error (.error (.duplicateSequence envelope.logbookId envelope.sequence))
              else
                saveFile (withMutation file envelope
                  (max (file.nextSequence envelope.logbookId) (saturatingSucc envelope.sequence)))
                  envelope

def recordLocalEvent (disk : QueueDisk) (operationId : Uuid) (event : CoreEventEnvelope)
    (now : DateTime) : QueueOutcome OfflineMutationEnvelope :=
  match loadFile disk with
  | .error fault => .error fault
  | .ok file =>
      match file.findMutation operationId with
      | none => .error (.error (.mutationNotFound operationId))
      | some mutation =>
          let attached := mutation.attachLocalEvent event now
          saveFile (file.setMutation operationId attached).sorted attached

/-- The update that the marking operations share. -/
def updateMutation (disk : QueueDisk) (operationId : Uuid) (now : DateTime)
    (update : OfflineMutationEnvelope → Outcome OfflineQueueError OfflineMutationEnvelope) :
    QueueOutcome OfflineMutationEnvelope :=
  match loadFile disk with
  | .error fault => .error fault
  | .ok file =>
      match file.findMutation operationId with
      | none => .error (.error (.mutationNotFound operationId))
      | some mutation =>
          match update mutation with
          | .error fault => .error fault
          | .ok updated =>
              let stamped := { updated with updatedAt := now }
              saveFile (file.setMutation operationId stamped).sorted stamped

def markSending (disk : QueueDisk) (operationId : Uuid) (now : DateTime) :
    QueueOutcome OfflineMutationEnvelope :=
  updateMutation disk operationId now fun mutation =>
    .ok { mutation with
          status := .sending
          attempts := if mutation.attempts = 4294967295 then mutation.attempts
            else mutation.attempts + 1
          nextAttemptAt := none
          failureReason := none
          lastErrorCode := none }

/-- The sum of an instant and the delay panics outside the range of the
crate, here before anything is written. -/
def recordTransientFailure (disk : QueueDisk) (operationId : Uuid) (reason : String)
    (errorCode : Option String) (now : DateTime) : QueueOutcome OfflineMutationEnvelope :=
  updateMutation disk operationId now fun mutation =>
    if mutation.maxAttempts ≤ mutation.attempts then
      .ok { mutation with
            status := .failed, nextAttemptAt := none, failureReason := some reason,
            lastErrorCode := errorCode }
    else match now.addSeconds mutation.retryDelay with
      | none => .error .panic
      | some nextAttempt =>
          .ok { mutation with
                status := .retrying, nextAttemptAt := some nextAttempt,
                failureReason := some reason, lastErrorCode := errorCode }

def markBlocked (disk : QueueDisk) (operationId : Uuid) (reason : String) (now : DateTime) :
    QueueOutcome OfflineMutationEnvelope :=
  updateMutation disk operationId now fun mutation =>
    .ok { mutation with status := .blocked, failureReason := some reason, nextAttemptAt := none }

def markFailed (disk : QueueDisk) (operationId : Uuid) (reason : String)
    (errorCode : Option String) (now : DateTime) : QueueOutcome OfflineMutationEnvelope :=
  updateMutation disk operationId now fun mutation =>
    .ok { mutation with
          status := .failed, failureReason := some reason, lastErrorCode := errorCode,
          nextAttemptAt := none }

def markUserActionRequired (disk : QueueDisk) (operationId : Uuid) (reason : String)
    (errorCode : Option String) (now : DateTime) : QueueOutcome OfflineMutationEnvelope :=
  updateMutation disk operationId now fun mutation =>
    .ok { mutation with
          status := .userActionRequired, failureReason := some reason,
          lastErrorCode := errorCode, nextAttemptAt := none }

def markAccepted (disk : QueueDisk) (operationId : Uuid) (now : DateTime) :
    QueueOutcome OfflineMutationEnvelope :=
  updateMutation disk operationId now fun mutation =>
    .ok { mutation with
          status := .accepted, acceptedAt := some now, nextAttemptAt := none,
          failureReason := none, lastErrorCode := none }

/-- The mutations whose event a peer has accepted, and that are not accepted
yet. -/
def acceptedByHash (acceptedHashes : List String) (mutation : OfflineMutationEnvelope) : Bool :=
  mutation.localEventHash.any (· ∈ acceptedHashes) && mutation.status ≠ .accepted

def markAcceptedByEventHashes (disk : QueueDisk) (acceptedHashes : List String)
    (now : DateTime) : QueueOutcome Nat :=
  match loadFile disk with
  | .error fault => .error fault
  | .ok file =>
      let marked : OfflineQueueFile :=
        { file with
          mutations := file.mutations.map fun mutation =>
            if acceptedByHash acceptedHashes mutation then
              { mutation with
                status := .accepted, acceptedAt := some now, updatedAt := now,
                nextAttemptAt := none, failureReason := none, lastErrorCode := none }
            else mutation }
      saveFile marked.sorted (file.mutations.countP (acceptedByHash acceptedHashes))

def recoverInterruptedWrites (disk : QueueDisk) (now : DateTime) : QueueOutcome Nat :=
  match loadFile disk with
  | .error fault => .error fault
  | .ok file =>
      let (recovered, count) := recoverInterruptedWritesInFile file now
      saveFile recovered.sorted count

/-- The first phase of recovery: a save that was cut off after the removal of
the old file is completed, and any other temporary file is moved aside. -/
def recoverInterruptedAtomicWrite (disk : QueueDisk) :
    Except OfflineQueueError
      (QueueDisk × OfflineQueueRecoveryReport × Option OfflineQueueFile) :=
  match disk.temp with
  | none => .ok (disk, {}, none)
  | some content =>
      match disk.file, content with
      | none, .document file =>
          match file.validate with
          | .error error => .error error
          | .ok () =>
              .ok ({ disk with file := some (.document file), temp := none },
                { promotedInterruptedAtomicWrite := true }, some file.sorted)
      | _, _ =>
          .ok ({ disk with temp := none, quarantined := content :: disk.quarantined },
            { removedStaleTempFile := true }, none)

/-- Move the queue file aside and start from an empty queue. -/
def quarantineQueue (disk : QueueDisk) (report : OfflineQueueRecoveryReport) :
    QueueDisk × Outcome OfflineQueueError (OfflineQueueRecoveryReport × OfflineQueueFile) :=
  ({ disk with file := none, quarantined := disk.file.toList ++ disk.quarantined },
   .ok ({ report with quarantinedCorruptFile := true, initializedEmptyQueue := true }, {}))

section Recovery
variable [UuidCrate] [LegacyQueueJson]

/-- Recovery from a file of version 0. -/
def recoverLegacy (disk : QueueDisk) (report : OfflineQueueRecoveryReport)
    (legacy : Option LegacyOfflineQueueFileV0) (now : DateTime) :
    QueueDisk × Outcome OfflineQueueError (OfflineQueueRecoveryReport × OfflineQueueFile) :=
  match legacy with
  | none => quarantineQueue disk report
  | some legacy =>
      match migrateLegacyV02Queue legacy now with
      | .error _ => quarantineQueue disk report
      | .ok (file, migratedCount) =>
          (disk, .ok ({ report with
            migratedLegacyMutations := migratedCount, migratedV02File := true }, file))

/-- The disk after the renames of recovery, and the queue it goes on with. -/
def recoveryBase (disk : QueueDisk) (now : DateTime) :
    QueueDisk × Outcome OfflineQueueError (OfflineQueueRecoveryReport × OfflineQueueFile) :=
  match recoverInterruptedAtomicWrite disk with
  | .error error => (disk, .error (.error error))
  | .ok (prepared, report, some file) => (prepared, .ok (report, file))
  | .ok (prepared, report, none) =>
      match prepared.file with
      | none | some .blank =>
          (prepared, .ok ({ report with
            initializedEmptyQueue := true, migratedV02AbsentQueue := true }, {}))
      | some (.unreadable bytes) =>
          if LegacyQueueJson.isLegacyV02Queue bytes then
            recoverLegacy prepared report (LegacyQueueJson.fromSlice bytes) now
          else quarantineQueue prepared report
      | some (.document file) =>
          if file.version = offlineQueueLegacyV02FileVersion then
            recoverLegacy prepared report (some (.ofCurrent file)) now
          else match file.validate with
            | .error error => (prepared, .error (.error error))
            | .ok () => (prepared, .ok (report, file))

def recoverOrInitialize (disk : QueueDisk) (now : DateTime) :
    Plan OfflineQueueFile OfflineQueueRecoveryReport (Fault OfflineQueueError) :=
  let (prepared, base) := recoveryBase disk now
  { prepared := prepared
    outcome := match base with
      | .error fault => .error fault
      | .ok (report, file) =>
          let (recovered, count) := recoverInterruptedWritesInFile file now
          saveFile recovered.sorted { report with recoveredInterruptedWrites := count } }

end Recovery

def readyToSend (disk : QueueDisk) (logbookId : Uuid) (now : DateTime) :
    QueueOutcome (List OfflineMutationEnvelope) :=
  match loadFile disk with
  | .error fault => .error fault
  | .ok file => .ok (readyMutations file.mutations logbookId now, none)

/-- The loop that pairs ready mutations with their local events. It stops at
the first one whose event is missing. -/
def batchLoop (localEvents : List CoreEventEnvelope) (logbookId : Uuid) :
    List OfflineMutationEnvelope → OfflinePushBatch
  | [] =>
      { logbookId := logbookId, operationIds := [], events := [],
        missingLocalEventOperationIds := [] }
  | mutation :: rest =>
      match mutation.localEventHash.bind fun eventHash =>
          localEvents.reverse.find? fun event => event.eventHash = eventHash with
      | none =>
          { logbookId := logbookId, operationIds := [], events := [],
            missingLocalEventOperationIds := [mutation.operationId] }
      | some event =>
          let batch := batchLoop localEvents logbookId rest
          { batch with
            operationIds := mutation.operationId :: batch.operationIds
            events := event :: batch.events }

def readyEventBatch (disk : QueueDisk) (logbookId : Uuid) (localEvents : List CoreEventEnvelope)
    (now : DateTime) : QueueOutcome OfflinePushBatch :=
  match loadFile disk with
  | .error fault => .error fault
  | .ok file =>
      .ok (batchLoop localEvents logbookId (readyMutations file.mutations logbookId now), none)

end JsonOfflineMutationQueue

/-- A call of one of the operations of the queue. -/
inductive QueueCall where
  | loadSnapshot (now : DateTime)
  | enqueueInput (input : OfflineMutationInput) (now : DateTime) (random : Uuid)
  | enqueue (envelope : OfflineMutationEnvelope)
  | recordLocalEvent (operationId : Uuid) (event : CoreEventEnvelope) (now : DateTime)
  | markSending (operationId : Uuid) (now : DateTime)
  | recordTransientFailure (operationId : Uuid) (reason : String) (errorCode : Option String)
      (now : DateTime)
  | markBlocked (operationId : Uuid) (reason : String) (now : DateTime)
  | markFailed (operationId : Uuid) (reason : String) (errorCode : Option String)
      (now : DateTime)
  | markUserActionRequired (operationId : Uuid) (reason : String) (errorCode : Option String)
      (now : DateTime)
  | markAccepted (operationId : Uuid) (now : DateTime)
  | markAcceptedByEventHashes (acceptedHashes : List String) (now : DateTime)
  | recoverInterruptedWrites (now : DateTime)
  | recoverOrInitialize (now : DateTime)
  | readyToSend (logbookId : Uuid) (now : DateTime)
  | readyEventBatch (logbookId : Uuid) (localEvents : List CoreEventEnvelope) (now : DateTime)

/-- The result of a call. -/
inductive QueueReply where
  | snapshot (snapshot : OfflineQueueSnapshot)
  | mutation (mutation : OfflineMutationEnvelope)
  | count (count : Nat)
  | report (report : OfflineQueueRecoveryReport)
  | mutations (mutations : List OfflineMutationEnvelope)
  | batch (batch : OfflinePushBatch)
  deriving DecidableEq

namespace QueueCall
open JsonOfflineMutationQueue

/-- The result of an operation as a reply. -/
def replying {α : Type} (reply : α → QueueReply) (outcome : QueueOutcome α) :
    QueueOutcome QueueReply :=
  outcome.map fun result => (reply result.1, result.2)

variable [UuidCrate] [LegacyQueueJson]

/-- What a call that does not recover does. -/
def outcome (disk : QueueDisk) : QueueCall → QueueOutcome QueueReply
  | .loadSnapshot now => replying .snapshot (JsonOfflineMutationQueue.loadSnapshot disk now)
  | .enqueueInput input now random =>
      replying .mutation (JsonOfflineMutationQueue.enqueueInput disk input now random)
  | .enqueue envelope => replying .mutation (JsonOfflineMutationQueue.enqueue disk envelope)
  | .recordLocalEvent operationId event now =>
      replying .mutation (JsonOfflineMutationQueue.recordLocalEvent disk operationId event now)
  | .markSending operationId now =>
      replying .mutation (JsonOfflineMutationQueue.markSending disk operationId now)
  | .recordTransientFailure operationId reason errorCode now =>
      replying .mutation
        (JsonOfflineMutationQueue.recordTransientFailure disk operationId reason errorCode now)
  | .markBlocked operationId reason now =>
      replying .mutation (JsonOfflineMutationQueue.markBlocked disk operationId reason now)
  | .markFailed operationId reason errorCode now =>
      replying .mutation (JsonOfflineMutationQueue.markFailed disk operationId reason errorCode now)
  | .markUserActionRequired operationId reason errorCode now =>
      replying .mutation
        (JsonOfflineMutationQueue.markUserActionRequired disk operationId reason errorCode now)
  | .markAccepted operationId now =>
      replying .mutation (JsonOfflineMutationQueue.markAccepted disk operationId now)
  | .markAcceptedByEventHashes acceptedHashes now =>
      replying .count (JsonOfflineMutationQueue.markAcceptedByEventHashes disk acceptedHashes now)
  | .recoverInterruptedWrites now =>
      replying .count (JsonOfflineMutationQueue.recoverInterruptedWrites disk now)
  | .recoverOrInitialize now =>
      replying .report (JsonOfflineMutationQueue.recoverOrInitialize disk now).outcome
  | .readyToSend logbookId now =>
      replying .mutations (JsonOfflineMutationQueue.readyToSend disk logbookId now)
  | .readyEventBatch logbookId localEvents now =>
      replying .batch (JsonOfflineMutationQueue.readyEventBatch disk logbookId localEvents now)

def plan (disk : QueueDisk) (call : QueueCall) :
    Plan OfflineQueueFile QueueReply (Fault OfflineQueueError) where
  prepared := match call with
    | .recoverOrInitialize now => (JsonOfflineMutationQueue.recoverOrInitialize disk now).prepared
    | _ => disk
  outcome := outcome disk call

def recovers : QueueCall → Bool
  | .recoverOrInitialize _ => true
  | _ => false

/-- The queue that recovery works from. -/
def recovered (disk : QueueDisk) : QueueCall → Outcome OfflineQueueError OfflineQueueFile
  | .recoverOrInitialize now => (recoveryBase disk now).2.map fun base => base.2.sorted
  | _ => loadFile disk

end QueueCall

/-- The durable queue as a store of one document. -/
def queueStore [UuidCrate] [LegacyQueueJson] :
    Store OfflineQueueFile QueueCall QueueReply (Fault OfflineQueueError) where
  empty := {}
  io := .error .io
  load := JsonOfflineMutationQueue.loadFile
  recovers := QueueCall.recovers
  recovered := QueueCall.recovered
  plan := QueueCall.plan

namespace Crates

/-- An operation for a logbook whose other fields do not matter. -/
def sampleInput (logbookId operationId : Uuid) : OfflineMutationInput where
  logbookId := logbookId
  deviceId := 1
  clientId := 1
  operationType := "qso.create"
  payload := .null
  idempotencyKey := some "key"
  operationId := some operationId

end Crates

end HamLogger
