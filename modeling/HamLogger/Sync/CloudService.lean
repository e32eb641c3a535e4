import HamLogger.Core.JsonlStore
import HamLogger.Sync.CloudSession
import HamLogger.Sync.Pull

/-! What the cloud sync servers answer to pairing, revoking, pushing and
listing. The durable server keeps the logbooks of an account in a table and
its events in a file; the server in memory keeps the logbooks of each session.
No database and no file fails here. -/
namespace HamLogger

structure LogbookHeadSummary where
  logbookId : Uuid
  headHash : Option String
  eventCount : Option Nat
  deriving DecidableEq

inductive CloudConnectionState where
  | disconnected | connected | unauthorized | error
  deriving DecidableEq

structure CloudPushEventsResponse where
  status : ReplicationStatus
  acceptedCount : Nat
  ignoredDuplicateCount : Nat
  rejectedCount : Nat
  serverHeadHash : Option String
  errors : List String
  deriving DecidableEq

structure CloudSyncStatusResponse where
  connectionState : CloudConnectionState
  accountId : Option String
  deviceId : Option Uuid
  serverUrl : String
  accessibleLogbooks : List LogbookHeadSummary
  deriving DecidableEq

def pushReplicationStatus (errors : List String) : ReplicationStatus :=
  if errors.isEmpty then .pulled
  else if errors.any fun error =>
      containsText error "does not connect" || containsText error "previous hash" then .diverged
  else .rejected

/-- What a push has done so far. -/
structure PushProgress where
  acceptedCount : Nat := 0
  ignoredDuplicateCount : Nat := 0
  errors : List String := []

namespace PushProgress

def failed (progress : PushProgress) (error : String) : PushProgress :=
  { progress with errors := progress.errors ++ [error] }

def response (progress : PushProgress) (serverHeadHash : Option String) :
    CloudPushEventsResponse where
  status := pushReplicationStatus progress.errors
  acceptedCount := progress.acceptedCount
  ignoredDuplicateCount := progress.ignoredDuplicateCount
  rejectedCount := progress.errors.length
  serverHeadHash := serverHeadHash
  errors := progress.errors

end PushProgress

/-- The answer to a status request without a token. -/
def disconnectedStatus (config : CloudServerConfig) : CloudSyncStatusResponse where
  connectionState := .disconnected
  accountId := none
  deviceId := none
  serverUrl := config.publicUrl
  accessibleLogbooks := []

def connectedStatus (config : CloudServerConfig) (session : CloudSession)
    (logbooks : List LogbookHeadSummary) : CloudSyncStatusResponse where
  connectionState := .connected
  accountId := some session.accountId
  deviceId := some session.deviceId
  serverUrl := config.publicUrl
  accessibleLogbooks := logbooks

inductive CloudRequest where
  | pairDevice (request : PairDeviceRequest)
  | revokeDevice (deviceId : Uuid)
  | pushEvents (auth : CloudAuth) (logbookId : Uuid) (events : List CoreEventEnvelope)
  | listLogbooks (auth : CloudAuth)
  | getHead (auth : CloudAuth) (logbookId : Uuid)
  | status (auth : Option CloudAuth)

/-- What a request is answered: no response where pairing panics. -/
inductive CloudAnswer where
  | paired (response : Option PairDeviceResponse)
  | revoked (result : Except CloudSyncError Unit)
  | pushed (result : Except CloudSyncError CloudPushEventsResponse)
  | logbooks (result : Except CloudSyncError (List LogbookHeadSummary))
  | head (result : Except CloudSyncError LogbookHeadSummary)
  | status (result : Except CloudSyncError CloudSyncStatusResponse)
  deriving DecidableEq

section Push
variable {S : Type} [UuidCrate] [RustFmt] [CanonicalJson] [Sha2Crate]
  (getEvent : S → Uuid → Option CoreEventEnvelope)
  (appendVerifiedRemoteEvent : S → CoreEventEnvelope → S × Except StoreError CoreEventEnvelope)

/-- The loop over the pushed events, which ends at the first error. -/
def pushLoop (store : S) (progress : PushProgress) :
    List CoreEventEnvelope → S × PushProgress
  | [] => (store, progress)
  | event :: rest =>
      match validateSupportedRemoteEvent event with
      | .error error => (store, progress.failed error.toString)
      | .ok () =>
          match getEvent store event.eventId with
          | some existing =>
              if existing = event then
                pushLoop store
                  { progress with ignoredDuplicateCount := progress.ignoredDuplicateCount + 1 } rest
              else (store, progress.failed ("event id " ++ UuidCrate.display event.eventId ++
                " already exists with different content"))
          | none =>
              match appendVerifiedRemoteEvent store event with
              | (later, .ok _) =>
                  pushLoop later { progress with acceptedCount := progress.acceptedCount + 1 } rest
              | (later, .error error) => (later, progress.failed error.toString)

end Push

/-! The durable server. -/

/-- A row of `sync_heads`. -/
structure SyncHeadRow where
  logbookId : Uuid
  headHash : Option String
  eventCount : Nat
  deriving DecidableEq

structure DurableCloudState where
  tables : CloudTables := {}
  syncHeads : KeyMap Uuid SyncHeadRow := ∅
  store : JsonlLogbookEventStore := {}

/-- The logbooks that devices of an account were paired for. -/
def CloudTables.accountLogbooks (tables : CloudTables) (accountId : String) : List Uuid :=
  ((tables.logbookAccess.values.filter fun row => row.accountId = accountId).map
    SyncLogbookAccessRow.logbookId).dedup

namespace DurableCloudSyncServer
variable [Sha2Crate]

def getHead (state : DurableCloudState) (auth : CloudAuth) (logbookId : Uuid) (now : DateTime) :
    Except CloudSyncError LogbookHeadSummary :=
  (authorizeLogbook (state.tables.session auth now) logbookId).map fun _ =>
    let events := state.store.memory.listEvents logbookId
    { logbookId := logbookId, headHash := events.getLast?.map CoreEventEnvelope.eventHash,
      eventCount := some events.length }

def listLogbooks (state : DurableCloudState) (auth : CloudAuth) (now : DateTime) :
    Except CloudSyncError (List LogbookHeadSummary) := do
  let session ← state.tables.session auth now
  let logbooks ← (state.tables.accountLogbooks session.accountId).mapM fun logbookId =>
    getHead state auth logbookId now
  return logbooks.mergeSort fun first second => first.logbookId ≤ second.logbookId

def status (config : CloudServerConfig) (state : DurableCloudState) (auth : Option CloudAuth)
    (now : DateTime) : Except CloudSyncError CloudSyncStatusResponse :=
  match auth with
  | none => .ok (disconnectedStatus config)
  | some auth => do
      let session ← state.tables.session auth now
      let logbooks ← listLogbooks state auth now
      return connectedStatus config session logbooks

variable [UuidCrate] [RustFmt] [CanonicalJson] [EventJson]

def pushEvents (state : DurableCloudState) (auth : CloudAuth) (logbookId : Uuid)
    (events : List CoreEventEnvelope) (now : DateTime) :
    DurableCloudState × Except CloudSyncError CloudPushEventsResponse :=
  match authorizeLogbook (state.tables.session auth now) logbookId with
  | .error error => (state, .error error)
  | .ok _ =>
      if events.any fun event => event.logbookId ≠ logbookId then
        (state, .error (.unauthorizedLogbook logbookId))
      else
        let (store, progress) := pushLoop
          (fun store : JsonlLogbookEventStore => store.memory.getEvent)
          (fun store event => store.appendVerifiedRemoteEvent event .completes)
          state.store {} events
        let serverHeadHash := store.memory.getHead logbookId
        let row : SyncHeadRow :=
          { logbookId := logbookId, headHash := serverHeadHash,
            eventCount := (store.memory.listEvents logbookId).length }
        ({ state with syncHeads := state.syncHeads.insert logbookId row, store := store },
          .ok (progress.response serverHeadHash))

def answer (config : CloudServerConfig) (state : DurableCloudState) (now : DateTime)
    (random : Uuid) : CloudRequest → DurableCloudState × CloudAnswer
  | .pairDevice request =>
      let (tables, response) := pairDevice config state.tables request now random none
      ({ state with tables := tables }, .paired response)
  | .revokeDevice deviceId =>
      let (tables, result) := state.tables.revokeDevice deviceId none
      ({ state with tables := tables }, .revoked result)
  | .pushEvents auth logbookId events =>
      let (later, result) := pushEvents state auth logbookId events now
      (later, .pushed result)
  | .listLogbooks auth => (state, .logbooks (listLogbooks state auth now))
  | .getHead auth logbookId => (state, .head (getHead state auth logbookId now))
  | .status auth => (state, .status (status config state auth now))

end DurableCloudSyncServer

/-! The server in memory. -/

structure InMemoryCloudState where
  auth : CloudAuthState := {}
  store : InMemoryLogbookEventStore := {}

/-- A logbook as the server in memory lists it. -/
def InMemoryCloudState.summary (state : InMemoryCloudState) (logbookId : Uuid) :
    LogbookHeadSummary where
  logbookId := logbookId
  headHash := state.store.getHead logbookId
  eventCount := some (state.store.listEvents logbookId).length

namespace InMemoryCloudSyncServer

def getHead (state : InMemoryCloudState) (auth : CloudAuth) (logbookId : Uuid) (now : DateTime) :
    Except CloudSyncError LogbookHeadSummary :=
  (authorizeLogbook (authorize state.auth auth now) logbookId).map fun _ => state.summary logbookId

def listLogbooks (state : InMemoryCloudState) (auth : CloudAuth) (now : DateTime) :
    Except CloudSyncError (List LogbookHeadSummary) :=
  (authorize state.auth auth now).map fun session =>
    session.authorizedLogbooks.map state.summary

def status (config : CloudServerConfig) (state : InMemoryCloudState) (auth : Option CloudAuth)
    (now : DateTime) : Except CloudSyncError CloudSyncStatusResponse :=
  match auth with
  | none => .ok (disconnectedStatus config)
  | some auth => do
      let session ← authorize state.auth auth now
      let logbooks ← listLogbooks state auth now
      return connectedStatus config session logbooks

variable [UuidCrate] [RustFmt] [CanonicalJson] [Sha2Crate]

def pushEvents (state : InMemoryCloudState) (auth : CloudAuth) (logbookId : Uuid)
    (events : List CoreEventEnvelope) (now : DateTime) :
    InMemoryCloudState × Except CloudSyncError CloudPushEventsResponse :=
  match authorizeLogbook (authorize state.auth auth now) logbookId with
  | .error error => (state, .error error)
  | .ok _ =>
      if events.any fun event => event.logbookId ≠ logbookId then
        (state, .error (.unauthorizedLogbook logbookId))
      else
        let (store, progress) := pushLoop InMemoryLogbookEventStore.getEvent
          InMemoryLogbookEventStore.appendVerifiedRemoteEvent state.store {} events
        ({ state with store := store }, .ok (progress.response (store.getHead logbookId)))

def answer (config : CloudServerConfig) (state : InMemoryCloudState) (now : DateTime)
    (random : Uuid) : CloudRequest → InMemoryCloudState × CloudAnswer
  | .pairDevice request =>
      let (auth, response) := pairDevice config state.auth request now random
      ({ state with auth := auth }, .paired response)
  | .revokeDevice deviceId =>
      ({ state with auth := revokeDevice state.auth deviceId }, .revoked (.ok ()))
  | .pushEvents auth logbookId events =>
      let (later, result) := pushEvents state auth logbookId events now
      (later, .pushed result)
  | .listLogbooks auth => (state, .logbooks (listLogbooks state auth now))
  | .getHead auth logbookId => (state, .head (getHead state auth logbookId now))
  | .status auth => (state, .status (status config state auth now))

end InMemoryCloudSyncServer
end HamLogger
