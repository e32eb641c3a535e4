import HamLogger.Server.AccountHandlers
import HamLogger.Sync.CloudService

/-! The requests of the hosted server that synchronise the events of a
logbook. The server keeps all logbooks in one event store. -/
namespace HamLogger

open Program

inductive LogbookAccess where
  | read | logQso | admin
  deriving DecidableEq

def LogbookRole.allows (role : LogbookRole) : LogbookAccess → Bool
  | .read => role.canRead
  | .logQso => role.canLogQso
  | .admin => role.canAdminister

/-- A session that may access a logbook. -/
structure AuthorizedLogbook where
  session : LoginSession
  logbookId : Uuid
  role : LogbookRole

/-- The metadata and the events of a hosted server. -/
structure HostedState [UuidCrate] where
  server : ServerState
  store : InMemoryLogbookEventStore := {}

/-- A request that reads and writes events as well. -/
abbrev EventHandler [UuidCrate] (α : Type) := Program HostedState (Fault ApiError) α

section
variable [UuidCrate]

/-- A part of a request that leaves the events alone. -/
def onServer {α : Type} (handler : Handler α) : EventHandler α :=
  ofFunction fun state =>
    let (server, outcome) := handler.execute state.server
    ({ state with server := server }, outcome)

@[simp] theorem execute_onServer {α : Type} (handler : Handler α) (state : HostedState) :
    (onServer handler).execute state =
      ({ state with server := (handler.execute state.server).1 },
        (handler.execute state.server).2) := rfl

end

structure PushEventsInput where
  logbookId : Uuid
  events : List CoreEventEnvelope

structure PreviewSyncRequest where
  logbookId : Uuid
  localHeadHash : Option String

/-- What a peer is told of an event. -/
structure EventMetadata where
  eventId : Uuid
  logbookId : Uuid
  entityId : Option Uuid
  previousHash : Option String
  eventHash : String
  timestamp : DateTime
  eventType : EventType
  schemaVersion : UInt32
  deriving DecidableEq

structure PreviewPullResponse where
  peerId : String
  logbookId : Uuid
  status : ReplicationStatus
  localHeadHash : Option String
  remoteHeadHash : Option String
  missingEventCount : Nat
  remoteEventCount : Nat
  events : List EventMetadata
  message : String
  deriving DecidableEq

structure CloudPullEventsResponse where
  preview : PreviewPullResponse
  events : List CoreEventEnvelope
  deriving DecidableEq

def metadataForEvent (event : CoreEventEnvelope) : EventMetadata where
  eventId := event.eventId
  logbookId := event.logbookId
  entityId := event.entityId
  previousHash := event.previousHash
  eventHash := event.eventHash
  timestamp := event.timestamp
  eventType := event.eventType
  schemaVersion := event.schemaVersion

def previewPullFromEvents (peerId : String) (request : PreviewSyncRequest)
    (remoteEvents : List CoreEventEnvelope) : PreviewPullResponse :=
  let remoteEvents := ofLogbook remoteEvents request.logbookId
  let response : PreviewPullResponse :=
    { peerId := peerId, logbookId := request.logbookId, status := .inSync,
      localHeadHash := request.localHeadHash, remoteHeadHash := headHash remoteEvents,
      missingEventCount := 0, remoteEventCount := remoteEvents.length, events := [],
      message := "Local and remote heads match" }
  if request.localHeadHash = headHash remoteEvents then response
  else match missingEventsAfter remoteEvents request.localHeadHash with
    | none =>
        { response with
          status := .diverged, message := "Remote chain does not contain the local head" }
    | some missing =>
        { response with
          status := .remoteAhead, missingEventCount := missing.length,
          events := missing.map metadataForEvent,
          message := Nat.repr missing.length ++ " remote events are available to pull" }

/-- The refusal of an event whose identifier is taken. -/
def conflictMessage [UuidCrate] (eventId : Uuid) : String :=
  "event id " ++ UuidCrate.display eventId ++ " already exists with different content"

namespace HostedServer
variable [UuidCrate] [Sha2Crate]

def requireLogbookRole (context : RequestContext) (logbookId : Uuid) (access : LogbookAccess) :
    Handler AuthorizedLogbook := do
  let session ← authorized context
  let state ← get
  let membership ← orReject .forbidden <| state.memberships.find? fun membership =>
    membership.userId = session.userId ∧ membership.logbookId = logbookId
  if !membership.role.allows access then
    reject .forbidden
  return { session := session, logbookId := logbookId, role := membership.role }

theorem keeps_requireLogbookRole {View : Type} {view : ServerState → View}
    (context : RequestContext) (logbookId : Uuid) (access : LogbookAccess) :
    Keeps view (requireLogbookRole context logbookId access) := by
  apply keeps_bind (keeps_authorized context)
  intro session
  apply keeps_get_bind
  intro state
  apply keeps_bind (keeps_orReject _ _)
  intro membership
  exact keeps_guard (keeps_pure _)

def enforceSyncOperationLimit (context : RequestContext) (session : LoginSession) :
    Handler Unit := do
  let state ← get
  enforceRateLimit context
    ("sync:" ++ UuidCrate.display session.accountId ++ ":" ++ context.client)
    state.hostingConfig.limits.syncOpsPerWindow
  savingWith context.firstSaveFails

/-- What a request to synchronise a logbook needs before it goes on. -/
def authorizeSync (context : RequestContext) (logbookId : Uuid) (access : LogbookAccess) :
    Handler Unit := do
  let auth ← requireLogbookRole context logbookId access
  enforceSyncOperationLimit context auth.session

variable [RustFmt] [CanonicalJson]

/-- The loop over the pushed events, which ends at the first error. It looks
whether an event is stored before anything else. -/
def syncPushLoop (store : InMemoryLogbookEventStore) (progress : PushProgress) :
    List CoreEventEnvelope → InMemoryLogbookEventStore × PushProgress
  | [] => (store, progress)
  | event :: rest =>
      match store.getEvent event.eventId with
      | some existing =>
          if existing = event then
            syncPushLoop store
              { progress with ignoredDuplicateCount := progress.ignoredDuplicateCount + 1 } rest
          else (store, progress.failed (conflictMessage event.eventId))
      | none =>
          match store.appendVerifiedRemoteEvent event with
          | (later, .ok _) =>
              syncPushLoop later { progress with acceptedCount := progress.acceptedCount + 1 } rest
          | (later, .error error) => (later, progress.failed error.toString)

def syncPush (context : RequestContext) (body : Except String PushEventsInput) :
    EventHandler CloudPushEventsResponse := do
  let input ← onServer (parseJson body)
  onServer (authorizeSync context input.logbookId .logQso)
  if input.events.any fun event => event.logbookId ≠ input.logbookId then
    onServer (reject .forbidden)
  else
    let state ← get
    let (store, progress) := syncPushLoop state.store {} input.events
    set { state with store := store }
    return progress.response (store.getHead input.logbookId)

def syncPreview (context : RequestContext) (body : Except String PreviewSyncRequest) :
    EventHandler PreviewPullResponse := do
  let input ← onServer (parseJson body)
  onServer (authorizeSync context input.logbookId .read)
  let state ← get
  return previewPullFromEvents "hosted-server" input (state.store.listEvents input.logbookId)

def syncPull (context : RequestContext) (body : Except String PreviewSyncRequest) :
    EventHandler CloudPullEventsResponse := do
  let input ← onServer (parseJson body)
  onServer (authorizeSync context input.logbookId .read)
  let state ← get
  let events := state.store.listEvents input.logbookId
  let preview := previewPullFromEvents "hosted-server" input events
  let missing := events.filter fun event =>
    event.eventHash ∈ preview.events.map EventMetadata.eventHash
  return { preview := preview, events := missing }

end HostedServer

section
open Crates

/-- A session of the first administrator. -/
def administratorRequest : RequestContext :=
  { sampleRequest 300 with bearer := some (opaqueToken "session" 100 106) }

def hostedWith (store : InMemoryLogbookEventStore) : HostedState where
  server := afterBootstrap
  store := store

end
end HamLogger
