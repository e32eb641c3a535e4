import HamLogger.Core.Projection
import HamLogger.Library.HashChain

/-! The logbook event store: three maps that are read and written together,
the checks on events received from peers, and the verification of a chain. -/
namespace HamLogger

inductive ChainVerificationError where
  | invalidHash (eventId : Uuid)
  | previousHashMismatch (eventId : Uuid) (expected actual : Option String)
  | headMismatch (headHash actualHash : Option String)
  deriving DecidableEq

inductive StoreError where
  | eventNotFound (eventId : Uuid)
  | chainVerification (error : ChainVerificationError)
  | projection (text : String)
  | io (text : String)
  | serde (text : String)
  | invalidRemoteHash (eventId : Uuid)
  | unsupportedSchemaVersion (eventId : Uuid) (schemaVersion : UInt32)
  | unsupportedEventType (eventId : Uuid) (eventType : EventType)
  | remotePreviousHashMismatch (eventId : Uuid) (expected actual : Option String)
  | duplicateEventConflict (eventId : Uuid)
  deriving DecidableEq

section Display
variable [UuidCrate] [RustFmt]

def ChainVerificationError.toString : ChainVerificationError → String
  | .invalidHash eventId => "event " ++ UuidCrate.display eventId ++ " has an invalid hash"
  | .previousHashMismatch eventId expected actual =>
      "event " ++ UuidCrate.display eventId ++ " expected previous hash " ++
        debugOptionStr expected ++ ", found " ++ debugOptionStr actual
  | .headMismatch headHash actualHash =>
      "stored head " ++ debugOptionStr headHash ++ " does not match final event hash " ++
        debugOptionStr actualHash

def StoreError.toString : StoreError → String
  | .eventNotFound eventId => "event not found: " ++ UuidCrate.display eventId
  | .chainVerification error => "chain verification failed: " ++ error.toString
  | .projection text => "projection rebuild failed: " ++ text
  | .io text => "event store I/O error: " ++ text
  | .serde text => "event store serialization error: " ++ text
  | .invalidRemoteHash eventId =>
      "remote event " ++ UuidCrate.display eventId ++ " has an invalid hash"
  | .unsupportedSchemaVersion eventId schemaVersion =>
      "remote event " ++ UuidCrate.display eventId ++ " uses unsupported schema version " ++
        Nat.repr schemaVersion.toNat
  | .unsupportedEventType eventId eventType =>
      "remote event " ++ UuidCrate.display eventId ++ " has unsupported event type " ++
        eventType.name
  | .remotePreviousHashMismatch eventId expected actual =>
      "remote event " ++ UuidCrate.display eventId ++ " previous hash " ++ debugOptionStr actual ++
        " does not connect to local head " ++ debugOptionStr expected
  | .duplicateEventConflict eventId =>
      "remote event id " ++ UuidCrate.display eventId ++ " already exists with different content"

end Display

/-- How events refer to the event before them. -/
def eventChain : HashChain.Scheme CoreEventEnvelope String where
  previous := CoreEventEnvelope.previousHash
  digest := CoreEventEnvelope.eventHash

@[simp] theorem eventChain_previous (event : CoreEventEnvelope) :
    eventChain.previous event = event.previousHash := rfl

@[simp] theorem eventChain_digest (event : CoreEventEnvelope) :
    eventChain.digest event = event.eventHash := rfl

/-- The event types accepted from peers. -/
def isSupportedRemoteType : EventType → Bool
  | .qsoCreated | .qsoCorrected | .qsoDeleted | .qsoRestored | .qsoNoteAdded
  | .activationCreated | .activationUpdated | .activationStarted | .activationEnded
  | .activationCancelled | .activationNoteAdded | .qsoActivationLinked
  | .qsoActivationUnlinked | .uploadQueued | .uploadCompleted | .uploadFailed
  | .netTemplateCreated | .netTemplateUpdated | .netSessionStarted | .netSessionEnded
  | .netSessionCancelled | .netCheckinCreated | .netCheckinUpdated | .netCheckinDeleted
  | .netTrafficCreated | .netTrafficUpdated | .netReportExported => true
  | _ => false

section Validation
variable [CanonicalJson] [Sha2Crate]

def validateSupportedRemoteEvent (event : CoreEventEnvelope) : Except StoreError Unit :=
  if event.hashIsValid = false then .error (.invalidRemoteHash event.eventId)
  else if event.schemaVersion ≠ 1 then
    .error (.unsupportedSchemaVersion event.eventId event.schemaVersion)
  else if isSupportedRemoteType event.eventType = false then
    .error (.unsupportedEventType event.eventId event.eventType)
  else .ok ()

/-- Exactly the events with a right hash, version 1 and a listed type pass. -/
theorem validateSupportedRemoteEvent_ok_iff (event : CoreEventEnvelope) :
    validateSupportedRemoteEvent event = .ok () ↔
      event.hashIsValid = true ∧ event.schemaVersion = 1 ∧
        isSupportedRemoteType event.eventType = true := by
  unfold validateSupportedRemoteEvent
  split_ifs with hHash hVersion hType <;> simp_all

/-- An event made here passes when its version and its type do. -/
theorem validateSupportedRemoteEvent_fromNew (newEvent : NewLogbookEvent)
    (previousHash : Option String) (stamp : EventStamp) :
    validateSupportedRemoteEvent (CoreEventEnvelope.fromNew newEvent previousHash stamp) = .ok () ↔
      newEvent.schemaVersion = 1 ∧ isSupportedRemoteType newEvent.eventType = true := by
  rw [validateSupportedRemoteEvent_ok_iff]
  simp [CoreEventEnvelope.fromNew_hashIsValid]

end Validation

/-- The operations of an event store. A call returns the store it leaves
along with its outcome, since it can change the store and still fail. -/
class LogbookEventStore (S : Type) where
  appendEvent : S → NewLogbookEvent → EventStamp → S × Except StoreError CoreEventEnvelope
  appendVerifiedRemoteEvent : S → CoreEventEnvelope → S × Except StoreError CoreEventEnvelope
  getEvent : S → Uuid → Except StoreError (Option CoreEventEnvelope)
  getHead : S → Uuid → Except StoreError (Option String)
  listEvents : S → Uuid → Except StoreError (List CoreEventEnvelope)
  listEventsAfter : S → Uuid → Option String → Except StoreError (List CoreEventEnvelope)
  verifyChain : S → Uuid → Except StoreError Unit
  rebuildProjections : S → Uuid → Outcome StoreError QsoCurrentStateProjection
  rebuildActivationProjections : S → Uuid → Outcome StoreError ActivationProjection

structure InMemoryLogbookEventStore where
  eventsById : KeyMap Uuid CoreEventEnvelope := ∅
  eventsByLogbook : KeyMap Uuid (List Uuid) := ∅
  heads : KeyMap Uuid String := ∅
  deriving DecidableEq

namespace InMemoryLogbookEventStore

/-- The three map updates that both append paths and loading from disk make. -/
def insertEvent (store : InMemoryLogbookEventStore) (event : CoreEventEnvelope) :
    InMemoryLogbookEventStore where
  eventsByLogbook := store.eventsByLogbook.insert event.logbookId
    ((store.eventsByLogbook.lookup event.logbookId).getD [] ++ [event.eventId])
  heads := store.heads.insert event.logbookId event.eventHash
  eventsById := store.eventsById.insert event.eventId event

def getEvent (store : InMemoryLogbookEventStore) (eventId : Uuid) : Option CoreEventEnvelope :=
  store.eventsById.lookup eventId

def getHead (store : InMemoryLogbookEventStore) (logbookId : Uuid) : Option String :=
  store.heads.lookup logbookId

def listEventsAfter (store : InMemoryLogbookEventStore) (logbookId : Uuid)
    (afterHash : Option String) : List CoreEventEnvelope :=
  match store.eventsByLogbook.lookup logbookId with
  | none => []
  | some eventIds =>
      let startIndex := match afterHash with
        | none => 0
        | some hash =>
            match eventIds.findIdx? fun eventId =>
              (store.eventsById.lookup eventId).any fun event => event.eventHash == hash with
            | none => 0
            | some index => index + 1
      (eventIds.drop startIndex).filterMap fun eventId => store.eventsById.lookup eventId

def listEvents (store : InMemoryLogbookEventStore) (logbookId : Uuid) : List CoreEventEnvelope :=
  store.listEventsAfter logbookId none

variable [CanonicalJson] [Sha2Crate]

def appendEvent (store : InMemoryLogbookEventStore) (event : NewLogbookEvent)
    (stamp : EventStamp) : InMemoryLogbookEventStore × Except StoreError CoreEventEnvelope :=
  let previousHash := store.heads.lookup event.logbookId
  let officialEvent := CoreEventEnvelope.fromNew event previousHash stamp
  (store.insertEvent officialEvent, .ok officialEvent)

def appendVerifiedRemoteEvent (store : InMemoryLogbookEventStore) (event : CoreEventEnvelope) :
    InMemoryLogbookEventStore × Except StoreError CoreEventEnvelope :=
  match validateSupportedRemoteEvent event with
  | .error error => (store, .error error)
  | .ok () =>
      match store.eventsById.lookup event.eventId with
      | some existing =>
          if existing = event then (store, .ok existing)
          else (store, .error (.duplicateEventConflict event.eventId))
      | none =>
          let expectedPreviousHash := store.heads.lookup event.logbookId
          if event.previousHash ≠ expectedPreviousHash then
            (store, .error (.remotePreviousHashMismatch event.eventId expectedPreviousHash
              event.previousHash))
          else (store.insertEvent event, .ok event)

/-- The loop of the chain verification. The expected previous hash is at the
same time the head found so far. -/
def verifyEvents (store : InMemoryLogbookEventStore) :
    List Uuid → Option String → Except StoreError (Option String)
  | [], actualHead => .ok actualHead
  | eventId :: rest, expected =>
      match store.eventsById.lookup eventId with
      | none => .error (.eventNotFound eventId)
      | some event =>
          if event.hashIsValid = false then
            .error (.chainVerification (.invalidHash event.eventId))
          else if event.previousHash ≠ expected then
            .error (.chainVerification
              (.previousHashMismatch event.eventId expected event.previousHash))
          else verifyEvents store rest (some event.eventHash)

def verifyChain (store : InMemoryLogbookEventStore) (logbookId : Uuid) :
    Except StoreError Unit :=
  match store.eventsByLogbook.lookup logbookId with
  | none => .ok ()
  | some eventIds =>
      match store.verifyEvents eventIds none with
      | .error error => .error error
      | .ok actualHead =>
          if store.heads.lookup logbookId ≠ actualHead then
            .error (.chainVerification
              (.headMismatch (store.heads.lookup logbookId) actualHead))
          else .ok ()

variable [UuidCrate]

def rebuildProjections (store : InMemoryLogbookEventStore) (logbookId : Uuid) :
    Outcome StoreError QsoCurrentStateProjection :=
  Outcome.mapError (fun error => .projection error.toString)
    (Projection.rebuild QsoCurrentStateProjection (store.listEvents logbookId))

def rebuildActivationProjections (store : InMemoryLogbookEventStore) (logbookId : Uuid) :
    Outcome StoreError ActivationProjection :=
  Outcome.mapError (fun error => .projection error.toString)
    (Projection.rebuild ActivationProjection (store.listEvents logbookId))

instance : LogbookEventStore InMemoryLogbookEventStore where
  appendEvent := appendEvent
  appendVerifiedRemoteEvent := appendVerifiedRemoteEvent
  getEvent store eventId := .ok (store.getEvent eventId)
  getHead store logbookId := .ok (store.getHead logbookId)
  listEvents store logbookId := .ok (store.listEvents logbookId)
  listEventsAfter store logbookId afterHash := .ok (store.listEventsAfter logbookId afterHash)
  verifyChain := verifyChain
  rebuildProjections := rebuildProjections
  rebuildActivationProjections := rebuildActivationProjections

end InMemoryLogbookEventStore
end HamLogger
