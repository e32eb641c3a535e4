import HamLogger.Core.PluginSdk

/-! Official logbook events: what is appended, and how its hash is computed. -/
namespace HamLogger

/-- A canonical official logbook event. -/
structure CoreEventEnvelope where
  eventId : Uuid
  eventType : EventType
  logbookId : Uuid
  entityId : Option Uuid
  previousHash : Option String
  eventHash : String
  timestamp : DateTime
  authorOperatorId : Option Uuid
  stationCallsign : String
  operatorCallsign : Option String
  authorDeviceId : Uuid
  sourceDeviceId : Uuid
  correlationId : Uuid
  sourcePluginId : Option String
  schemaVersion : UInt32
  payload : Value
  deriving DecidableEq

/-- Input for appending a new official logbook event. -/
structure NewLogbookEvent where
  eventType : EventType
  logbookId : Uuid
  entityId : Option Uuid
  authorOperatorId : Option Uuid
  stationCallsign : String
  operatorCallsign : Option String
  authorDeviceId : Uuid
  sourceDeviceId : Uuid
  correlationId : Uuid
  sourcePluginId : Option String
  schemaVersion : UInt32
  payload : Value
  deriving DecidableEq

/-- The material of the event hash: every field of an event but the hash. -/
structure CanonicalEvent where
  eventId : Uuid
  eventType : EventType
  logbookId : Uuid
  entityId : Option Uuid
  previousHash : Option String
  timestamp : DateTime
  authorOperatorId : Option Uuid
  stationCallsign : String
  operatorCallsign : Option String
  authorDeviceId : Uuid
  sourceDeviceId : Uuid
  correlationId : Uuid
  sourcePluginId : Option String
  schemaVersion : UInt32
  payload : Value
  deriving DecidableEq

/-- `serde_json::to_vec` of the hash material. -/
class CanonicalJson where
  toVec : CanonicalEvent → List UInt8

/-- `serde_json::to_writer` and `serde_json::from_str` at the event type. -/
class EventJson where
  toWriter : CoreEventEnvelope → List UInt8
  fromStr : String → Except String CoreEventEnvelope

/-- What the environment supplies for a new event: a random identifier and
the current time. -/
structure EventStamp where
  eventId : Uuid
  timestamp : DateTime

namespace CoreEventEnvelope

def canonical (event : CoreEventEnvelope) : CanonicalEvent where
  eventId := event.eventId
  eventType := event.eventType
  logbookId := event.logbookId
  entityId := event.entityId
  previousHash := event.previousHash
  timestamp := event.timestamp
  authorOperatorId := event.authorOperatorId
  stationCallsign := event.stationCallsign
  operatorCallsign := event.operatorCallsign
  authorDeviceId := event.authorDeviceId
  sourceDeviceId := event.sourceDeviceId
  correlationId := event.correlationId
  sourcePluginId := event.sourcePluginId
  schemaVersion := event.schemaVersion
  payload := event.payload

variable [CanonicalJson] [Sha2Crate]

def calculateHash (event : CoreEventEnvelope) : String :=
  bytesToHex (Sha2Crate.digest (CanonicalJson.toVec event.canonical))

def hashIsValid (event : CoreEventEnvelope) : Bool :=
  event.eventHash == event.calculateHash

def fromNew (newEvent : NewLogbookEvent) (previousHash : Option String)
    (stamp : EventStamp) : CoreEventEnvelope :=
  let event : CoreEventEnvelope :=
    { eventId := stamp.eventId
      eventType := newEvent.eventType
      logbookId := newEvent.logbookId
      entityId := newEvent.entityId
      previousHash := previousHash
      eventHash := ""
      timestamp := stamp.timestamp
      authorOperatorId := newEvent.authorOperatorId
      stationCallsign := newEvent.stationCallsign
      operatorCallsign := newEvent.operatorCallsign
      authorDeviceId := newEvent.authorDeviceId
      sourceDeviceId := newEvent.sourceDeviceId
      correlationId := newEvent.correlationId
      sourcePluginId := newEvent.sourcePluginId
      schemaVersion := newEvent.schemaVersion
      payload := newEvent.payload }
  { event with eventHash := event.calculateHash }

/-- A new event carries the hash of its own content. -/
theorem fromNew_hashIsValid (newEvent : NewLogbookEvent) (previousHash : Option String)
    (stamp : EventStamp) : (fromNew newEvent previousHash stamp).hashIsValid = true := by
  simp [hashIsValid, fromNew, calculateHash, canonical]

section Fields
variable (newEvent : NewLogbookEvent) (previousHash : Option String) (stamp : EventStamp)

@[simp] theorem fromNew_eventId :
    (fromNew newEvent previousHash stamp).eventId = stamp.eventId := rfl

@[simp] theorem fromNew_eventType :
    (fromNew newEvent previousHash stamp).eventType = newEvent.eventType := rfl

@[simp] theorem fromNew_logbookId :
    (fromNew newEvent previousHash stamp).logbookId = newEvent.logbookId := rfl

@[simp] theorem fromNew_entityId :
    (fromNew newEvent previousHash stamp).entityId = newEvent.entityId := rfl

@[simp] theorem fromNew_previousHash :
    (fromNew newEvent previousHash stamp).previousHash = previousHash := rfl

@[simp] theorem fromNew_schemaVersion :
    (fromNew newEvent previousHash stamp).schemaVersion = newEvent.schemaVersion := rfl

@[simp] theorem fromNew_payload :
    (fromNew newEvent previousHash stamp).payload = newEvent.payload := rfl

end Fields

end CoreEventEnvelope
end HamLogger
