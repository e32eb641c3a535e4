import HamLogger.Core.Event

/-! The event bus: diagnostic events of the running core, kept apart from the
official logbook events, and the redaction of what they carry. -/
namespace HamLogger

inductive RuntimeEventSeverity where
  | trace | debug | info | warn | error
  deriving DecidableEq

/-- A diagnostic event, without the identifiers and the time that are drawn
when it is built. -/
structure RuntimeEventEnvelope where
  eventType : String
  severity : RuntimeEventSeverity
  source : String
  sourcePluginId : Option String
  correlationId : Uuid
  deviceId : Uuid
  workspaceId : Option String
  payloadSummary : String
  redactedPayload : Option Value
  error : Option String
  deriving DecidableEq

/-- `str::contains`. -/
def strContains (text needle : String) : Bool :=
  text.toList.tails.any fun tail => needle.toList.isPrefixOf tail

def isSecretLikeKey (key : String) : Bool :=
  ["password", "passwd", "token", "secret", "api_key", "apikey", "authorization", "auth",
    "private_key"].any (strContains (toAsciiLowercase key))

mutual

def redactPayload : Value → Value
  | .object fields => .object (redactFields fields)
  | .array values => .array (redactElements values)
  | .null => .null
  | .bool value => .bool value
  | .number value => .number value
  | .string text => .string text

def redactElements : List Value → List Value
  | [] => []
  | value :: rest => redactPayload value :: redactElements rest

def redactFields : List (String × Value) → List (String × Value)
  | [] => []
  | (key, value) :: rest =>
      (key, if isSecretLikeKey key then .string "[REDACTED]" else redactPayload value) ::
        redactFields rest

end

def RuntimeEventEnvelope.new (eventType : String) (severity : RuntimeEventSeverity)
    (source : String) (sourcePluginId : Option String) (correlationId deviceId : Uuid)
    (workspaceId : Option String) (payloadSummary : String) (redactedPayload : Option Value)
    (error : Option String) : RuntimeEventEnvelope where
  eventType := eventType
  severity := severity
  source := source
  sourcePluginId := sourcePluginId
  correlationId := correlationId
  deviceId := deviceId
  workspaceId := workspaceId
  payloadSummary := payloadSummary
  redactedPayload := redactedPayload.map redactPayload
  error := error

inductive BusEvent where
  | officialLogbookEvent (event : CoreEventEnvelope)
  | runtime (event : RuntimeEventEnvelope)
  deriving DecidableEq

inductive EventBusError where
  | noSubscribers
  | io (text : String)
  deriving DecidableEq

def EventBusError.toString : EventBusError → String
  | .noSubscribers => "no active subscribers accepted the event"
  | .io text => "event bus I/O error: " ++ text

/-- Publishing an event, which can fail, tells how many received it. -/
class EventBus (B : Type) where
  publish : B → BusEvent → B × Except EventBusError Nat

/-- The bus inside one process: the latest runtime events, and as many
receivers as have subscribed. -/
structure InMemoryEventBus where
  receiverCount : Nat
  recentRuntimeEvents : List RuntimeEventEnvelope := []
  replayCapacity : Nat := 128
  deriving DecidableEq

namespace InMemoryEventBus

def publish (bus : InMemoryEventBus) (event : BusEvent) :
    InMemoryEventBus × Except EventBusError Nat :=
  match event with
  | .officialLogbookEvent _ => (bus, .ok bus.receiverCount)
  | .runtime event =>
      let recent :=
        if bus.replayCapacity ≤ bus.recentRuntimeEvents.length then bus.recentRuntimeEvents.tail
        else bus.recentRuntimeEvents
      ({ bus with recentRuntimeEvents := recent ++ [event] }, .ok bus.receiverCount)

instance : EventBus InMemoryEventBus := ⟨publish⟩

end InMemoryEventBus
end HamLogger
