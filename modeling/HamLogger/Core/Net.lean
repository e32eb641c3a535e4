import HamLogger.Core.Projection
import Mathlib.Data.List.Sort

/-! Net control: sessions, check-ins, traffic and exported reports, as the
current state of their official events. -/
namespace HamLogger

inductive NetSessionStatus where
  | planned | active | ended | cancelled
  deriving DecidableEq

inductive NetCheckInStatus where
  | checkedIn | late | excused | left | duplicate | deleted
  deriving DecidableEq

inductive NetTrafficLevel where
  | none | listed | priority | emergency
  deriving DecidableEq

inductive NetTrafficPrecedence where
  | routine | priority | emergency
  deriving DecidableEq

inductive NetTrafficStatus where
  | listed | passed | cancelled
  deriving DecidableEq

structure NetSessionRecord where
  netSessionId : Uuid
  payload : Value
  status : NetSessionStatus
  checkinIds : List Uuid
  trafficIds : List Uuid
  checkinCount : Nat
  lateCheckinCount : Nat
  trafficCount : Nat
  emergencyTrafficCount : Nat
  duplicateWarnings : List String
  lastEventHash : String
  deriving DecidableEq

structure NetCheckInRecord where
  checkinId : Uuid
  netSessionId : Uuid
  payload : Value
  status : NetCheckInStatus
  traffic : NetTrafficLevel
  deleted : Bool
  lastEventHash : String
  deriving DecidableEq

structure NetTrafficRecord where
  trafficId : Uuid
  netSessionId : Uuid
  payload : Value
  precedence : NetTrafficPrecedence
  status : NetTrafficStatus
  lastEventHash : String
  deriving DecidableEq

structure NetControlProjection where
  templates : KeyMap Uuid Value := ∅
  sessions : KeyMap Uuid NetSessionRecord := ∅
  checkins : KeyMap Uuid NetCheckInRecord := ∅
  traffic : KeyMap Uuid NetTrafficRecord := ∅
  exportedReports : List Value := []
  deriving DecidableEq

inductive NetProjectionError where
  | payloadMustBeObject
  | invalidUuid (field : String)
  deriving DecidableEq

def NetProjectionError.toString : NetProjectionError → String
  | .payloadMustBeObject => "net event payload must be an object"
  | .invalidUuid field => "net payload field " ++ field ++ " must be a uuid string"

/-- The order of optional strings, an absent one first. -/
def optionStrLe : Option String → Option String → Bool
  | none, _ => true
  | some _, none => false
  | some a, some b => decide (a ≤ b)

namespace NetControlProjection

def getSession (projection : NetControlProjection) (sessionId : Uuid) : Option NetSessionRecord :=
  projection.sessions.lookup sessionId

def sessionList (projection : NetControlProjection) (includeEndedCancelled : Bool) :
    List NetSessionRecord :=
  projection.sessions.values.filter fun session =>
    includeEndedCancelled || decide (session.status = .planned ∨ session.status = .active)

def checkinsForSession (projection : NetControlProjection) (netSessionId : Uuid)
    (includeDeleted : Bool) : List NetCheckInRecord :=
  (projection.checkins.values.filter fun checkin =>
    decide (checkin.netSessionId = netSessionId) && (includeDeleted || !checkin.deleted)).mergeSort
      fun a b => optionStrLe ((a.payload.get "checkin_time").bind Value.asStr)
        ((b.payload.get "checkin_time").bind Value.asStr)

/-- The uppercase callsigns of check-ins that repeat an earlier one. -/
def duplicateCallsigns : List String → List String → List String
  | _, [] => []
  | seen, callsign :: rest =>
      if callsign ∈ seen then callsign :: duplicateCallsigns seen rest
      else duplicateCallsigns (callsign :: seen) rest

/-- The derived fields of one session, recomputed from scratch. -/
def recomputeSession (checkins : List NetCheckInRecord) (traffic : List NetTrafficRecord)
    (session : NetSessionRecord) : NetSessionRecord :=
  let ownCheckins := checkins.filter fun checkin =>
    decide (checkin.netSessionId = session.netSessionId) && !checkin.deleted
  let ownTraffic := traffic.filter fun traffic => traffic.netSessionId = session.netSessionId
  let callsigns := ownCheckins.filterMap fun checkin =>
    ((checkin.payload.get "callsign").bind Value.asStr).map toAsciiUppercase
  { session with
    checkinIds := (ownCheckins.map NetCheckInRecord.checkinId).dedup
    trafficIds := (ownTraffic.map NetTrafficRecord.trafficId).dedup
    checkinCount := ownCheckins.length
    lateCheckinCount := (ownCheckins.filter fun checkin => checkin.status = .late).length
    trafficCount := ownTraffic.length
    emergencyTrafficCount :=
      (ownTraffic.filter fun traffic => traffic.precedence = .emergency).length
    duplicateWarnings :=
      (duplicateCallsigns [] callsigns).map fun callsign => "Duplicate check-in: " ++ callsign }

def recomputeStats (projection : NetControlProjection) : NetControlProjection :=
  { projection with
    sessions := projection.sessions.mapValues
      (recomputeSession projection.checkins.values projection.traffic.values) }

end NetControlProjection

def netMergeJsonObject (target patch : Value) : Outcome NetProjectionError Value :=
  Value.mergeObject (.error .payloadMustBeObject) target patch

def checkinStatusFromPayload (payload : Value) : NetCheckInStatus :=
  match ((payload.get "status").bind Value.asStr).getD "checked_in" with
  | "late" => .late
  | "excused" => .excused
  | "left" => .left
  | "duplicate" => .duplicate
  | _ => .checkedIn

def trafficLevelFromPayload (payload : Value) : NetTrafficLevel :=
  match ((payload.get "traffic").bind Value.asStr).getD "none" with
  | "listed" => .listed
  | "priority" => .priority
  | "emergency" => .emergency
  | _ => .none

def trafficPrecedenceFromPayload (payload : Value) : NetTrafficPrecedence :=
  match ((payload.get "precedence").bind Value.asStr).getD "routine" with
  | "priority" => .priority
  | "emergency" => .emergency
  | _ => .routine

def trafficStatusFromPayload (payload : Value) : NetTrafficStatus :=
  match ((payload.get "status").bind Value.asStr).getD "listed" with
  | "passed" => .passed
  | "cancelled" => .cancelled
  | _ => .listed

variable [UuidCrate]

def uuidFromPayload (payload : Value) (key : String) : Outcome NetProjectionError Uuid :=
  match uuidField payload key with
  | some id => .ok id
  | none => .error (.error (.invalidUuid key))

theorem uuidFromPayload_succeeds_iff (payload : Value) (key : String) :
    (∃ id, uuidFromPayload payload key = .ok id) ↔ (uuidField payload key).isSome = true := by
  unfold uuidFromPayload
  split <;> simp_all

/-- Only objects have identifier fields. -/
theorem isObject_of_uuidField {payload : Value} {key : String}
    (h : (uuidField payload key).isSome = true) : payload.isObject = true := by
  unfold uuidField at h
  cases hGet : payload.get key with
  | none => simp [hGet] at h
  | some field => exact Value.isObject_of_get hGet

namespace NetControlProjection

/-- The template payload that a creation event puts in place. -/
def createdTemplate (event : CoreEventEnvelope) (entityId : Uuid) :
    Outcome NetProjectionError Value :=
  assignField event.payload "net_template_id" (uuidJson entityId)

/-- The session that a start event puts in place. -/
def startedSession (event : CoreEventEnvelope) (entityId : Uuid) :
    Outcome NetProjectionError NetSessionRecord :=
  (assignField event.payload "net_session_id" (uuidJson entityId)).map fun payload =>
    { netSessionId := entityId, payload := payload, status := .active, checkinIds := [],
      trafficIds := [], checkinCount := 0, lateCheckinCount := 0, trafficCount := 0,
      emergencyTrafficCount := 0, duplicateWarnings := [], lastEventHash := event.eventHash }

/-- The session after an event that ends or cancels it. -/
def closedSession (event : CoreEventEnvelope) (status : NetSessionStatus)
    (session : NetSessionRecord) : Outcome NetProjectionError NetSessionRecord :=
  (netMergeJsonObject session.payload event.payload).map fun payload =>
    { session with payload := payload, status := status, lastEventHash := event.eventHash }

/-- The check-in that a creation event puts in place. -/
def createdCheckin (event : CoreEventEnvelope) (entityId : Uuid) :
    Outcome NetProjectionError NetCheckInRecord :=
  match uuidFromPayload event.payload "net_session_id" with
  | .error fault => .error fault
  | .ok netSessionId =>
      (assignField event.payload "checkin_id" (uuidJson entityId)).map fun payload =>
        { checkinId := entityId, netSessionId := netSessionId, payload := payload,
          status := checkinStatusFromPayload event.payload,
          traffic := trafficLevelFromPayload event.payload, deleted := false,
          lastEventHash := event.eventHash }

/-- The check-in after a correction. -/
def updatedCheckin (event : CoreEventEnvelope) (checkin : NetCheckInRecord) :
    Outcome NetProjectionError NetCheckInRecord :=
  (netMergeJsonObject checkin.payload event.payload).map fun payload =>
    { checkin with payload := payload, status := checkinStatusFromPayload payload,
                   traffic := trafficLevelFromPayload payload,
                   lastEventHash := event.eventHash }

/-- The traffic record that a creation event puts in place. -/
def createdTraffic (event : CoreEventEnvelope) (entityId : Uuid) :
    Outcome NetProjectionError NetTrafficRecord :=
  match uuidFromPayload event.payload "net_session_id" with
  | .error fault => .error fault
  | .ok netSessionId =>
      (assignField event.payload "traffic_id" (uuidJson entityId)).map fun payload =>
        { trafficId := entityId, netSessionId := netSessionId, payload := payload,
          precedence := trafficPrecedenceFromPayload event.payload,
          status := trafficStatusFromPayload event.payload,
          lastEventHash := event.eventHash }

/-- The traffic record after a correction. -/
def updatedTraffic (event : CoreEventEnvelope) (traffic : NetTrafficRecord) :
    Outcome NetProjectionError NetTrafficRecord :=
  (netMergeJsonObject traffic.payload event.payload).map fun payload =>
    { traffic with payload := payload, precedence := trafficPrecedenceFromPayload payload,
                   status := trafficStatusFromPayload payload,
                   lastEventHash := event.eventHash }

/-- The effect of an event before the session statistics are recomputed. -/
def applyRecords (projection : NetControlProjection) (event : CoreEventEnvelope)
    (entityId : Uuid) : Outcome NetProjectionError NetControlProjection :=
  match event.eventType with
  | .netTemplateCreated =>
      (projection.templates.tryInsert entityId (createdTemplate event entityId)).map
        fun templates => { projection with templates := templates }
  | .netTemplateUpdated =>
      (projection.templates.tryModify entityId fun template =>
        netMergeJsonObject template event.payload).map
        fun templates => { projection with templates := templates }
  | .netSessionStarted =>
      (projection.sessions.tryInsert entityId (startedSession event entityId)).map
        fun sessions => { projection with sessions := sessions }
  | .netSessionEnded =>
      (projection.sessions.tryModify entityId (closedSession event .ended)).map
        fun sessions => { projection with sessions := sessions }
  | .netSessionCancelled =>
      (projection.sessions.tryModify entityId (closedSession event .cancelled)).map
        fun sessions => { projection with sessions := sessions }
  | .netCheckinCreated =>
      (projection.checkins.tryInsert entityId (createdCheckin event entityId)).map
        fun checkins => { projection with checkins := checkins }
  | .netCheckinUpdated =>
      (projection.checkins.tryModify entityId (updatedCheckin event)).map
        fun checkins => { projection with checkins := checkins }
  | .netCheckinDeleted =>
      .ok { projection with
            checkins := projection.checkins.modify entityId fun checkin =>
              { checkin with deleted := true, status := .deleted,
                             lastEventHash := event.eventHash } }
  | .netTrafficCreated =>
      (projection.traffic.tryInsert entityId (createdTraffic event entityId)).map
        fun traffic => { projection with traffic := traffic }
  | .netTrafficUpdated =>
      (projection.traffic.tryModify entityId (updatedTraffic event)).map
        fun traffic => { projection with traffic := traffic }
  | .netReportExported =>
      .ok { projection with exportedReports := projection.exportedReports ++ [event.payload] }
  | _ => .ok projection

def apply (projection : NetControlProjection) (event : CoreEventEnvelope) :
    Outcome NetProjectionError NetControlProjection :=
  match event.entityId with
  | none => .ok projection
  | some entityId => (projection.applyRecords event entityId).map recomputeStats

instance : Projection NetControlProjection NetProjectionError where
  clear := {}
  apply := apply

end NetControlProjection
end HamLogger
