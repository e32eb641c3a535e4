import HamLogger.Core.Projection

/-! Emergency communications: incidents, operational periods, people,
assignments, messages and activity, as the current state of their official
events. A call that fails may leave the projection changed, so applying an
event returns the projection it leaves along with the outcome. -/
namespace HamLogger

inductive IcsForm where
  | ics211 | ics213 | ics213Rr | ics214
  deriving DecidableEq

inductive EmCommProjectionError where
  | payloadNotObject
  | missingField (field : String)
  | invalidUuid (field : String)
  | invalidMessageNumber (value : String)
  deriving DecidableEq

def EmCommProjectionError.toString : EmCommProjectionError → String
  | .payloadNotObject => "event payload must be a JSON object"
  | .missingField field => "event payload is missing required field `" ++ field ++ "`"
  | .invalidUuid field => "event payload field `" ++ field ++ "` is not a valid uuid"
  | .invalidMessageNumber value =>
      "message number `" ++ value ++ "` is not a valid station-scoped message number"

inductive IncidentStatus where
  | «open» | closed
  deriving DecidableEq

inductive OperationalPeriodStatus where
  | «open» | closed
  deriving DecidableEq

inductive PersonStatus where
  | checkedIn | checkedOut
  deriving DecidableEq

inductive AssignmentStatus where
  | active | released
  deriving DecidableEq

inductive MessageStatus where
  | draft | transmitted | received | acknowledged | cancelled
  deriving DecidableEq

inductive MessagePrecedence where
  | emergency | priority | immediate | routine
  deriving DecidableEq

def MessagePrecedence.fromPayload (payload : Fields) : MessagePrecedence :=
  match toAsciiLowercase (((payload.get "precedence").bind Value.asStr).getD "") with
  | "emergency" => .emergency
  | "priority" => .priority
  | "immediate" => .immediate
  | _ => .routine

def formFromPayload (payload : Fields) : IcsForm :=
  match toAsciiUppercase (((payload.get "form").bind Value.asStr).getD "") with
  | "ICS-213RR" | "ICS213RR" | "213RR" => .ics213Rr
  | "ICS-211" | "ICS211" | "211" => .ics211
  | "ICS-214" | "ICS214" | "214" => .ics214
  | _ => .ics213

/-- `str::rsplit_once('-')`. -/
def rsplitOnceDash (value : String) : Option (String × String) :=
  let reversed := value.toList.reverse
  match reversed.dropWhile (· ≠ '-') with
  | [] => none
  | _ :: before =>
      some (String.ofList before.reverse, String.ofList (reversed.takeWhile (· ≠ '-')).reverse)

/-- `str::parse` at the type `u32`: an optional plus sign and decimal digits. -/
def parseU32 (text : String) : Option UInt32 :=
  let digits : List Char := match text.toList with
    | '+' :: rest => rest
    | all => all
  let value : Nat := digits.foldl (fun total digit => total * 10 + (digit.toNat - 48)) 0
  if digits ≠ [] ∧ digits.all Char.isDigit ∧ value < 2 ^ 32 then
    some (UInt32.ofNat value)
  else none

/-- A message number of one station. -/
structure MessageNumber where
  stationPrefix : String
  sequence : UInt32
  deriving DecidableEq

def MessageNumber.parse (value : String) : Except EmCommProjectionError MessageNumber :=
  match rsplitOnceDash value with
  | none => .error (.invalidMessageNumber value)
  | some (stationPrefix, sequence) =>
      if trim stationPrefix = "" then .error (.invalidMessageNumber value)
      else match parseU32 sequence with
        | none => .error (.invalidMessageNumber value)
        | some sequence =>
            if sequence = 0 then .error (.invalidMessageNumber value)
            else .ok { stationPrefix := toAsciiUppercase stationPrefix, sequence := sequence }

/-- One entry of the audit trail of a record. -/
structure RecordChange where
  eventType : EventType
  eventHash : String
  recordedAt : DateTime
  payload : Value
  deriving DecidableEq

def changeFrom (event : CoreEventEnvelope) : RecordChange where
  eventType := event.eventType
  eventHash := event.eventHash
  recordedAt := event.timestamp
  payload := event.payload

/-- What every record of the model has: the merged payload, a status, and
every event that built it. -/
structure EmCommRecord (Status : Type) where
  payload : Value
  status : Status
  history : List RecordChange
  lastEventHash : String
  deriving DecidableEq

def mergePayload (target patch : Value) : Except EmCommProjectionError Value :=
  match patch.asObject with
  | none => .error .payloadNotObject
  | some patch =>
      match target.asObject with
      | none => .error .payloadNotObject
      | some target => .ok (.object (Value.mergeFields target patch))

namespace EmCommRecord
variable {Status : Type}

def new (status : Status) (event : CoreEventEnvelope) (payload : Value) :
    EmCommRecord Status where
  payload := payload
  status := status
  history := [changeFrom event]
  lastEventHash := event.eventHash

def append (record : EmCommRecord Status) (event : CoreEventEnvelope) (status : Status) :
    Except EmCommProjectionError (EmCommRecord Status) :=
  match mergePayload record.payload event.payload with
  | .error error => .error error
  | .ok payload =>
      .ok { payload := payload, status := status,
            history := record.history ++ [changeFrom event], lastEventHash := event.eventHash }

/-- A record whose payload is an object takes every object as an amendment. -/
theorem append_of_isObject {record : EmCommRecord Status} {event : CoreEventEnvelope}
    (hRecord : record.payload.isObject = true) (hEvent : event.payload.isObject = true)
    (status : Status) :
    ∃ next, record.append event status = .ok next ∧ next.payload.isObject = true := by
  obtain ⟨target, hTarget⟩ := (Value.isObject_iff _).mp hRecord
  obtain ⟨patch, hPatch⟩ := (Value.isObject_iff _).mp hEvent
  exact ⟨_, by simp [append, mergePayload, hTarget, hPatch]; rfl, rfl⟩

end EmCommRecord

structure IncidentRecord where
  incidentId : Uuid
  record : EmCommRecord IncidentStatus
  deriving DecidableEq

structure OperationalPeriodRecord where
  periodId : Uuid
  incidentId : Uuid
  record : EmCommRecord OperationalPeriodStatus
  deriving DecidableEq

structure PersonRecord where
  personId : Uuid
  incidentId : Uuid
  periodId : Option Uuid
  record : EmCommRecord PersonStatus
  deriving DecidableEq

structure AssignmentRecord where
  assignmentId : Uuid
  incidentId : Uuid
  personId : Uuid
  record : EmCommRecord AssignmentStatus
  deriving DecidableEq

structure MessageRecord where
  messageId : Uuid
  incidentId : Uuid
  messageNumber : MessageNumber
  precedence : MessagePrecedence
  form : IcsForm
  record : EmCommRecord MessageStatus
  deriving DecidableEq

structure ActivityLogEntry where
  activityId : Uuid
  incidentId : Uuid
  periodId : Option Uuid
  occurredAt : Option DateTime
  payload : Value
  eventHash : String
  deriving DecidableEq

structure EmCommProjection where
  incidents : KeyMap Uuid IncidentRecord := ∅
  periods : KeyMap Uuid OperationalPeriodRecord := ∅
  people : KeyMap Uuid PersonRecord := ∅
  assignments : KeyMap Uuid AssignmentRecord := ∅
  messages : KeyMap Uuid MessageRecord := ∅
  activity : List ActivityLogEntry := []
  deriving DecidableEq

variable [UuidCrate]

def requiredUuid (payload : Fields) (field : String) : Except EmCommProjectionError Uuid :=
  match (payload.get field).bind Value.asStr with
  | none => .error (.missingField field)
  | some raw =>
      match UuidCrate.parseStr raw with
      | none => .error (.invalidUuid field)
      | some id => .ok id

def optionalUuid (payload : Fields) (field : String) :
    Except EmCommProjectionError (Option Uuid) :=
  match payload.get field with
  | none | some .null => .ok none
  | some value =>
      match value.asStr.bind UuidCrate.parseStr with
      | none => .error (.invalidUuid field)
      | some id => .ok (some id)

/-- The payload of a new record: that of the event, with the identifier of
the record in the given field. -/
def storedPayload (payload : Fields) (field : String) (entityId : Uuid) : Value :=
  .object (payload.insert field (uuidJson entityId))

namespace EmCommProjection

/-- The outcome of a call that changes nothing unless it succeeds. -/
def commit (projection : EmCommProjection) :
    Except EmCommProjectionError EmCommProjection →
      EmCommProjection × Except EmCommProjectionError Unit
  | .ok next => (next, .ok ())
  | .error error => (projection, .error error)

def amendIncident (projection : EmCommProjection) (entityId : Uuid) (event : CoreEventEnvelope)
    (status : IncidentStatus → IncidentStatus) : Except EmCommProjectionError EmCommProjection :=
  (projection.incidents.tryModify entityId fun incident =>
    (incident.record.append event (status incident.record.status)).map fun record =>
      { incident with record := record }).map
    fun incidents => { projection with incidents := incidents }

def amendPeriod (projection : EmCommProjection) (entityId : Uuid) (event : CoreEventEnvelope)
    (status : OperationalPeriodStatus) : Except EmCommProjectionError EmCommProjection :=
  (projection.periods.tryModify entityId fun period =>
    (period.record.append event status).map fun record => { period with record := record }).map
    fun periods => { projection with periods := periods }

def amendPerson (projection : EmCommProjection) (entityId : Uuid) (event : CoreEventEnvelope)
    (status : PersonStatus → PersonStatus) : Except EmCommProjectionError EmCommProjection :=
  (projection.people.tryModify entityId fun person =>
    (person.record.append event (status person.record.status)).map fun record =>
      { person with record := record }).map
    fun people => { projection with people := people }

def amendAssignment (projection : EmCommProjection) (entityId : Uuid)
    (event : CoreEventEnvelope) (status : AssignmentStatus → AssignmentStatus) :
    Except EmCommProjectionError EmCommProjection :=
  (projection.assignments.tryModify entityId fun assignment =>
    (assignment.record.append event (status assignment.record.status)).map fun record =>
      { assignment with record := record }).map
    fun assignments => { projection with assignments := assignments }

def amendMessage (projection : EmCommProjection) (entityId : Uuid) (event : CoreEventEnvelope)
    (status : MessageStatus → MessageStatus) (precedence : MessagePrecedence → MessagePrecedence) :
    Except EmCommProjectionError EmCommProjection :=
  (projection.messages.tryModify entityId fun message =>
    (message.record.append event (status message.record.status)).map fun record =>
      { message with record := record, precedence := precedence message.precedence }).map
    fun messages => { projection with messages := messages }

def advanceMessage (projection : EmCommProjection) (messageId : Uuid)
    (event : CoreEventEnvelope) (status : MessageStatus) :
    Except EmCommProjectionError EmCommProjection :=
  projection.amendMessage messageId event (fun _ => status) id

def openPeriod (projection : EmCommProjection) (entityId : Uuid) (event : CoreEventEnvelope)
    (payload : Fields) : Except EmCommProjectionError EmCommProjection :=
  (requiredUuid payload "incident_id").map fun incidentId =>
    { projection with
      periods := projection.periods.insert entityId
        { periodId := entityId, incidentId := incidentId,
          record := .new .open event (storedPayload payload "period_id" entityId) } }

def checkInPerson (projection : EmCommProjection) (entityId : Uuid) (event : CoreEventEnvelope)
    (payload : Fields) : Except EmCommProjectionError EmCommProjection := do
  let incidentId ← requiredUuid payload "incident_id"
  let periodId ← optionalUuid payload "period_id"
  return { projection with
    people := projection.people.insert entityId
      { personId := entityId, incidentId := incidentId, periodId := periodId,
        record := .new .checkedIn event (storedPayload payload "person_id" entityId) } }

/-- The period is read only after the record has been amended, so a period
that cannot be read fails the call and leaves the amendment in place. -/
def updatePerson (projection : EmCommProjection) (entityId : Uuid) (event : CoreEventEnvelope)
    (payload : Fields) : EmCommProjection × Except EmCommProjectionError Unit :=
  match projection.people.lookup entityId with
  | none => (projection, .ok ())
  | some person =>
      match person.record.append event person.record.status with
      | .error error => (projection, .error error)
      | .ok record =>
          let place (person : PersonRecord) : EmCommProjection :=
            { projection with people := projection.people.insert entityId person }
          match optionalUuid payload "period_id" with
          | .error error => (place { person with record := record }, .error error)
          | .ok none => (place { person with record := record }, .ok ())
          | .ok (some periodId) =>
              (place { person with record := record, periodId := some periodId }, .ok ())

def createAssignment (projection : EmCommProjection) (entityId : Uuid)
    (event : CoreEventEnvelope) (payload : Fields) :
    Except EmCommProjectionError EmCommProjection := do
  let incidentId ← requiredUuid payload "incident_id"
  let personId ← requiredUuid payload "person_id"
  return { projection with
    assignments := projection.assignments.insert entityId
      { assignmentId := entityId, incidentId := incidentId, personId := personId,
        record := .new .active event (storedPayload payload "assignment_id" entityId) } }

/-- The message number a creation payload carries. -/
def payloadMessageNumber (payload : Fields) : Except EmCommProjectionError MessageNumber :=
  match (payload.get "message_number").bind Value.asStr with
  | none => .error (.missingField "message_number")
  | some text => MessageNumber.parse text

def createMessage (projection : EmCommProjection) (entityId : Uuid) (event : CoreEventEnvelope)
    (payload : Fields) : Except EmCommProjectionError EmCommProjection := do
  let incidentId ← requiredUuid payload "incident_id"
  let messageNumber ← payloadMessageNumber payload
  return { projection with
    messages := projection.messages.insert entityId
      { messageId := entityId, incidentId := incidentId, messageNumber := messageNumber,
        precedence := MessagePrecedence.fromPayload payload, form := formFromPayload payload,
        record := .new .draft event (storedPayload payload "message_id" entityId) } }

def logActivity [ChronoCrate] (projection : EmCommProjection) (entityId : Uuid)
    (event : CoreEventEnvelope) (payload : Fields) :
    Except EmCommProjectionError EmCommProjection := do
  let incidentId ← requiredUuid payload "incident_id"
  let periodId ← optionalUuid payload "period_id"
  return { projection with
    activity := projection.activity ++
      [{ activityId := entityId, incidentId := incidentId, periodId := periodId,
         occurredAt := ((payload.get "occurred_at").bind Value.asStr).bind
           ChronoCrate.parseFromRfc3339,
         payload := storedPayload payload "activity_id" entityId,
         eventHash := event.eventHash }] }

/-- The effect of an event about an entity, with the payload of the event. -/
def applyRecords [ChronoCrate] (projection : EmCommProjection) (event : CoreEventEnvelope)
    (entityId : Uuid) (payload : Fields) :
    EmCommProjection × Except EmCommProjectionError Unit :=
  match event.eventType with
  | .emcommIncidentOpened =>
      ({ projection with
          incidents := projection.incidents.insert entityId
            { incidentId := entityId,
              record := .new .open event (storedPayload payload "incident_id" entityId) } },
        .ok ())
  | .emcommIncidentUpdated => projection.commit (projection.amendIncident entityId event id)
  | .emcommIncidentClosed =>
      projection.commit (projection.amendIncident entityId event fun _ => .closed)
  | .emcommPeriodOpened => projection.commit (projection.openPeriod entityId event payload)
  | .emcommPeriodClosed => projection.commit (projection.amendPeriod entityId event .closed)
  | .emcommPersonCheckedIn => projection.commit (projection.checkInPerson entityId event payload)
  | .emcommPersonUpdated => projection.updatePerson entityId event payload
  | .emcommPersonCheckedOut =>
      projection.commit (projection.amendPerson entityId event fun _ => .checkedOut)
  | .emcommAssignmentCreated =>
      projection.commit (projection.createAssignment entityId event payload)
  | .emcommAssignmentUpdated => projection.commit (projection.amendAssignment entityId event id)
  | .emcommAssignmentReleased =>
      projection.commit (projection.amendAssignment entityId event fun _ => .released)
  | .emcommMessageCreated => projection.commit (projection.createMessage entityId event payload)
  | .emcommMessageUpdated =>
      projection.commit (projection.amendMessage entityId event id fun precedence =>
        if payload.containsKey "precedence" then MessagePrecedence.fromPayload payload
        else precedence)
  | .emcommMessageTransmitted =>
      projection.commit (projection.advanceMessage entityId event .transmitted)
  | .emcommMessageReceived =>
      projection.commit (projection.advanceMessage entityId event .received)
  | .emcommMessageAcknowledged =>
      projection.commit (projection.advanceMessage entityId event .acknowledged)
  | .emcommMessageCancelled =>
      projection.commit (projection.advanceMessage entityId event .cancelled)
  | .emcommActivityLogged => projection.commit (projection.logActivity entityId event payload)
  | _ => (projection, .ok ())

def apply [ChronoCrate] (projection : EmCommProjection) (event : CoreEventEnvelope) :
    EmCommProjection × Except EmCommProjectionError Unit :=
  match event.entityId with
  | none => (projection, .ok ())
  | some entityId =>
      if event.eventType.isEmComm = false then (projection, .ok ())
      else match event.payload.asObject with
        | none => (projection, .error .payloadNotObject)
        | some payload => projection.applyRecords event entityId payload

instance [ChronoCrate] : Projection EmCommProjection EmCommProjectionError where
  clear := {}
  apply projection event :=
    match projection.apply event with
    | (next, .ok ()) => .ok next
    | (_, .error error) => .error (.error error)

end EmCommProjection
end HamLogger
