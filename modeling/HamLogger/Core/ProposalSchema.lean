import HamLogger.Core.EmComm
import HamLogger.Core.Net
import HamLogger.Core.Store
import HamLogger.Core.Bus
import HamLogger.Core.Permissions

/-! The schema checks on a proposal: what each type of proposal must have in
its payload, and which records must already exist in the logbook. -/
namespace HamLogger

inductive OperatorRole where
  | readOnly | logger | admin
  deriving DecidableEq

/-- The derived `Debug` form. -/
def OperatorRole.debug : OperatorRole → String
  | .readOnly => "ReadOnly"
  | .logger => "Logger"
  | .admin => "Admin"

inductive ProposalValidationError where
  | pluginMismatch (proposalPluginId manifestPluginId : String)
  | missingPluginCapability (capability : PluginCapability)
  | pluginPermissionDenied (text : String)
  | permissionDenied (role : OperatorRole) (proposalType : ProposalType)
  | unsupportedProposalType (proposalType : ProposalType)
  | invalidSchema (text : String)
  | store (error : StoreError)
  | eventBus (error : EventBusError)
  deriving DecidableEq

def ProposalValidationError.toString [UuidCrate] [RustFmt] : ProposalValidationError → String
  | .pluginMismatch proposalPluginId manifestPluginId =>
      "plugin id mismatch: proposal came from " ++ proposalPluginId ++ ", manifest is " ++
        manifestPluginId
  | .missingPluginCapability capability =>
      "plugin is missing required capability " ++ capability.debug
  | .pluginPermissionDenied text => "plugin permission denied: " ++ text
  | .permissionDenied role proposalType =>
      "operator role " ++ role.debug ++ " cannot submit " ++ proposalType.name
  | .unsupportedProposalType proposalType => "unsupported proposal type " ++ proposalType.name
  | .invalidSchema text => "invalid proposal schema: " ++ text
  | .store error => "event store error: " ++ error.toString
  | .eventBus error => "event bus error: " ++ error.toString

/-- Refuse a proposal with a message about its schema. -/
def invalidSchema {α : Type} (message : String) : Outcome ProposalValidationError α :=
  .error (.error (.invalidSchema message))

def requireString (payload : Fields) (field label : String) :
    Outcome ProposalValidationError Unit :=
  if (payload.get field).any Value.isString then .ok ()
  else invalidSchema (label ++ " requires string field `" ++ field ++ "`")

/-- The loop over field names that several types of proposals have. -/
def requireStrings (payload : Fields) (label : String) :
    List String → Outcome ProposalValidationError Unit
  | [] => .ok ()
  | field :: rest => do
      requireString payload field label
      requireStrings payload label rest

def requireNonEmptyCorrection (payload : Fields) (label : String) :
    Outcome ProposalValidationError Unit :=
  if payload.isEmpty then invalidSchema (label ++ " must change at least one field") else .ok ()

def requireEntityId (proposal : ProposalEnvelope) : Outcome ProposalValidationError Uuid :=
  match proposal.entityId with
  | some id => .ok id
  | none => invalidSchema "qso correction/delete requires entity_id"

def validateFrequency (payload : Fields) : Outcome ProposalValidationError Unit :=
  match payload.get "frequency_hz" with
  | none => .ok ()
  | some frequency =>
      match frequency.asU64 with
      | none => invalidSchema "frequency_hz must be a positive integer"
      | some frequency =>
          if frequency = 0 then invalidSchema "frequency_hz must be positive" else .ok ()

def validateMessageNumber (payload : Fields) : Outcome ProposalValidationError Unit :=
  match MessageNumber.parse (((payload.get "message_number").bind Value.asStr).getD "") with
  | .ok _ => .ok ()
  | .error _ =>
      invalidSchema "message_number must be a station-scoped number such as `KE8YGW-0007`"

def validateMessagePrecedence (payload : Fields) : Outcome ProposalValidationError Unit :=
  match payload.get "precedence" with
  | none => .ok ()
  | some value =>
      if toAsciiLowercase (value.asStr.getD "") ∈
          ["emergency", "priority", "immediate", "routine"] then .ok ()
      else invalidSchema "precedence must be emergency, priority, immediate, or routine"

section Times
variable [ChronoCrate]

/-- A payload field that holds an instant as a string. -/
def timeField (payload : Fields) (key : String) : Option DateTime :=
  ((payload.get key).bind Value.asStr).bind ChronoCrate.parseFromRfc3339

/-- A time field that must be there and must parse. The source also compares
the offset of the parsed instant with UTC after converting it to UTC. -/
def validateTime (payload : Fields) (key : String) : Outcome ProposalValidationError Unit :=
  match (payload.get key).bind Value.asStr with
  | none => invalidSchema (key ++ " is required")
  | some text =>
      match ChronoCrate.parseFromRfc3339 text with
      | none => invalidSchema (key ++ " must be a valid UTC/RFC3339 timestamp")
      | some _ => .ok ()

def validateStartedAt (payload : Fields) : Outcome ProposalValidationError Unit :=
  validateTime payload "started_at"

def validateCheckinTime (payload : Fields) : Outcome ProposalValidationError Unit :=
  validateTime payload "checkin_time"

def validateEndedAfterStarted (payload : Fields) : Outcome ProposalValidationError Unit :=
  match timeField payload "started_at", timeField payload "ended_at" with
  | some startedAt, some endedAt =>
      if endedAt ≤ startedAt then invalidSchema "ended_at must be after started_at" else .ok ()
  | _, _ => .ok ()

def validateActivationPayload (payload : Fields) (requireStartedAt : Bool) :
    Outcome ProposalValidationError Unit := do
  requireStrings payload "activation" ["activation_type", "station_callsign", "operator_callsign"]
  if requireStartedAt && !(payload.get "started_at").any Value.isString then
    invalidSchema "starting an activation requires started_at"
  match toAsciiLowercase (((payload.get "activation_type").bind Value.asStr).getD "") with
  | "pota" =>
      if !(payload.get "park_id").any Value.isString then
        invalidSchema "POTA activation requires park_id"
  | "sota" =>
      if !(payload.get "summit_id").any Value.isString then
        invalidSchema "SOTA activation requires summit_id"
  | _ => pure ()
  validateEndedAfterStarted payload

end Times

def netSessionIdFromPayload [UuidCrate] (payload : Fields) :
    Outcome ProposalValidationError Uuid :=
  match uuidField (.object payload) "net_session_id" with
  | some id => .ok id
  | none => invalidSchema "net proposal requires net_session_id"

section Records
variable {S : Type} [LogbookEventStore S] [UuidCrate]

def requireExistingQso (store : S) (proposal : ProposalEnvelope) :
    Outcome ProposalValidationError Uuid := do
  let qsoId ← requireEntityId proposal
  let projection ← (LogbookEventStore.rebuildProjections store proposal.logbookId).mapError .store
  if (projection.getIncludingDeleted qsoId).isNone then
    invalidSchema ("qso_id " ++ UuidCrate.display qsoId ++ " does not exist")
  else pure qsoId

def requireExistingActivation (store : S) (proposal : ProposalEnvelope) :
    Outcome ProposalValidationError Uuid := do
  let activationId ← requireEntityId proposal
  let projection ←
    (LogbookEventStore.rebuildActivationProjections store proposal.logbookId).mapError .store
  if (projection.get activationId).isNone then
    invalidSchema ("activation_id " ++ UuidCrate.display activationId ++ " does not exist")
  else pure activationId

def rebuildNetProjection (store : S) (logbookId : Uuid) :
    Outcome ProposalValidationError NetControlProjection := do
  let events ← (Outcome.ofExcept (LogbookEventStore.listEvents store logbookId)).mapError .store
  (Projection.rebuild NetControlProjection events).mapError fun error =>
    .invalidSchema error.toString

def requireExistingNetTemplate (store : S) (proposal : ProposalEnvelope) :
    Outcome ProposalValidationError Uuid := do
  let templateId ← requireEntityId proposal
  let projection ← rebuildNetProjection store proposal.logbookId
  if projection.templates.values.any fun template =>
      (template.get "net_template_id").bind Value.asStr = some (UuidCrate.display templateId) then
    pure templateId
  else invalidSchema ("net_template_id " ++ UuidCrate.display templateId ++ " does not exist")

/-- A session of the projection, which must exist. -/
def existingNetSession (projection : NetControlProjection) (sessionId : Uuid) :
    Outcome ProposalValidationError NetSessionRecord :=
  match projection.getSession sessionId with
  | some session => .ok session
  | none => invalidSchema ("net_session_id " ++ UuidCrate.display sessionId ++ " does not exist")

def requireExistingNetSession (store : S) (proposal : ProposalEnvelope) :
    Outcome ProposalValidationError Uuid := do
  let sessionId ← requireEntityId proposal
  let projection ← rebuildNetProjection store proposal.logbookId
  let _ ← existingNetSession projection sessionId
  pure sessionId

def requireExistingActiveNetSession (store : S) (proposal : ProposalEnvelope) :
    Outcome ProposalValidationError Uuid := do
  let sessionId ← requireExistingNetSession store proposal
  let projection ← rebuildNetProjection store proposal.logbookId
  let session ← existingNetSession projection sessionId
  if session.status ≠ .active then invalidSchema "active net session required"
  else pure sessionId

def requireExistingNetCheckin (store : S) (proposal : ProposalEnvelope) :
    Outcome ProposalValidationError Uuid := do
  let checkinId ← requireEntityId proposal
  let projection ← rebuildNetProjection store proposal.logbookId
  if (projection.sessionList true).any fun session =>
      (projection.checkinsForSession session.netSessionId true).any fun checkin =>
        checkin.checkinId = checkinId then
    pure checkinId
  else invalidSchema ("checkin_id " ++ UuidCrate.display checkinId ++ " does not exist")

/-- The session a check-in or traffic proposal names, which must be active. -/
def requireActiveSessionOfPayload (store : S) (proposal : ProposalEnvelope) (payload : Fields)
    (purpose : String) : Outcome ProposalValidationError Unit := do
  let sessionId ← netSessionIdFromPayload payload
  let projection ← rebuildNetProjection store proposal.logbookId
  let session ← existingNetSession projection sessionId
  if session.status ≠ .active then
    invalidSchema ("active net session required for " ++ purpose)

end Records

section Schema
variable {S : Type} [LogbookEventStore S] [UuidCrate] [ChronoCrate]

/-- Linking a contact needs an activation that exists and is not over. -/
def validateActivationLink (store : S) (proposal : ProposalEnvelope) (payload : Fields) :
    Outcome ProposalValidationError Unit := do
  let _ ← requireExistingQso store proposal
  match uuidField (.object payload) "activation_id" with
  | none => invalidSchema "qso activation link requires activation_id"
  | some activationId =>
      let projection ←
        (LogbookEventStore.rebuildActivationProjections store proposal.logbookId).mapError .store
      match projection.get activationId with
      | none =>
          invalidSchema ("activation_id " ++ UuidCrate.display activationId ++ " does not exist")
      | some activation =>
          if activation.status = "ended" ∨ activation.status = "cancelled" then
            invalidSchema "ended/cancelled activations cannot accept new linked QSOs in MVP"

/-- The checks on the payload and the records, by the type of the proposal. -/
def validatePayload (store : S) (proposal : ProposalEnvelope) (payload : Fields) :
    Outcome ProposalValidationError Unit :=
  match proposal.proposalType with
  | .qsoCreate => do
      requireStrings payload "qso create"
        ["contacted_callsign", "station_callsign", "mode", "started_at"]
      validateStartedAt payload
      validateFrequency payload
  | .qsoCorrect => do
      let _ ← requireExistingQso store proposal
      if payload.isEmpty then invalidSchema "qso correction payload must not be empty"
      validateFrequency payload
  | .qsoDelete | .qsoRestore => do
      let _ ← requireExistingQso store proposal
  | .qsoNoteAdd => do
      let _ ← requireExistingQso store proposal
      requireString payload "note" "qso note_add"
  | .activationCreate => validateActivationPayload payload false
  | .activationStart => validateActivationPayload payload true
  | .activationUpdate => do
      let _ ← requireExistingActivation store proposal
      validateEndedAfterStarted payload
  | .activationEnd => do
      let _ ← requireExistingActivation store proposal
      requireString payload "ended_at" "activation end"
      validateEndedAfterStarted payload
  | .activationCancel => do
      let _ ← requireExistingActivation store proposal
  | .activationNoteAdd => do
      let _ ← requireExistingActivation store proposal
      requireString payload "note" "activation note_add"
  | .qsoActivationLink => validateActivationLink store proposal payload
  | .qsoActivationUnlink => do
      let _ ← requireExistingQso store proposal
  | .netTemplateCreate => requireString payload "name" "net template create"
  | .netTemplateUpdate => do
      let _ ← requireExistingNetTemplate store proposal
  | .netSessionStart => do
      requireStrings payload "net session start"
        ["station_callsign", "net_control_operator_id", "net_name", "started_at"]
      validateStartedAt payload
  | .netSessionEnd => do
      let _ ← requireExistingActiveNetSession store proposal
      requireString payload "ended_at" "net session end"
      validateEndedAfterStarted payload
  | .netSessionCancel => do
      let _ ← requireExistingNetSession store proposal
  | .netCheckinCreate => do
      requireActiveSessionOfPayload store proposal payload "check-ins"
      let tacticalOnly := ((payload.get "tactical_only").bind Value.asBool).getD false
      if !tacticalOnly && !(payload.get "callsign").any Value.isString then
        invalidSchema "check-in requires callsign unless tactical_only is true"
      requireString payload "checkin_time" "net checkin create"
      validateCheckinTime payload
  | .netCheckinUpdate | .netCheckinDelete => do
      let _ ← requireExistingNetCheckin store proposal
  | .netTrafficCreate => do
      requireActiveSessionOfPayload store proposal payload "traffic"
      requireString payload "summary" "net traffic create"
  | .netTrafficUpdate => do
      let _ ← requireEntityId proposal
  | .netReportExport => do
      let _ ← requireExistingNetSession store proposal
  | .emcommIncidentOpen => requireStrings payload "an incident" ["incident_name", "opened_at"]
  | .emcommIncidentUpdate | .emcommIncidentClose => do
      let _ ← requireEntityId proposal
      requireNonEmptyCorrection payload "an incident update"
  | .emcommPeriodOpen => do
      requireStrings payload "an operational period" ["incident_id", "started_at"]
      if !(payload.get "period_number").any fun value => value.isNumber || value.isString then
        invalidSchema "an operational period requires period_number"
  | .emcommPeriodClose => do
      let _ ← requireEntityId proposal
      requireString payload "ended_at" "closing an operational period"
  | .emcommPersonCheckIn =>
      requireStrings payload "an ICS 211 check-in" ["incident_id", "name", "checked_in_at"]
  | .emcommPersonUpdate => do
      let _ ← requireEntityId proposal
      requireNonEmptyCorrection payload "a check-in correction"
  | .emcommPersonCheckOut => do
      let _ ← requireEntityId proposal
      requireString payload "checked_out_at" "a check-out"
  | .emcommAssignmentCreate =>
      requireStrings payload "an assignment" ["incident_id", "person_id", "assignment"]
  | .emcommAssignmentUpdate => do
      let _ ← requireEntityId proposal
      requireNonEmptyCorrection payload "an assignment correction"
  | .emcommAssignmentRelease => do
      let _ ← requireEntityId proposal
      requireString payload "released_at" "releasing an assignment"
  | .emcommMessageCreate => do
      requireStrings payload "an incident message"
        ["incident_id", "message_number", "from", "to", "body"]
      validateMessageNumber payload
      validateMessagePrecedence payload
  | .emcommMessageUpdate => do
      let _ ← requireEntityId proposal
      requireNonEmptyCorrection payload "a message correction"
      if payload.containsKey "message_number" then
        invalidSchema "a message number is assigned once and cannot be corrected"
      validateMessagePrecedence payload
  | .emcommMessageTransmit => do
      let _ ← requireEntityId proposal
      requireString payload "transmitted_at" "transmitting a message"
  | .emcommMessageReceive => do
      let _ ← requireEntityId proposal
      requireString payload "received_at" "receiving a message"
  | .emcommMessageAcknowledge => do
      let _ ← requireEntityId proposal
      requireString payload "acknowledged_at" "acknowledging a message"
  | .emcommMessageCancel => do
      let _ ← requireEntityId proposal
      requireStrings payload "cancelling a message" ["cancelled_at", "reason"]
  | .emcommActivityLog =>
      requireStrings payload "an ICS 214 activity entry" ["incident_id", "occurred_at", "summary"]
  | .other text unknown => .error (.error (.unsupportedProposalType (.other text unknown)))

def validateQsoSchema (store : S) (proposal : ProposalEnvelope) :
    Outcome ProposalValidationError Unit :=
  if proposal.schemaVersion = 0 then invalidSchema "schema_version must be greater than zero"
  else match proposal.payload.asObject with
    | none => invalidSchema "payload must be a JSON object"
    | some payload => validatePayload store proposal payload

end Schema
end HamLogger
