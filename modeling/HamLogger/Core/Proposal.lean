import HamLogger.Core.ProposalSchema
import HamLogger.Library.Program

/-! Submitting a proposal: the permission checks, the schema checks, the
translation into an official event, and the append, with the diagnostic
events that are published on the way. -/
namespace HamLogger

/-- Everything an operator with full rights may submit. -/
def OperatorRole.canSubmit (role : OperatorRole) (proposalType : ProposalType) : Bool :=
  match role with
  | .readOnly => false
  | .logger => decide (proposalType = .qsoCreate ∨ proposalType = .qsoCorrect)
  | .admin => decide (proposalType ∈ ProposalType.declared)

structure ProposalContext where
  pluginManifest : PluginManifest
  operatorRole : OperatorRole
  permissionGrants : PermissionGrantSet
  deriving DecidableEq

def ProposalContext.localAdmin (pluginManifest : PluginManifest) (operatorRole : OperatorRole) :
    ProposalContext where
  pluginManifest := pluginManifest
  operatorRole := operatorRole
  permissionGrants := .grantsForManifest pluginManifest

structure ProposalOutcome where
  officialEvent : CoreEventEnvelope
  deriving DecidableEq

def requiredCapability : ProposalType → Except ProposalValidationError PluginCapability
  | .qsoCreate => .ok .qsoCreate
  | .qsoCorrect => .ok .qsoCorrect
  | .qsoDelete => .ok .qsoDelete
  | .qsoRestore => .ok .qsoRestore
  | .qsoNoteAdd => .ok .qsoNoteAdd
  | .activationCreate | .activationStart => .ok .activationCreate
  | .activationUpdate | .activationNoteAdd => .ok .activationUpdate
  | .activationEnd => .ok .activationEnd
  | .activationCancel => .ok .activationCancel
  | .qsoActivationLink | .qsoActivationUnlink => .ok .qsoCorrect
  | .netTemplateCreate => .ok .netTemplateCreate
  | .netTemplateUpdate => .ok .netTemplateUpdate
  | .netSessionStart => .ok .netSessionStart
  | .netSessionEnd | .netSessionCancel => .ok .netSessionEnd
  | .netCheckinCreate => .ok .netCheckinCreate
  | .netCheckinUpdate => .ok .netCheckinUpdate
  | .netCheckinDelete => .ok .netCheckinDelete
  | .netTrafficCreate | .netTrafficUpdate => .ok .netTrafficManage
  | .netReportExport => .ok .netReportExport
  | .emcommIncidentOpen | .emcommIncidentUpdate | .emcommIncidentClose =>
      .ok .emCommIncidentManage
  | .emcommPeriodOpen | .emcommPeriodClose => .ok .emCommPeriodManage
  | .emcommPersonCheckIn | .emcommPersonUpdate | .emcommPersonCheckOut => .ok .emCommPersonManage
  | .emcommAssignmentCreate | .emcommAssignmentUpdate | .emcommAssignmentRelease =>
      .ok .emCommAssignmentManage
  | .emcommMessageCreate | .emcommMessageUpdate | .emcommMessageTransmit
  | .emcommMessageReceive | .emcommMessageAcknowledge | .emcommMessageCancel =>
      .ok .emCommMessageManage
  | .emcommActivityLog => .ok .emCommActivityLog
  | .other text unknown => .error (.unsupportedProposalType (.other text unknown))

/-- The type of the official event, and whether the proposal creates its
entity: then a missing identifier is drawn, otherwise it is required. -/
def officialEventType : ProposalType → Option (EventType × Bool)
  | .qsoCreate => some (.qsoCreated, true)
  | .qsoCorrect => some (.qsoCorrected, false)
  | .qsoDelete => some (.qsoDeleted, false)
  | .qsoRestore => some (.qsoRestored, false)
  | .qsoNoteAdd => some (.qsoNoteAdded, false)
  | .activationCreate => some (.activationCreated, true)
  | .activationStart => some (.activationStarted, true)
  | .activationUpdate => some (.activationUpdated, false)
  | .activationEnd => some (.activationEnded, false)
  | .activationCancel => some (.activationCancelled, false)
  | .activationNoteAdd => some (.activationNoteAdded, false)
  | .qsoActivationLink => some (.qsoActivationLinked, false)
  | .qsoActivationUnlink => some (.qsoActivationUnlinked, false)
  | .netTemplateCreate => some (.netTemplateCreated, true)
  | .netTemplateUpdate => some (.netTemplateUpdated, false)
  | .netSessionStart => some (.netSessionStarted, true)
  | .netSessionEnd => some (.netSessionEnded, false)
  | .netSessionCancel => some (.netSessionCancelled, false)
  | .netCheckinCreate => some (.netCheckinCreated, true)
  | .netCheckinUpdate => some (.netCheckinUpdated, false)
  | .netCheckinDelete => some (.netCheckinDeleted, false)
  | .netTrafficCreate => some (.netTrafficCreated, true)
  | .netTrafficUpdate => some (.netTrafficUpdated, false)
  | .netReportExport => some (.netReportExported, false)
  | .emcommIncidentOpen => some (.emcommIncidentOpened, true)
  | .emcommIncidentUpdate => some (.emcommIncidentUpdated, false)
  | .emcommIncidentClose => some (.emcommIncidentClosed, false)
  | .emcommPeriodOpen => some (.emcommPeriodOpened, true)
  | .emcommPeriodClose => some (.emcommPeriodClosed, false)
  | .emcommPersonCheckIn => some (.emcommPersonCheckedIn, true)
  | .emcommPersonUpdate => some (.emcommPersonUpdated, false)
  | .emcommPersonCheckOut => some (.emcommPersonCheckedOut, false)
  | .emcommAssignmentCreate => some (.emcommAssignmentCreated, true)
  | .emcommAssignmentUpdate => some (.emcommAssignmentUpdated, false)
  | .emcommAssignmentRelease => some (.emcommAssignmentReleased, false)
  | .emcommMessageCreate => some (.emcommMessageCreated, true)
  | .emcommMessageUpdate => some (.emcommMessageUpdated, false)
  | .emcommMessageTransmit => some (.emcommMessageTransmitted, false)
  | .emcommMessageReceive => some (.emcommMessageReceived, false)
  | .emcommMessageAcknowledge => some (.emcommMessageAcknowledged, false)
  | .emcommMessageCancel => some (.emcommMessageCancelled, false)
  | .emcommActivityLog => some (.emcommActivityLogged, true)
  | .other _ _ => none

/-- The payload field that receives the identifier of the entity. -/
def entityKey : ProposalType → String
  | .netTemplateCreate | .netTemplateUpdate => "net_template_id"
  | .activationCreate | .activationStart | .activationUpdate | .activationEnd
  | .activationCancel | .activationNoteAdd => "activation_id"
  | .netSessionStart | .netSessionEnd | .netSessionCancel => "net_session_id"
  | .netCheckinCreate | .netCheckinUpdate | .netCheckinDelete => "checkin_id"
  | .netTrafficCreate | .netTrafficUpdate => "traffic_id"
  | .emcommIncidentOpen | .emcommIncidentUpdate | .emcommIncidentClose => "incident_id"
  | .emcommPeriodOpen | .emcommPeriodClose => "period_id"
  | .emcommPersonCheckIn | .emcommPersonUpdate | .emcommPersonCheckOut => "person_id"
  | .emcommAssignmentCreate | .emcommAssignmentUpdate | .emcommAssignmentRelease =>
      "assignment_id"
  | .emcommMessageCreate | .emcommMessageUpdate | .emcommMessageTransmit | .emcommMessageReceive
  | .emcommMessageAcknowledge | .emcommMessageCancel => "message_id"
  | .emcommActivityLog => "activity_id"
  | _ => "qso_id"

/-- The entity of the official event. -/
def officialEntityId (proposal : ProposalEnvelope) (creates : Bool) (fresh : Uuid) :
    Outcome ProposalValidationError Uuid :=
  if creates then .ok (proposal.entityId.getD fresh) else requireEntityId proposal

section Translation
variable [UuidCrate]

/-- The official event of a proposal, with the identifier that is drawn when
the proposal creates an entity and names none. -/
def toOfficialEvent (proposal : ProposalEnvelope) (fresh : Uuid) :
    Outcome ProposalValidationError NewLogbookEvent :=
  match officialEventType proposal.proposalType with
  | none => .error (.error (.unsupportedProposalType proposal.proposalType))
  | some (eventType, creates) => do
      let entityId ← officialEntityId proposal creates fresh
      let payload ←
        assignField proposal.payload (entityKey proposal.proposalType) (uuidJson entityId)
      return {
        eventType := eventType
        logbookId := proposal.logbookId
        entityId := some entityId
        authorOperatorId := proposal.authorOperatorId
        stationCallsign := ((payload.get "station_callsign").bind Value.asStr).getD "UNKNOWN"
        operatorCallsign := (payload.get "operator_callsign").bind Value.asStr
        authorDeviceId := proposal.authorDeviceId
        sourceDeviceId := proposal.authorDeviceId
        correlationId := proposal.proposalId
        sourcePluginId := some proposal.sourcePluginId
        schemaVersion := proposal.schemaVersion
        payload := payload }

end Translation

/-- What the environment supplies while a proposal is submitted. -/
structure SubmissionStamp where
  freshEntityId : Uuid
  event : EventStamp

section Submission
variable {S B : Type} [EventBus B]

/-- The state of a submission is the store and the bus. -/
abbrev Submission (S B : Type) (α : Type) :=
  Program (S × B) (Fault ProposalValidationError) α

def publish (event : BusEvent) : Submission S B Unit :=
  .ofFunction fun (store, bus) =>
    match EventBus.publish bus event with
    | (bus, .ok _) => ((store, bus), .ok ())
    | (bus, .error error) => ((store, bus), .error (.error (.eventBus error)))

def publishProposalRuntimeEvent (proposal : ProposalEnvelope) (eventType : String)
    (severity : RuntimeEventSeverity) (summary : String) (error : Option String) :
    Submission S B Unit :=
  publish (.runtime (.new eventType severity "ham-core" (some proposal.sourcePluginId)
    proposal.proposalId proposal.authorDeviceId none summary none error))

def publishPermissionCheckEvent (proposal : ProposalEnvelope) (eventType : String)
    (severity : RuntimeEventSeverity) (permission : PluginCapability) (summary : String) :
    Submission S B Unit :=
  publish (.runtime (.new eventType severity "ham-core" (some proposal.sourcePluginId)
    proposal.proposalId proposal.authorDeviceId none summary
    (some (.object [("permission_id", .string permission.asStr),
      ("plugin_id", .string proposal.sourcePluginId),
      ("proposal_type", .string proposal.proposalType.name)]))
    none))

/-- Refuse a proposal with an error. -/
def refuse {α : Type} (error : ProposalValidationError) : Submission S B α :=
  throw (.error error)

/-- The checks of the manifest and of the grant. -/
def checkCapability (context : ProposalContext) (proposal : ProposalEnvelope)
    (capability : PluginCapability) : Submission S B Unit :=
  if context.pluginManifest.hasCapability capability = false then do
    publishPermissionCheckEvent proposal "plugin.permission.check.denied" .warn capability
      "plugin manifest does not request required permission"
    refuse (.missingPluginCapability capability)
  else
    match checkPluginPermission context.pluginManifest context.permissionGrants capability with
    | .error error => do
        publishPermissionCheckEvent proposal "plugin.permission.check.denied" .warn capability
          "plugin permission grant is missing or denied"
        refuse (.pluginPermissionDenied error.toString)
    | .ok () =>
        publishPermissionCheckEvent proposal "plugin.permission.check.allowed" .debug capability
          "plugin permission check allowed"

/-- The check of the operator role. -/
def checkRole (context : ProposalContext) (proposal : ProposalEnvelope)
    (capability : PluginCapability) : Submission S B Unit :=
  if context.operatorRole.canSubmit proposal.proposalType = false then do
    publishPermissionCheckEvent proposal "plugin.permission.check.denied" .warn capability
      "operator role cannot submit this proposal"
    refuse (.permissionDenied context.operatorRole proposal.proposalType)
  else pure ()

/-- The part of a submission before the schema checks. -/
def authorizeProposal (context : ProposalContext) (proposal : ProposalEnvelope) :
    Submission S B Unit :=
  if proposal.sourcePluginId ≠ context.pluginManifest.pluginId then
    refuse (.pluginMismatch proposal.sourcePluginId context.pluginManifest.pluginId)
  else
    match requiredCapability proposal.proposalType with
    | .error error => refuse error
    | .ok capability => do
        checkCapability context proposal capability
        checkRole context proposal capability

variable [LogbookEventStore S] [UuidCrate] [ChronoCrate]

def appendOfficialEvent (event : NewLogbookEvent) (stamp : EventStamp) :
    Submission S B CoreEventEnvelope :=
  .ofFunction fun (store, bus) =>
    match LogbookEventStore.appendEvent store event stamp with
    | (store, .ok official) => ((store, bus), .ok official)
    | (store, .error error) => ((store, bus), .error (.error (.store error)))

def submitProposalInner (context : ProposalContext) (proposal : ProposalEnvelope)
    (stamp : SubmissionStamp) : Submission S B ProposalOutcome := do
  authorizeProposal context proposal
  Program.reading fun state => validateQsoSchema state.1 proposal
  let newEvent ← Program.reading fun _ => toOfficialEvent proposal stamp.freshEntityId
  let officialEvent ← appendOfficialEvent newEvent stamp.event
  publish (.officialLogbookEvent officialEvent)
  return { officialEvent := officialEvent }

/-- The errors that the submission reports on the bus. A panic unwinds. -/
def reportedError : Fault ProposalValidationError → Option ProposalValidationError
  | .error error => some error
  | .panic => none

def submitProposal [RustFmt] (context : ProposalContext) (proposal : ProposalEnvelope)
    (stamp : SubmissionStamp) : Submission S B ProposalOutcome := do
  publishProposalRuntimeEvent proposal (proposal.proposalType.name ++ ".received") .info
    "QSO proposal received" none
  let result ← (submitProposalInner context proposal stamp).attempt reportedError
  match result with
  | .ok outcome =>
      publishProposalRuntimeEvent proposal (proposal.proposalType.name ++ ".accepted") .info
        "QSO proposal accepted" none
      publishProposalRuntimeEvent proposal "official.log.event.appended" .info
        ("Official event appended: " ++ outcome.officialEvent.eventType.name) none
      publishProposalRuntimeEvent proposal "projection.qso.updated" .debug
        "QSO projection can be rebuilt from official events" none
      return outcome
  | .error error =>
      publishProposalRuntimeEvent proposal (proposal.proposalType.name ++ ".rejected") .warn
        "QSO proposal rejected" (some error.toString)
      refuse error

end Submission
end HamLogger
