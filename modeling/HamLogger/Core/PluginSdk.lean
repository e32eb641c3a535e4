import HamLogger.Core.Basic
import HamLogger.Core.Json
import Mathlib.Data.List.Nodup

/-! The vocabulary plugins and the core share: proposal types, official event
types, capabilities, and the envelope a proposal arrives in. The source keeps
the type names as text and compares them with constants; here every constant
is a constructor, and any other text is kept as it is. -/
namespace HamLogger

/-- A type made of declared constants with distinct names, and of one value
for each other name, is another form of the names themselves. -/
theorem named_bijective {Named Name : Type} {name : Named → Name} {declared : List Named}
    {names : List Name} {other : (text : Name) → text ∉ names → Named}
    (hNames : declared.map name = names) (hNodup : names.Nodup)
    (hOther : ∀ text unknown, name (other text unknown) = text)
    (hCases : ∀ type, type ∈ declared ∨ ∃ text unknown, type = other text unknown) :
    Function.Bijective name := by
  have hDeclared : ∀ type ∈ declared, name type ∈ names := fun type hType =>
    hNames ▸ List.mem_map_of_mem hType
  constructor
  · intro a b h
    rcases hCases a with ha | ⟨text, unknown, rfl⟩ <;>
      rcases hCases b with hb | ⟨text', unknown', rfl⟩
    · exact List.inj_on_of_nodup_map (hNames ▸ hNodup) ha hb h
    · rw [hOther] at h
      exact absurd (h ▸ hDeclared a ha) unknown'
    · rw [hOther] at h
      exact absurd (h ▸ hDeclared b hb) unknown
    · rw [hOther, hOther] at h
      subst h
      rfl
  · intro text
    by_cases unknown : text ∉ names
    · exact ⟨other text unknown, hOther text unknown⟩
    · have hKnown := not_not.mp unknown
      rw [← hNames] at hKnown
      obtain ⟨type, _, hType⟩ := List.mem_map.mp hKnown
      exact ⟨type, hType⟩

/-- The texts of the declared `PROPOSAL_` constants. -/
def proposalNames : List String :=
  ["proposal.qso.create", "proposal.qso.correct", "proposal.qso.delete", "proposal.qso.restore",
   "proposal.qso.note.add", "proposal.activation.create", "proposal.activation.update",
   "proposal.activation.start", "proposal.activation.end", "proposal.activation.cancel",
   "proposal.activation.note.add", "proposal.qso.activation.link",
   "proposal.qso.activation.unlink", "proposal.net.template.create",
   "proposal.net.template.update", "proposal.net.session.start", "proposal.net.session.end",
   "proposal.net.session.cancel", "proposal.net.checkin.create", "proposal.net.checkin.update",
   "proposal.net.checkin.delete", "proposal.net.traffic.create", "proposal.net.traffic.update",
   "proposal.net.report.export", "proposal.emcomm.incident.open",
   "proposal.emcomm.incident.update", "proposal.emcomm.incident.close",
   "proposal.emcomm.period.open", "proposal.emcomm.period.close",
   "proposal.emcomm.person.check_in", "proposal.emcomm.person.update",
   "proposal.emcomm.person.check_out", "proposal.emcomm.assignment.create",
   "proposal.emcomm.assignment.update", "proposal.emcomm.assignment.release",
   "proposal.emcomm.message.create", "proposal.emcomm.message.update",
   "proposal.emcomm.message.transmit", "proposal.emcomm.message.receive",
   "proposal.emcomm.message.acknowledge", "proposal.emcomm.message.cancel",
   "proposal.emcomm.activity.log"]

/-- The type of a proposal. -/
inductive ProposalType where
  | qsoCreate | qsoCorrect | qsoDelete | qsoRestore | qsoNoteAdd | activationCreate
  | activationUpdate | activationStart | activationEnd | activationCancel | activationNoteAdd
  | qsoActivationLink | qsoActivationUnlink | netTemplateCreate | netTemplateUpdate
  | netSessionStart | netSessionEnd | netSessionCancel | netCheckinCreate | netCheckinUpdate
  | netCheckinDelete | netTrafficCreate | netTrafficUpdate | netReportExport
  | emcommIncidentOpen | emcommIncidentUpdate | emcommIncidentClose | emcommPeriodOpen
  | emcommPeriodClose | emcommPersonCheckIn | emcommPersonUpdate | emcommPersonCheckOut
  | emcommAssignmentCreate | emcommAssignmentUpdate | emcommAssignmentRelease
  | emcommMessageCreate | emcommMessageUpdate | emcommMessageTransmit | emcommMessageReceive
  | emcommMessageAcknowledge | emcommMessageCancel | emcommActivityLog
  | other (text : String) (unknown : text ∉ proposalNames)
  deriving DecidableEq

namespace ProposalType

/-- The text of the type, as it is stored and compared. -/
def name : ProposalType → String
  | .qsoCreate => "proposal.qso.create"
  | .qsoCorrect => "proposal.qso.correct"
  | .qsoDelete => "proposal.qso.delete"
  | .qsoRestore => "proposal.qso.restore"
  | .qsoNoteAdd => "proposal.qso.note.add"
  | .activationCreate => "proposal.activation.create"
  | .activationUpdate => "proposal.activation.update"
  | .activationStart => "proposal.activation.start"
  | .activationEnd => "proposal.activation.end"
  | .activationCancel => "proposal.activation.cancel"
  | .activationNoteAdd => "proposal.activation.note.add"
  | .qsoActivationLink => "proposal.qso.activation.link"
  | .qsoActivationUnlink => "proposal.qso.activation.unlink"
  | .netTemplateCreate => "proposal.net.template.create"
  | .netTemplateUpdate => "proposal.net.template.update"
  | .netSessionStart => "proposal.net.session.start"
  | .netSessionEnd => "proposal.net.session.end"
  | .netSessionCancel => "proposal.net.session.cancel"
  | .netCheckinCreate => "proposal.net.checkin.create"
  | .netCheckinUpdate => "proposal.net.checkin.update"
  | .netCheckinDelete => "proposal.net.checkin.delete"
  | .netTrafficCreate => "proposal.net.traffic.create"
  | .netTrafficUpdate => "proposal.net.traffic.update"
  | .netReportExport => "proposal.net.report.export"
  | .emcommIncidentOpen => "proposal.emcomm.incident.open"
  | .emcommIncidentUpdate => "proposal.emcomm.incident.update"
  | .emcommIncidentClose => "proposal.emcomm.incident.close"
  | .emcommPeriodOpen => "proposal.emcomm.period.open"
  | .emcommPeriodClose => "proposal.emcomm.period.close"
  | .emcommPersonCheckIn => "proposal.emcomm.person.check_in"
  | .emcommPersonUpdate => "proposal.emcomm.person.update"
  | .emcommPersonCheckOut => "proposal.emcomm.person.check_out"
  | .emcommAssignmentCreate => "proposal.emcomm.assignment.create"
  | .emcommAssignmentUpdate => "proposal.emcomm.assignment.update"
  | .emcommAssignmentRelease => "proposal.emcomm.assignment.release"
  | .emcommMessageCreate => "proposal.emcomm.message.create"
  | .emcommMessageUpdate => "proposal.emcomm.message.update"
  | .emcommMessageTransmit => "proposal.emcomm.message.transmit"
  | .emcommMessageReceive => "proposal.emcomm.message.receive"
  | .emcommMessageAcknowledge => "proposal.emcomm.message.acknowledge"
  | .emcommMessageCancel => "proposal.emcomm.message.cancel"
  | .emcommActivityLog => "proposal.emcomm.activity.log"
  | .other text _ => text

/-- The declared constants. -/
def declared : List ProposalType :=
  [.qsoCreate, .qsoCorrect, .qsoDelete, .qsoRestore, .qsoNoteAdd, .activationCreate,
   .activationUpdate, .activationStart, .activationEnd, .activationCancel, .activationNoteAdd,
   .qsoActivationLink, .qsoActivationUnlink, .netTemplateCreate, .netTemplateUpdate,
   .netSessionStart, .netSessionEnd, .netSessionCancel, .netCheckinCreate, .netCheckinUpdate,
   .netCheckinDelete, .netTrafficCreate, .netTrafficUpdate, .netReportExport,
   .emcommIncidentOpen, .emcommIncidentUpdate, .emcommIncidentClose, .emcommPeriodOpen,
   .emcommPeriodClose, .emcommPersonCheckIn, .emcommPersonUpdate, .emcommPersonCheckOut,
   .emcommAssignmentCreate, .emcommAssignmentUpdate, .emcommAssignmentRelease,
   .emcommMessageCreate, .emcommMessageUpdate, .emcommMessageTransmit, .emcommMessageReceive,
   .emcommMessageAcknowledge, .emcommMessageCancel, .emcommActivityLog]

theorem declared_names : declared.map name = proposalNames := rfl

theorem declared_nodup : proposalNames.Nodup := by simp [proposalNames]

theorem mem_declared_or_other (type : ProposalType) :
    type ∈ declared ∨ ∃ text unknown, type = .other text unknown := by
  cases type with
  | other text unknown => exact Or.inr ⟨text, unknown, rfl⟩
  | _ => exact Or.inl (by simp [declared])

/-- Keeping a type instead of its text loses nothing: every text is the text
of exactly one type. -/
theorem name_bijective : Function.Bijective name :=
  named_bijective declared_names declared_nodup (fun _ _ => rfl) mem_declared_or_other

/-- The proposals of the incident record model. -/
def isEmComm : ProposalType → Bool
  | .emcommIncidentOpen | .emcommIncidentUpdate | .emcommIncidentClose | .emcommPeriodOpen
  | .emcommPeriodClose | .emcommPersonCheckIn | .emcommPersonUpdate | .emcommPersonCheckOut
  | .emcommAssignmentCreate | .emcommAssignmentUpdate | .emcommAssignmentRelease
  | .emcommMessageCreate | .emcommMessageUpdate | .emcommMessageTransmit | .emcommMessageReceive
  | .emcommMessageAcknowledge | .emcommMessageCancel | .emcommActivityLog => true
  | _ => false

end ProposalType

/-- The texts of the declared `OFFICIAL_LOG_` constants. -/
def officialLogNames : List String :=
  ["official.log.qso.created", "official.log.qso.corrected", "official.log.qso.deleted",
   "official.log.qso.restored", "official.log.qso.note_added",
   "official.log.activation.created", "official.log.activation.updated",
   "official.log.activation.started", "official.log.activation.ended",
   "official.log.activation.cancelled", "official.log.activation.note_added",
   "official.log.qso.activation_linked", "official.log.qso.activation_unlinked",
   "official.log.upload.queued", "official.log.upload.completed", "official.log.upload.failed",
   "official.log.net.template.created", "official.log.net.template.updated",
   "official.log.net.session.started", "official.log.net.session.ended",
   "official.log.net.session.cancelled", "official.log.net.checkin.created",
   "official.log.net.checkin.updated", "official.log.net.checkin.deleted",
   "official.log.net.traffic.created", "official.log.net.traffic.updated",
   "official.log.net.report.exported", "official.log.emcomm.incident.opened",
   "official.log.emcomm.incident.updated", "official.log.emcomm.incident.closed",
   "official.log.emcomm.period.opened", "official.log.emcomm.period.closed",
   "official.log.emcomm.person.checked_in", "official.log.emcomm.person.updated",
   "official.log.emcomm.person.checked_out", "official.log.emcomm.assignment.created",
   "official.log.emcomm.assignment.updated", "official.log.emcomm.assignment.released",
   "official.log.emcomm.message.created", "official.log.emcomm.message.updated",
   "official.log.emcomm.message.transmitted", "official.log.emcomm.message.received",
   "official.log.emcomm.message.acknowledged", "official.log.emcomm.message.cancelled",
   "official.log.emcomm.activity.logged"]

/-- The type of an official logbook event. -/
inductive EventType where
  | qsoCreated | qsoCorrected | qsoDeleted | qsoRestored | qsoNoteAdded | activationCreated
  | activationUpdated | activationStarted | activationEnded | activationCancelled
  | activationNoteAdded | qsoActivationLinked | qsoActivationUnlinked | uploadQueued
  | uploadCompleted | uploadFailed | netTemplateCreated | netTemplateUpdated | netSessionStarted
  | netSessionEnded | netSessionCancelled | netCheckinCreated | netCheckinUpdated
  | netCheckinDeleted | netTrafficCreated | netTrafficUpdated | netReportExported
  | emcommIncidentOpened | emcommIncidentUpdated | emcommIncidentClosed | emcommPeriodOpened
  | emcommPeriodClosed | emcommPersonCheckedIn | emcommPersonUpdated | emcommPersonCheckedOut
  | emcommAssignmentCreated | emcommAssignmentUpdated | emcommAssignmentReleased
  | emcommMessageCreated | emcommMessageUpdated | emcommMessageTransmitted
  | emcommMessageReceived | emcommMessageAcknowledged | emcommMessageCancelled
  | emcommActivityLogged
  | other (text : String) (unknown : text ∉ officialLogNames)
  deriving DecidableEq

namespace EventType

/-- The text of the type, as it is stored and compared. -/
def name : EventType → String
  | .qsoCreated => "official.log.qso.created"
  | .qsoCorrected => "official.log.qso.corrected"
  | .qsoDeleted => "official.log.qso.deleted"
  | .qsoRestored => "official.log.qso.restored"
  | .qsoNoteAdded => "official.log.qso.note_added"
  | .activationCreated => "official.log.activation.created"
  | .activationUpdated => "official.log.activation.updated"
  | .activationStarted => "official.log.activation.started"
  | .activationEnded => "official.log.activation.ended"
  | .activationCancelled => "official.log.activation.cancelled"
  | .activationNoteAdded => "official.log.activation.note_added"
  | .qsoActivationLinked => "official.log.qso.activation_linked"
  | .qsoActivationUnlinked => "official.log.qso.activation_unlinked"
  | .uploadQueued => "official.log.upload.queued"
  | .uploadCompleted => "official.log.upload.completed"
  | .uploadFailed => "official.log.upload.failed"
  | .netTemplateCreated => "official.log.net.template.created"
  | .netTemplateUpdated => "official.log.net.template.updated"
  | .netSessionStarted => "official.log.net.session.started"
  | .netSessionEnded => "official.log.net.session.ended"
  | .netSessionCancelled => "official.log.net.session.cancelled"
  | .netCheckinCreated => "official.log.net.checkin.created"
  | .netCheckinUpdated => "official.log.net.checkin.updated"
  | .netCheckinDeleted => "official.log.net.checkin.deleted"
  | .netTrafficCreated => "official.log.net.traffic.created"
  | .netTrafficUpdated => "official.log.net.traffic.updated"
  | .netReportExported => "official.log.net.report.exported"
  | .emcommIncidentOpened => "official.log.emcomm.incident.opened"
  | .emcommIncidentUpdated => "official.log.emcomm.incident.updated"
  | .emcommIncidentClosed => "official.log.emcomm.incident.closed"
  | .emcommPeriodOpened => "official.log.emcomm.period.opened"
  | .emcommPeriodClosed => "official.log.emcomm.period.closed"
  | .emcommPersonCheckedIn => "official.log.emcomm.person.checked_in"
  | .emcommPersonUpdated => "official.log.emcomm.person.updated"
  | .emcommPersonCheckedOut => "official.log.emcomm.person.checked_out"
  | .emcommAssignmentCreated => "official.log.emcomm.assignment.created"
  | .emcommAssignmentUpdated => "official.log.emcomm.assignment.updated"
  | .emcommAssignmentReleased => "official.log.emcomm.assignment.released"
  | .emcommMessageCreated => "official.log.emcomm.message.created"
  | .emcommMessageUpdated => "official.log.emcomm.message.updated"
  | .emcommMessageTransmitted => "official.log.emcomm.message.transmitted"
  | .emcommMessageReceived => "official.log.emcomm.message.received"
  | .emcommMessageAcknowledged => "official.log.emcomm.message.acknowledged"
  | .emcommMessageCancelled => "official.log.emcomm.message.cancelled"
  | .emcommActivityLogged => "official.log.emcomm.activity.logged"
  | .other text _ => text

/-- The declared constants. -/
def declared : List EventType :=
  [.qsoCreated, .qsoCorrected, .qsoDeleted, .qsoRestored, .qsoNoteAdded, .activationCreated,
   .activationUpdated, .activationStarted, .activationEnded, .activationCancelled,
   .activationNoteAdded, .qsoActivationLinked, .qsoActivationUnlinked, .uploadQueued,
   .uploadCompleted, .uploadFailed, .netTemplateCreated, .netTemplateUpdated,
   .netSessionStarted, .netSessionEnded, .netSessionCancelled, .netCheckinCreated,
   .netCheckinUpdated, .netCheckinDeleted, .netTrafficCreated, .netTrafficUpdated,
   .netReportExported, .emcommIncidentOpened, .emcommIncidentUpdated, .emcommIncidentClosed,
   .emcommPeriodOpened, .emcommPeriodClosed, .emcommPersonCheckedIn, .emcommPersonUpdated,
   .emcommPersonCheckedOut, .emcommAssignmentCreated, .emcommAssignmentUpdated,
   .emcommAssignmentReleased, .emcommMessageCreated, .emcommMessageUpdated,
   .emcommMessageTransmitted, .emcommMessageReceived, .emcommMessageAcknowledged,
   .emcommMessageCancelled, .emcommActivityLogged]

theorem declared_names : declared.map name = officialLogNames := rfl

theorem declared_nodup : officialLogNames.Nodup := by simp [officialLogNames]

theorem mem_declared_or_other (type : EventType) :
    type ∈ declared ∨ ∃ text unknown, type = .other text unknown := by
  cases type with
  | other text unknown => exact Or.inr ⟨text, unknown, rfl⟩
  | _ => exact Or.inl (by simp [declared])

/-- Keeping a type instead of its text loses nothing: every text is the text
of exactly one type. -/
theorem name_bijective : Function.Bijective name :=
  named_bijective declared_names declared_nodup (fun _ _ => rfl) mem_declared_or_other

/-- `starts_with("official.log.emcomm.")`, which the declared types below and
any undeclared text with that prefix satisfy. -/
def isEmComm : EventType → Bool
  | .emcommIncidentOpened | .emcommIncidentUpdated | .emcommIncidentClosed | .emcommPeriodOpened
  | .emcommPeriodClosed | .emcommPersonCheckedIn | .emcommPersonUpdated
  | .emcommPersonCheckedOut | .emcommAssignmentCreated | .emcommAssignmentUpdated
  | .emcommAssignmentReleased | .emcommMessageCreated | .emcommMessageUpdated
  | .emcommMessageTransmitted | .emcommMessageReceived | .emcommMessageAcknowledged
  | .emcommMessageCancelled | .emcommActivityLogged => true
  | .other text _ => "official.log.emcomm.".toList.isPrefixOf text.toList
  | _ => false

end EventType

/-- A capability granted to a plugin by the host application. -/
inductive PluginCapability where
  | qsoView | qsoCreate | qsoCorrect | qsoDelete | qsoRestore | qsoNoteAdd | qsoViewDeleted
  | activationCreate | activationUpdate | activationEnd | activationCancel | activationView
  | adifImport | adifExport | syncLanDiscovery | syncLanPull | syncLanPush | syncCloudConnect
  | syncCloudPull | syncCloudPush | lookupCallsign | lookupEntity | lookupGrid | lookupCacheRead
  | lookupCacheWrite | networkExternalLookup | qsoSuggestFields | rigView | rigControlFrequency
  | rigControlMode | rigControlPtt | rigControlSplit | rigReadState | rigConfigure
  | diagnosticsViewLogs | diagnosticsExport | diagnosticsUpload | serviceProviderRegister
  | serviceProviderConfigure | serviceProviderEnable | serviceProviderDisable | serviceCacheRead
  | serviceCacheWrite | serviceCacheClear | uploadLog | uploadConfirmationPull
  | uploadQueueManage | uploadStatusView | networkExternalUpload | spottingView
  | spottingConfigure | networkExternalSpotting | mapView | mapConfigure | networkExternalMap
  | weatherView | networkExternalWeather | propagationView | networkExternalPropagation
  | automationManage | notificationView | stationProfileView | stationProfileManage
  | stationEquipmentView | stationEquipmentManage | stationProfileUse | credentialViewMetadata
  | credentialCreate | credentialUpdate | credentialDelete | credentialUse | credentialTest
  | netView | netTemplateCreate | netTemplateUpdate | netSessionStart | netSessionEnd
  | netCheckinCreate | netCheckinUpdate | netCheckinDelete | netTrafficManage | netReportExport
  | emCommView | emCommIncidentManage | emCommPeriodManage | emCommPersonManage
  | emCommAssignmentManage | emCommMessageManage | emCommActivityLog | uiPanelRegister
  | uiCommandRegister | settingsRead | settingsWrite
  | other (value : String)
  deriving DecidableEq

/-- The permission identifier of a capability. -/
def PluginCapability.asStr : PluginCapability → String
  | .qsoView => "log.qso.view"
  | .qsoCreate => "log.qso.create"
  | .qsoCorrect => "log.qso.correct"
  | .qsoDelete => "log.qso.delete"
  | .qsoRestore => "log.qso.restore"
  | .qsoNoteAdd => "log.qso.note.add"
  | .qsoViewDeleted => "log.qso.view_deleted"
  | .activationCreate => "activation.create"
  | .activationUpdate => "activation.update"
  | .activationEnd => "activation.end"
  | .activationCancel => "activation.cancel"
  | .activationView => "activation.view"
  | .adifImport => "adif.import"
  | .adifExport => "adif.export"
  | .syncLanDiscovery => "sync.lan.discovery"
  | .syncLanPull => "sync.lan.pull"
  | .syncLanPush => "sync.lan.push"
  | .syncCloudConnect => "sync.cloud.connect"
  | .syncCloudPull => "sync.cloud.pull"
  | .syncCloudPush => "sync.cloud.push"
  | .lookupCallsign => "lookup.callsign"
  | .lookupEntity => "lookup.entity"
  | .lookupGrid => "lookup.grid"
  | .lookupCacheRead => "cache.lookup.read"
  | .lookupCacheWrite => "cache.lookup.write"
  | .networkExternalLookup => "network.external.lookup"
  | .qsoSuggestFields => "log.qso.suggest_fields"
  | .rigView => "rig.view"
  | .rigControlFrequency => "rig.control.frequency"
  | .rigControlMode => "rig.control.mode"
  | .rigControlPtt => "rig.control.ptt"
  | .rigControlSplit => "rig.control.split"
  | .rigReadState => "rig.read.state"
  | .rigConfigure => "rig.configure"
  | .diagnosticsViewLogs => "diagnostics.view_logs"
  | .diagnosticsExport => "diagnostics.export"
  | .diagnosticsUpload => "diagnostics.upload"
  | .serviceProviderRegister => "service.provider.register"
  | .serviceProviderConfigure => "service.provider.configure"
  | .serviceProviderEnable => "service.provider.enable"
  | .serviceProviderDisable => "service.provider.disable"
  | .serviceCacheRead => "service.cache.read"
  | .serviceCacheWrite => "service.cache.write"
  | .serviceCacheClear => "service.cache.clear"
  | .uploadLog => "upload.log"
  | .uploadConfirmationPull => "upload.confirmation_pull"
  | .uploadQueueManage => "upload.queue.manage"
  | .uploadStatusView => "upload.status.view"
  | .networkExternalUpload => "network.external.upload"
  | .spottingView => "spotting.view"
  | .spottingConfigure => "spotting.configure"
  | .networkExternalSpotting => "network.external.spotting"
  | .mapView => "map.view"
  | .mapConfigure => "map.configure"
  | .networkExternalMap => "network.external.map"
  | .weatherView => "weather.view"
  | .networkExternalWeather => "network.external.weather"
  | .propagationView => "propagation.view"
  | .networkExternalPropagation => "network.external.propagation"
  | .automationManage => "automation.manage"
  | .notificationView => "notification.view"
  | .stationProfileView => "station.profile.view"
  | .stationProfileManage => "station.profile.manage"
  | .stationEquipmentView => "station.equipment.view"
  | .stationEquipmentManage => "station.equipment.manage"
  | .stationProfileUse => "station.profile.use"
  | .credentialViewMetadata => "credential.view_metadata"
  | .credentialCreate => "credential.create"
  | .credentialUpdate => "credential.update"
  | .credentialDelete => "credential.delete"
  | .credentialUse => "credential.use"
  | .credentialTest => "credential.test"
  | .netView => "net.view"
  | .netTemplateCreate => "net.template.create"
  | .netTemplateUpdate => "net.template.update"
  | .netSessionStart => "net.session.start"
  | .netSessionEnd => "net.session.end"
  | .netCheckinCreate => "net.checkin.create"
  | .netCheckinUpdate => "net.checkin.update"
  | .netCheckinDelete => "net.checkin.delete"
  | .netTrafficManage => "net.traffic.manage"
  | .netReportExport => "net.report.export"
  | .emCommView => "emcomm.view"
  | .emCommIncidentManage => "emcomm.incident.manage"
  | .emCommPeriodManage => "emcomm.period.manage"
  | .emCommPersonManage => "emcomm.person.manage"
  | .emCommAssignmentManage => "emcomm.assignment.manage"
  | .emCommMessageManage => "emcomm.message.manage"
  | .emCommActivityLog => "emcomm.activity.log"
  | .uiPanelRegister => "ui.panel.register"
  | .uiCommandRegister => "ui.command.register"
  | .settingsRead => "settings.read"
  | .settingsWrite => "settings.write"
  | .other value => value

/-- The derived `Debug` form, which is the name of the variant. -/
def PluginCapability.debug [RustFmt] : PluginCapability → String
  | .qsoView => "QsoView"
  | .qsoCreate => "QsoCreate"
  | .qsoCorrect => "QsoCorrect"
  | .qsoDelete => "QsoDelete"
  | .qsoRestore => "QsoRestore"
  | .qsoNoteAdd => "QsoNoteAdd"
  | .qsoViewDeleted => "QsoViewDeleted"
  | .activationCreate => "ActivationCreate"
  | .activationUpdate => "ActivationUpdate"
  | .activationEnd => "ActivationEnd"
  | .activationCancel => "ActivationCancel"
  | .activationView => "ActivationView"
  | .adifImport => "AdifImport"
  | .adifExport => "AdifExport"
  | .syncLanDiscovery => "SyncLanDiscovery"
  | .syncLanPull => "SyncLanPull"
  | .syncLanPush => "SyncLanPush"
  | .syncCloudConnect => "SyncCloudConnect"
  | .syncCloudPull => "SyncCloudPull"
  | .syncCloudPush => "SyncCloudPush"
  | .lookupCallsign => "LookupCallsign"
  | .lookupEntity => "LookupEntity"
  | .lookupGrid => "LookupGrid"
  | .lookupCacheRead => "LookupCacheRead"
  | .lookupCacheWrite => "LookupCacheWrite"
  | .networkExternalLookup => "NetworkExternalLookup"
  | .qsoSuggestFields => "QsoSuggestFields"
  | .rigView => "RigView"
  | .rigControlFrequency => "RigControlFrequency"
  | .rigControlMode => "RigControlMode"
  | .rigControlPtt => "RigControlPtt"
  | .rigControlSplit => "RigControlSplit"
  | .rigReadState => "RigReadState"
  | .rigConfigure => "RigConfigure"
  | .diagnosticsViewLogs => "DiagnosticsViewLogs"
  | .diagnosticsExport => "DiagnosticsExport"
  | .diagnosticsUpload => "DiagnosticsUpload"
  | .serviceProviderRegister => "ServiceProviderRegister"
  | .serviceProviderConfigure => "ServiceProviderConfigure"
  | .serviceProviderEnable => "ServiceProviderEnable"
  | .serviceProviderDisable => "ServiceProviderDisable"
  | .serviceCacheRead => "ServiceCacheRead"
  | .serviceCacheWrite => "ServiceCacheWrite"
  | .serviceCacheClear => "ServiceCacheClear"
  | .uploadLog => "UploadLog"
  | .uploadConfirmationPull => "UploadConfirmationPull"
  | .uploadQueueManage => "UploadQueueManage"
  | .uploadStatusView => "UploadStatusView"
  | .networkExternalUpload => "NetworkExternalUpload"
  | .spottingView => "SpottingView"
  | .spottingConfigure => "SpottingConfigure"
  | .networkExternalSpotting => "NetworkExternalSpotting"
  | .mapView => "MapView"
  | .mapConfigure => "MapConfigure"
  | .networkExternalMap => "NetworkExternalMap"
  | .weatherView => "WeatherView"
  | .networkExternalWeather => "NetworkExternalWeather"
  | .propagationView => "PropagationView"
  | .networkExternalPropagation => "NetworkExternalPropagation"
  | .automationManage => "AutomationManage"
  | .notificationView => "NotificationView"
  | .stationProfileView => "StationProfileView"
  | .stationProfileManage => "StationProfileManage"
  | .stationEquipmentView => "StationEquipmentView"
  | .stationEquipmentManage => "StationEquipmentManage"
  | .stationProfileUse => "StationProfileUse"
  | .credentialViewMetadata => "CredentialViewMetadata"
  | .credentialCreate => "CredentialCreate"
  | .credentialUpdate => "CredentialUpdate"
  | .credentialDelete => "CredentialDelete"
  | .credentialUse => "CredentialUse"
  | .credentialTest => "CredentialTest"
  | .netView => "NetView"
  | .netTemplateCreate => "NetTemplateCreate"
  | .netTemplateUpdate => "NetTemplateUpdate"
  | .netSessionStart => "NetSessionStart"
  | .netSessionEnd => "NetSessionEnd"
  | .netCheckinCreate => "NetCheckinCreate"
  | .netCheckinUpdate => "NetCheckinUpdate"
  | .netCheckinDelete => "NetCheckinDelete"
  | .netTrafficManage => "NetTrafficManage"
  | .netReportExport => "NetReportExport"
  | .emCommView => "EmCommView"
  | .emCommIncidentManage => "EmCommIncidentManage"
  | .emCommPeriodManage => "EmCommPeriodManage"
  | .emCommPersonManage => "EmCommPersonManage"
  | .emCommAssignmentManage => "EmCommAssignmentManage"
  | .emCommMessageManage => "EmCommMessageManage"
  | .emCommActivityLog => "EmCommActivityLog"
  | .uiPanelRegister => "UiPanelRegister"
  | .uiCommandRegister => "UiCommandRegister"
  | .settingsRead => "SettingsRead"
  | .settingsWrite => "SettingsWrite"
  | .other value => "Other(" ++ RustFmt.debugStr value ++ ")"

/-- The part of a plugin manifest that the permission checks read. -/
structure PluginManifest where
  pluginId : String
  requestedPermissions : List PluginCapability
  capabilities : List PluginCapability
  deriving DecidableEq

namespace PluginManifest

def hasCapability (manifest : PluginManifest) (capability : PluginCapability) : Bool :=
  manifest.capabilities.any (fun held => held = capability) ||
    manifest.requestedPermissions.any (fun held => held = capability)

def requestedOrCapabilities (manifest : PluginManifest) : List PluginCapability :=
  if manifest.requestedPermissions.isEmpty then manifest.capabilities
  else manifest.requestedPermissions

end PluginManifest

/-- A proposed change, before the core has validated it. -/
structure ProposalEnvelope where
  proposalId : Uuid
  proposalType : ProposalType
  logbookId : Uuid
  entityId : Option Uuid
  timestamp : DateTime
  authorOperatorId : Option Uuid
  authorDeviceId : Uuid
  sourcePluginId : String
  schemaVersion : UInt32
  payload : Value
  deriving DecidableEq

end HamLogger
