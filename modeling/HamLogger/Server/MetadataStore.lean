import HamLogger.Library.TableStore
import HamLogger.Server.State

/-! The durable store of the hosted server. A save deletes every table and
creates every record anew, in one order of the tables; a load reads all the
tables. -/
namespace HamLogger

open TableStore (Database Record Write replaceAll perform emptyDatabase)

/-- The tables, in the order in which a save goes through them. -/
inductive HostedTable where
  | hostingConfig | serverAdmins | users | loginSessions | devices | logbooks | logbookMemberships
  | apiTokens | serverInvites | emailVerifications | recoveryTokens | rateLimits
  | turnstileReplayTokens | auditLog | stationProfiles | equipmentProfiles | providerSettings
  | uploadQueueHistory | mapSettings | backupRecords | divergenceReports
  deriving DecidableEq

namespace HostedTable

def all : List HostedTable :=
  [.hostingConfig, .serverAdmins, .users, .loginSessions, .devices, .logbooks,
    .logbookMemberships, .apiTokens, .serverInvites, .emailVerifications, .recoveryTokens,
    .rateLimits, .turnstileReplayTokens, .auditLog, .stationProfiles, .equipmentProfiles,
    .providerSettings, .uploadQueueHistory, .mapSettings, .backupRecords, .divergenceReports]

/-- The payload of the rows of a table. -/
abbrev Payload : HostedTable → Type
  | hostingConfig => HostingConfig
  | serverAdmins => Uuid
  | users => UserAccount
  | loginSessions => LoginSession
  | devices => DeviceIdentity
  | logbooks => ApiLogbook
  | logbookMemberships => LogbookMembership
  | apiTokens => ApiToken
  | serverInvites => ServerInvite
  | emailVerifications => EmailVerificationRecord
  | recoveryTokens => RecoveryTokenRecord
  | rateLimits => RateLimitRecord
  | turnstileReplayTokens => String
  | auditLog => AuditRecord
  | stationProfiles => HostedStationProfile
  | equipmentProfiles => HostedEquipmentProfile
  | providerSettings => HostedProviderSetting
  | uploadQueueHistory => HostedUploadJob
  | mapSettings => HostedMapSettings
  | backupRecords => HostedBackupRecord
  | divergenceReports => HostedDivergenceReport

variable [UuidCrate]

/-- The identifier a record is created under. -/
def recordId : (table : HostedTable) → table.Payload → String
  | hostingConfig, _ => "current"
  | serverAdmins, userId => UuidCrate.display userId
  | users, account => UuidCrate.display account.accountId
  | loginSessions, session => session.tokenHash
  | devices, device => UuidCrate.display device.deviceId
  | logbooks, logbook => UuidCrate.display logbook.logbookId
  | logbookMemberships, membership =>
      UuidCrate.display membership.logbookId ++ "-" ++ UuidCrate.display membership.userId
  | apiTokens, token => UuidCrate.display token.tokenId
  | serverInvites, invite => UuidCrate.display invite.inviteId
  | emailVerifications, record => UuidCrate.display record.verificationId
  | recoveryTokens, record => UuidCrate.display record.recoveryId
  | rateLimits, record => record.key
  | turnstileReplayTokens, tokenHash => tokenHash
  | auditLog, record => UuidCrate.display record.auditId
  | stationProfiles, profile => UuidCrate.display profile.stationProfileId
  | equipmentProfiles, equipment => UuidCrate.display equipment.equipmentId
  | providerSettings, setting => setting.key
  | uploadQueueHistory, job => UuidCrate.display job.uploadId
  | mapSettings, settings => UuidCrate.display settings.logbookId
  | backupRecords, backup => UuidCrate.display backup.backupId
  | divergenceReports, report => UuidCrate.display report.reportId

end HostedTable

open HostedTable (recordId)

variable [UuidCrate]

/-- The database of the hosted server. -/
abbrev HostedDatabase := Database recordId

/-! Plaintext tokens are cleared on the way in and on the way out. -/

def ApiToken.stored (token : ApiToken) : ApiToken := { token with token := "" }

def ServerInvite.stored (invite : ServerInvite) : ServerInvite := { invite with legacyToken := "" }

/-- The records of one table that a state is saved as. -/
def ServerState.records (state : ServerState) : (table : HostedTable) → List table.Payload
  | .hostingConfig => [state.hostingConfig]
  | .serverAdmins => state.serverAdminUserIds.values
  | .users => state.accounts.values
  | .loginSessions => state.sessionsByToken.values.map LoginSession.stored
  | .devices => state.devices.values
  | .logbooks => state.logbooks.values
  | .logbookMemberships => state.memberships
  | .apiTokens => state.apiTokens.values.map ApiToken.stored
  | .serverInvites => state.invites.values.map ServerInvite.stored
  | .emailVerifications => state.emailVerifications.values
  | .recoveryTokens => state.recoveryTokens.values
  | .rateLimits => state.rateLimits.values
  | .turnstileReplayTokens => state.turnstileTokenHashes.values
  | .auditLog => state.auditLog
  | .stationProfiles => state.stationProfiles.values
  | .equipmentProfiles => state.equipmentProfiles.values
  | .providerSettings => state.providerSettings.values
  | .uploadQueueHistory => state.uploadJobs.values
  | .mapSettings => state.mapSettings.values
  | .backupRecords => state.backups.values
  | .divergenceReports => state.divergenceReports.values

def ServerState.allRecords (state : ServerState) : List (Record HostedTable.Payload) :=
  HostedTable.all.flatMap fun table => (state.records table).map (Sigma.mk table)

namespace SurrealHostedMetadataStore

/-- The writes of a save, in order. -/
def saveWrites (state : ServerState) : List (Write HostedTable.Payload) :=
  replaceAll HostedTable.all state.allRecords

/-- What a save that is not interrupted leaves. -/
def save (state : ServerState) (database : HostedDatabase) : HostedDatabase :=
  perform (saveWrites state) database

variable [Sha2Crate]

/-- A row from before the tokens were hashed gets its hash. -/
def hashFor (tokenHash token : String) : String :=
  if tokenHash.isEmpty ∧ !token.isEmpty then sessionTokenHash token else tokenHash

def loadedSession (session : LoginSession) : LoginSession :=
  { session with
    tokenHash := hashFor session.tokenHash session.token
    refreshTokenHash := hashFor session.refreshTokenHash session.refreshToken
    token := "", refreshToken := "" }

def loadedToken (token : ApiToken) : ApiToken :=
  { token with tokenHash := hashFor token.tokenHash token.token, token := "" }

def loadedInvite (invite : ServerInvite) : ServerInvite :=
  { invite with tokenHash := hashFor invite.tokenHash invite.legacyToken, legacyToken := "" }

/-- The state that a server starts with. Without a saved configuration it is
the one from the environment. -/
def load (fromEnv : HostingConfig) (database : HostedDatabase) : ServerState where
  hostingConfig := (database .hostingConfig).values.head?.getD fromEnv
  serverAdminUserIds := (∅ : Catalog _).insertAll (database .serverAdmins).values
  usersByEmail := (database .users).values.foldl
    (fun index account => index.insert account.email account.accountId) ∅
  accounts := (∅ : Catalog _).insertAll (database .users).values
  logbooks := (∅ : Catalog _).insertAll (database .logbooks).values
  memberships := (database .logbookMemberships).values
  sessionsByToken :=
    (∅ : Catalog _).insertAll ((database .loginSessions).values.map loadedSession)
  devices := (∅ : Catalog _).insertAll (database .devices).values
  invites := (∅ : Catalog _).insertAll ((database .serverInvites).values.map loadedInvite)
  apiTokens := (∅ : Catalog _).insertAll ((database .apiTokens).values.map loadedToken)
  emailVerifications := (∅ : Catalog _).insertAll (database .emailVerifications).values
  recoveryTokens := (∅ : Catalog _).insertAll (database .recoveryTokens).values
  rateLimits := (∅ : Catalog _).insertAll (database .rateLimits).values
  turnstileTokenHashes := (∅ : Catalog _).insertAll (database .turnstileReplayTokens).values
  auditLog := (database .auditLog).values
  stationProfiles := (∅ : Catalog _).insertAll (database .stationProfiles).values
  equipmentProfiles := (∅ : Catalog _).insertAll (database .equipmentProfiles).values
  providerSettings := (∅ : Catalog _).insertAll (database .providerSettings).values
  uploadJobs := (∅ : Catalog _).insertAll (database .uploadQueueHistory).values
  mapSettings := (∅ : Catalog _).insertAll (database .mapSettings).values
  backups := (∅ : Catalog _).insertAll (database .backupRecords).values
  divergenceReports := (∅ : Catalog _).insertAll (database .divergenceReports).values

end SurrealHostedMetadataStore

/-! What distinguishes the records of a state. -/

/-- A membership is told from the others by its logbook and its user, an
audit by its identifier. These are the two collections that the state does
not keep by their keys. -/
structure ServerState.DistinctRows (state : ServerState) : Prop where
  memberships : (state.memberships.map fun row => (row.logbookId, row.userId)).Nodup
  audits : (state.auditLog.map AuditRecord.auditId).Nodup

end HamLogger
