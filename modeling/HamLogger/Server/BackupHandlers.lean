import HamLogger.Server.LogbookHandlers

/-! Backups of a logbook: what the hosted server checks of a backup document,
and how it imports one. A document is given by what reading each of its
sections as records returns, entry by entry. -/
namespace HamLogger

open Program

structure BackupManifest where
  formatVersion : Option UInt64
  logbookId : Option Uuid

/-- A backup document. A section that is missing or no array has no entries to
read, and events that cannot be read leave nothing. -/
structure BackupDocument where
  manifest : Option BackupManifest
  officialEvents : Option (List CoreEventEnvelope) := some []
  stationProfiles : Option (List (Except String HostedStationProfile)) := none
  equipmentProfiles : Option (List (Except String HostedEquipmentProfile)) := none
  providerSettings : Option (List (Except String HostedProviderSetting)) := none
  uploadQueueHistory : Option (List (Except String HostedUploadJob)) := none
  mapSettings : Option (Except String HostedMapSettings) := none
  missingCredentials : List String := []
  supportSections : List String := []

structure BackupValidationPlan where
  errors : List String
  warnings : List String := []
  events : List CoreEventEnvelope := []
  headHash : Option String := none
  missingCredentialReferences : List String := []
  supportSections : List String := []

def BackupValidationPlan.ok (plan : BackupValidationPlan) : Bool := plan.errors.isEmpty

structure BackupDryRunRequest where
  logbookId : Uuid
  backup : BackupDocument

structure BackupDryRunResponse where
  ok : Bool
  errors : List String
  warnings : List String
  eventCount : Nat
  headHash : Option String
  supportSections : List String
  missingCredentialReferences : List String
  wouldImport : Bool
  requiresManualReview : Bool

def BackupValidationPlan.toDryRunResponse (plan : BackupValidationPlan) : BackupDryRunResponse where
  ok := plan.ok
  errors := plan.errors
  warnings := plan.warnings
  eventCount := plan.events.length
  headHash := plan.headHash
  supportSections := plan.supportSections
  missingCredentialReferences := plan.missingCredentialReferences
  wouldImport := plan.ok
  requiresManualReview := !plan.ok

structure BackupImportInput where
  logbookId : Uuid
  backup : BackupDocument
  confirmDryRun : Bool := true

structure BackupImportResponse where
  importedOfficialEventsCount : Nat
  skippedDuplicateCount : Nat
  restoredSupportSections : List String
  missingCredentialReferences : List String
  warnings : List String
  finalChainHead : Option String
  qsoCount : Nat
  deriving DecidableEq

section Plan
variable [UuidCrate] [CanonicalJson] [Sha2Crate]

/-- What is wrong with one event of a backup, after those before it. -/
def backupEventErrors (logbookId : Uuid) (seen : List CoreEventEnvelope)
    (event : CoreEventEnvelope) : List String :=
  let named (problem : String) := "event " ++ UuidCrate.display event.eventId ++ problem
  (if event.eventId ∈ seen.map CoreEventEnvelope.eventId then
      [named " appears more than once"] else []) ++
    (if event.logbookId ≠ logbookId then [named " belongs to another logbook"] else []) ++
    (if event.hashIsValid = false then [named " has an invalid hash"] else []) ++
    if event.previousHash ≠ headHash seen then
      [named " breaks previous_hash continuity"] else []

/-- What is wrong with the events after those that were seen. -/
def backupErrors (logbookId : Uuid) (seen : List CoreEventEnvelope) :
    List CoreEventEnvelope → List String
  | [] => []
  | event :: rest =>
      backupEventErrors logbookId seen event ++ backupErrors logbookId (seen ++ [event]) rest

def validateBackupPlan (logbookId : Uuid) (backup : BackupDocument) : BackupValidationPlan :=
  match backup.manifest with
  | none => { errors := ["backup manifest is required"] }
  | some manifest =>
      match backup.officialEvents with
      | none =>
          { errors := ["official_events could not deserialize"]
            supportSections := backup.supportSections }
      | some events =>
          let missing := backup.missingCredentials
          { errors :=
              (if manifest.formatVersion ≠ some 1 then
                ["unsupported backup format_version"] else []) ++
              (if manifest.logbookId ≠ some logbookId then
                ["backup logbook_id does not match target"] else []) ++
              backupErrors logbookId [] events
            warnings := if missing = [] then [] else
              [Nat.repr missing.length ++
                " provider settings will require credentials after restore"]
            events := events
            headHash := headHash events
            missingCredentialReferences := missing
            supportSections := backup.supportSections }

end Plan

/-! The restore of what is not an event. -/

/-- Configuration fields that may hold a secret, by their names. -/
def secretLikeKey (key : String) : Bool :=
  let lowered := toAsciiLowercase key
  !(lowered.toList.reverse.take 13 == "credential_id".toList.reverse) &&
    (containsText lowered "secret" || containsText lowered "password" ||
      containsText lowered "token" || containsText lowered "api_key" ||
      containsText lowered "apikey")

mutual
/-- The first field that looks like a secret, nested objects included. -/
def secretField : List (String × Value) → Option String
  | [] => none
  | (key, value) :: rest =>
      if secretLikeKey key then some key
      else match nestedSecretField value with
        | some nested => some nested
        | none => secretField rest
def nestedSecretField : Value → Option String
  | .object fields => secretField fields
  | _ => none
end

def validateSecretFreeConfig (config : Fields) : Except ApiError Unit :=
  match secretField config with
  | some key => .error (.badRequest ("provider config field " ++ key ++
      " looks like a secret; store a credential_id reference instead"))
  | none => .ok ()

/-- A job that was running when the backup was made may have been uploaded. -/
def HostedUploadJob.restored (job : HostedUploadJob) (accountId logbookId : Uuid) :
    HostedUploadJob :=
  let job := { job with accountId := accountId, logbookId := logbookId }
  if job.status = .running then
    { job with
      status := .retryable, queueState := .uncertain, uncertainOutcome := true,
      safeFailureCode := some "restored_running_job", claimToken := none,
      leaseExpiresAt := none,
      failureReason := some "restored from backup while job state was running" }
  else job

namespace HostedServer

/-- Restore the entries of a section until one cannot be read or is refused. -/
def restoreEntries {Record : Type} [UuidCrate] (invalid : String)
    (restore : Record → Handler Unit) : List (Except String Record) → Handler Unit
  | [] => pure ()
  | .error message :: _ => reject (.badRequest (invalid ++ message))
  | .ok record :: rest => do
      restore record
      restoreEntries invalid restore rest

/-- Restore a section, and name it, if the document has it. -/
def restoreSection {Record : Type} [UuidCrate] (entries : Option (List (Except String Record)))
    (name invalid : String) (restore : Record → Handler Unit) : Handler (List String) :=
  match entries with
  | none => pure []
  | some entries => do
      restoreEntries invalid restore entries
      return [name]

variable [UuidCrate]

def restoreStationProfile (accountId logbookId : Uuid) (hosted : HostedStationProfile) :
    Handler Unit :=
  modify fun state =>
    { state with
      stationProfiles := state.stationProfiles.insert
        { hosted with accountId := accountId, logbookId := logbookId } }

def restoreEquipmentProfile (accountId logbookId : Uuid) (hosted : HostedEquipmentProfile) :
    Handler Unit :=
  modify fun state =>
    { state with
      equipmentProfiles := state.equipmentProfiles.insert
        { hosted with accountId := accountId, logbookId := logbookId } }

def restoreProviderSetting (now : DateTime) (accountId logbookId : Uuid)
    (setting : HostedProviderSetting) : Handler Unit := do
  ofExcept (validateSecretFreeConfig setting.config)
  modify fun state =>
    { state with
      providerSettings := state.providerSettings.insert
        { setting with
          accountId := accountId, logbookId := logbookId, credentialId := none,
          updatedAt := now } }

def restoreUploadJob (accountId logbookId : Uuid) (job : HostedUploadJob) : Handler Unit :=
  modify fun state =>
    { state with uploadJobs := state.uploadJobs.insert (job.restored accountId logbookId) }

def restoreMapSettings (now : DateTime) (accountId logbookId : Uuid)
    (settings : HostedMapSettings) : Handler Unit :=
  modify fun state =>
    { state with
      mapSettings := state.mapSettings.insert
        { settings with accountId := accountId, logbookId := logbookId, updatedAt := now } }

/-- The sections are restored one after another. What was restored stays where
a later entry cannot be read. -/
def restoreBackupSupportMetadata (now : DateTime) (accountId logbookId : Uuid)
    (backup : BackupDocument) : Handler (List String) := do
  let stations ← restoreSection backup.stationProfiles "station_profiles"
    "invalid station profile backup record: " (restoreStationProfile accountId logbookId)
  let equipment ← restoreSection backup.equipmentProfiles "equipment_profiles"
    "invalid equipment backup record: " (restoreEquipmentProfile accountId logbookId)
  let settings ← restoreSection backup.providerSettings "provider_settings_without_secrets"
    "invalid provider setting backup record: " (restoreProviderSetting now accountId logbookId)
  let uploads ← restoreSection backup.uploadQueueHistory "upload_queue_history"
    "invalid upload history backup record: " (restoreUploadJob accountId logbookId)
  let maps ← restoreSection (backup.mapSettings.map fun settings => [settings]) "map_preferences"
    "invalid map settings backup record: " (restoreMapSettings now accountId logbookId)
  return stations ++ equipment ++ settings ++ uploads ++ maps

variable [Sha2Crate] [CanonicalJson]

/-- Append the events of a backup that the logbook does not have, until one is
refused. -/
def appendBackupEvents (store : InMemoryLogbookEventStore) :
    List CoreEventEnvelope → InMemoryLogbookEventStore × Except StoreError Nat
  | [] => (store, .ok 0)
  | event :: rest =>
      match store.appendVerifiedRemoteEvent event with
      | (later, .error error) => (later, .error error)
      | (later, .ok _) =>
          let (final, outcome) := appendBackupEvents later rest
          (final, outcome.map (· + 1))

/-- The logbook of the backup may have no event that the backup does not begin
with. -/
def targetError (existing events : List CoreEventEnvelope) : Option String :=
  if existing.length > events.length then
    some "target logbook is ahead of the backup; use divergence review"
  else
    ((existing.zip events).find? fun pair => pair.1 ≠ pair.2).map fun pair =>
      "target logbook diverges before backup event " ++ UuidCrate.display pair.1.eventId

def backupImportDryRun (context : RequestContext) (body : Except String BackupDryRunRequest) :
    Handler BackupDryRunResponse := do
  let input ← parseJson body
  let _ ← requireLogbookRole context input.logbookId .admin
  return (validateBackupPlan input.logbookId input.backup).toDryRunResponse

variable [RustFmt]

def storeOutcome {α : Type} : Outcome StoreError α → EventHandler α
  | .ok value => pure value
  | .error (.error error) => onServer (reject (.store error.toString))
  | .error .panic => throw .panic

def backupImport (context : RequestContext) (body : Except String BackupImportInput) :
    EventHandler BackupImportResponse := do
  let input ← onServer (parseJson body)
  if !input.confirmDryRun then
    onServer (reject (.badRequest
      "confirm_dry_run must be true after reviewing /api/v1/backups/import/dry-run"))
  let auth ← onServer (requireLogbookRole context input.logbookId .admin)
  let plan := validateBackupPlan input.logbookId input.backup
  if !plan.ok then
    onServer (reject (.badRequest (plan.errors.head?.getD "backup import validation failed")))
  let state ← get
  let existing := state.store.listEvents input.logbookId
  if let some message := targetError existing plan.events then
    onServer (reject (.badRequest message))
  let (store, appended) := appendBackupEvents state.store (plan.events.drop existing.length)
  set { state with store := store }
  let imported ← storeOutcome (Outcome.ofExcept appended)
  storeOutcome (Outcome.ofExcept (store.verifyChain input.logbookId))
  let projection ← storeOutcome (store.rebuildProjections input.logbookId)
  let restored ← onServer do
    let restored ← restoreBackupSupportMetadata context.now auth.session.accountId input.logbookId
      input.backup
    persistMetadata context
    return restored
  return { importedOfficialEventsCount := imported, skippedDuplicateCount := existing.length,
           restoredSupportSections := restored,
           missingCredentialReferences := plan.missingCredentialReferences,
           warnings := plan.warnings, finalChainHead := store.getHead input.logbookId,
           qsoCount := (projection.list false).length }

end HostedServer
end HamLogger
