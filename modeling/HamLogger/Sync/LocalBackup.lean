import HamLogger.Server.BackupHandlers

/-! Backups of the desktop client: the export of its logbook, the dry run of
an import, and the import. A document is given by what reading each of its
sections returns; the support sections are copied and never looked into. -/
namespace HamLogger

/-- A backup file of the desktop client. A support section that is missing or
cannot be read is left as it is. -/
structure LocalBackup (Book Queue Layers : Type) where
  manifest : Option BackupManifest
  officialEvents : Except String (List CoreEventEnvelope) := .ok []
  stationBook : Option Book := none
  uploadQueue : Option Queue := none
  mapLayers : Option Layers := none

/-- The parts of the client that a backup holds. -/
structure LocalProfile (Book Queue Layers : Type) where
  logbookId : Uuid
  store : InMemoryLogbookEventStore := {}
  stationBook : Book
  uploadQueue : Queue
  mapLayers : Layers

structure LocalDryRun where
  errors : List String
  officialEventCount : Nat := 0
  skippedDuplicateCount : Nat := 0

/-- The field `ok` of the answer, and `would_import`. -/
def LocalDryRun.ok (dryRun : LocalDryRun) : Bool := dryRun.errors.isEmpty

structure LocalImportReply where
  importedOfficialEventsCount : Nat
  skippedDuplicateCount : Nat
  finalChainHead : Option String
  qsoCount : Nat

/-- Whether the JSON text of a document, in lower case, has the text
`test-secret` in it. -/
class BackupText (Book Queue Layers : Type) where
  hasTestSecret : LocalBackup Book Queue Layers → Bool

section Handlers
variable {Book Queue Layers : Type} [UuidCrate] [CanonicalJson] [Sha2Crate]

def handleBackupExport [BackupText Book Queue Layers] (profile : LocalProfile Book Queue Layers) :
    Except String (LocalBackup Book Queue Layers) :=
  let backup : LocalBackup Book Queue Layers :=
    { manifest := some { formatVersion := some 1, logbookId := some profile.logbookId }
      officialEvents := .ok (profile.store.listEvents profile.logbookId)
      stationBook := some profile.stationBook
      uploadQueue := some profile.uploadQueue
      mapLayers := some profile.mapLayers }
  if BackupText.hasTestSecret backup then
    .error "backup payload contains a secret-like test value"
  else .ok backup

/-- The checks of the events of a backup, with the identifiers seen so far and
the hash that comes next. -/
def checkBackupEvents (previousHash : Option String) (seen : List Uuid) :
    List CoreEventEnvelope → Except String Unit
  | [] => .ok ()
  | event :: rest =>
      let named (problem : String) := "event " ++ UuidCrate.display event.eventId ++ problem
      if event.eventId ∈ seen then .error (named " appears more than once")
      else if event.hashIsValid = false then .error (named " has an invalid hash")
      else if event.previousHash ≠ previousHash then
        .error (named " breaks previous_hash continuity")
      else checkBackupEvents (some event.eventHash) (seen ++ [event.eventId]) rest

def backupEvents (backup : LocalBackup Book Queue Layers) :
    Except String (List CoreEventEnvelope) :=
  match backup.officialEvents with
  | .error error => .error ("official_events could not deserialize: " ++ error)
  | .ok events => (checkBackupEvents none [] events).map fun _ => events

/-- How many events of the logbook the backup begins with, and whether they
are all of them. -/
def matchExisting : List CoreEventEnvelope → List CoreEventEnvelope → Nat × Bool
  | [], _ => (0, true)
  | _ :: _, [] => (0, false)
  | existing :: rest, event :: others =>
      if event = existing then
        ((matchExisting rest others).1 + 1, (matchExisting rest others).2)
      else (0, false)

def localBackupDryRun (profile : LocalProfile Book Queue Layers)
    (backup : LocalBackup Book Queue Layers) : LocalDryRun :=
  match backup.manifest with
  | none => { errors := ["backup manifest is required"] }
  | some manifest =>
      let checked := backupEvents backup
      let events := match checked with
        | .ok events => events
        | .error _ => []
      let existing := profile.store.listEvents profile.logbookId
      { errors :=
          (if manifest.formatVersion ≠ some 1 then
            ["unsupported backup format_version"] else []) ++
          (if manifest.logbookId ≠ some profile.logbookId then
            ["backup logbook_id does not match this local profile"] else []) ++
          (match checked with
            | .ok _ => []
            | .error error => [error]) ++
          (if existing.length > events.length then
            ["target logbook is ahead of the backup"] else []) ++
          if (matchExisting existing events).2 then []
          else ["target logbook diverges from backup"]
        officialEventCount := events.length
        skippedDuplicateCount := (matchExisting existing events).1 }

/-- The support sections of a backup take the place of those of the client. -/
def restoreSections (backup : LocalBackup Book Queue Layers)
    (profile : LocalProfile Book Queue Layers) : LocalProfile Book Queue Layers :=
  { profile with
    stationBook := backup.stationBook.getD profile.stationBook
    uploadQueue := backup.uploadQueue.getD profile.uploadQueue
    mapLayers := backup.mapLayers.getD profile.mapLayers }

variable [RustFmt]

/-- The answer once every event is appended and every section restored. -/
def localImportReply (profile : LocalProfile Book Queue Layers) (imported skipped : Nat) :
    Outcome String LocalImportReply :=
  match profile.store.rebuildProjections profile.logbookId with
  | .error .panic => .error .panic
  | .error (.error error) => .error (.error error.toString)
  | .ok projection =>
      .ok { importedOfficialEventsCount := imported
            skippedDuplicateCount := skipped
            finalChainHead := profile.store.getHead profile.logbookId
            qsoCount := (projection.list false).length }

/-- The part of an import after the dry run. The loop over the events is that
of the hosted server. -/
def importBackupEvents (profile : LocalProfile Book Queue Layers)
    (backup : LocalBackup Book Queue Layers) (events : List CoreEventEnvelope) :
    LocalProfile Book Queue Layers × Outcome String LocalImportReply :=
  let existing := profile.store.listEvents profile.logbookId
  if existing.length > events.length then
    (profile, .error (.error "target logbook is ahead of the backup; use divergence review"))
  else if (matchExisting existing events).2 = false then
    (profile, .error (.error "target logbook diverges from backup"))
  else
    match HostedServer.appendBackupEvents profile.store (events.drop existing.length) with
    | (later, .error error) =>
        ({ profile with store := later }, .error (.error error.toString))
    | (later, .ok imported) =>
        let restored := restoreSections backup { profile with store := later }
        (restored, localImportReply restored imported existing.length)

/-- A file that cannot be read has the message of its answer. -/
def handleBackupImport (profile : LocalProfile Book Queue Layers) (confirmDryRun : Option Bool)
    (file : Except String (LocalBackup Book Queue Layers)) :
    LocalProfile Book Queue Layers × Outcome String LocalImportReply :=
  if confirmDryRun ≠ some true then
    (profile, .error
      (.error "confirm_dry_run must be true after reviewing the dry-run result"))
  else
    match file with
    | .error error => (profile, .error (.error error))
    | .ok backup =>
        let dryRun := localBackupDryRun profile backup
        if dryRun.ok = false then (profile, .error (.error (", ".intercalate dryRun.errors)))
        else
          match backupEvents backup with
          | .error error => (profile, .error (.error error))
          | .ok events => importBackupEvents profile backup events

end Handlers
end HamLogger
