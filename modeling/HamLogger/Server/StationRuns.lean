import HamLogger.Server.ImportSteps
import HamLogger.Server.StationRules

/-! Runs of requests about station profiles and equipment, with imports of
backups among them. The rules on the profiles hold as long as the backups keep
them, and a backup with two default profiles breaks them. -/
namespace HamLogger

open Program
open Transition (Run System)

/-! What an import puts in place. -/

def HostedStationProfile.reown (hosted : HostedStationProfile) (accountId logbookId : Uuid) :
    HostedStationProfile :=
  { hosted with accountId := accountId, logbookId := logbookId }

def HostedEquipmentProfile.reown (equipment : HostedEquipmentProfile)
    (accountId logbookId : Uuid) : HostedEquipmentProfile :=
  { equipment with accountId := accountId, logbookId := logbookId }

namespace BackupDocument

/-- The profiles that an import of the backup can read. -/
def stationCatalog (backup : BackupDocument) : Catalog HostedStationProfile.stationProfileId :=
  (∅ : Catalog _).insertAll (readable (backup.stationProfiles.getD []))

/-- The equipment that an import of the backup can read, after the profiles. -/
def equipmentRead (backup : BackupDocument) : List HostedEquipmentProfile :=
  if (backup.stationProfiles.getD []).all Except.isOk then
    readable (backup.equipmentProfiles.getD [])
  else []

def equipmentCatalog (backup : BackupDocument) : Catalog HostedEquipmentProfile.equipmentId :=
  (∅ : Catalog _).insertAll backup.equipmentRead

end BackupDocument

namespace StationTables

def restored (tables : StationTables) (accountId logbookId : Uuid) (backup : BackupDocument) :
    StationTables where
  stations := tables.stations.insertAll
    ((readable (backup.stationProfiles.getD [])).map fun hosted =>
      hosted.reown accountId logbookId)
  equipment := tables.equipment.insertAll
    (backup.equipmentRead.map fun equipment => equipment.reown accountId logbookId)

theorem lookup_restored_stations (tables : StationTables) (accountId logbookId : Uuid)
    (backup : BackupDocument) (stationProfileId : Uuid) :
    (tables.restored accountId logbookId backup).stations.lookup stationProfileId =
      ((backup.stationCatalog.lookup stationProfileId).map fun hosted =>
        hosted.reown accountId logbookId).or (tables.stations.lookup stationProfileId) :=
  tables.stations.lookup_insertAll_map (fun hosted => hosted.reown accountId logbookId)
    (fun _ => rfl) _ _

theorem foldl_stations (tables : StationTables) (accountId logbookId : Uuid)
    (profiles : List HostedStationProfile) :
    profiles.foldl (fun tables hosted =>
        ({ tables with
            stations := tables.stations.insert (hosted.reown accountId logbookId) } :
          StationTables)) tables =
      { tables with
        stations := tables.stations.insertAll
          (profiles.map fun hosted => hosted.reown accountId logbookId) } := by
  induction profiles generalizing tables with
  | nil => rfl
  | cons hosted rest ih => exact ih _

theorem foldl_equipment (tables : StationTables) (accountId logbookId : Uuid)
    (items : List HostedEquipmentProfile) :
    items.foldl (fun tables equipment =>
        ({ tables with
            equipment := tables.equipment.insert (equipment.reown accountId logbookId) } :
          StationTables)) tables =
      { tables with
        equipment := tables.equipment.insertAll
          (items.map fun equipment => equipment.reown accountId logbookId) } := by
  induction items generalizing tables with
  | nil => rfl
  | cons equipment rest ih => exact ih _

/-- A profile after an import comes from the backup, or was there and is not
in the backup. -/
theorem mem_restored_stations {tables : StationTables} {accountId logbookId : Uuid}
    {backup : BackupDocument} {hosted : HostedStationProfile}
    (h : hosted ∈ (tables.restored accountId logbookId backup).stations.values) :
    (∃ read ∈ backup.stationCatalog.values, read.reown accountId logbookId = hosted) ∨
      (hosted ∈ tables.stations.values ∧
        backup.stationCatalog.lookup hosted.stationProfileId = none) := by
  have hInserted : hosted ∈ (tables.stations.insertAll
      ((readable (backup.stationProfiles.getD [])).map fun hosted =>
        hosted.reown accountId logbookId)).values := h
  exact Catalog.mem_values_insertAll_map
    (fun hosted : HostedStationProfile => hosted.reown accountId logbookId) (fun _ => rfl)
    hInserted

theorem mem_restored_equipment {tables : StationTables} {accountId logbookId : Uuid}
    {backup : BackupDocument} {equipment : HostedEquipmentProfile}
    (h : equipment ∈ (tables.restored accountId logbookId backup).equipment.values) :
    (∃ read ∈ backup.equipmentCatalog.values, read.reown accountId logbookId = equipment) ∨
      (equipment ∈ tables.equipment.values ∧
        backup.equipmentCatalog.lookup equipment.equipmentId = none) := by
  have hInserted : equipment ∈ (tables.equipment.insertAll
      (backup.equipmentRead.map fun equipment => equipment.reown accountId logbookId)).values := h
  exact Catalog.mem_values_insertAll_map
    (fun equipment : HostedEquipmentProfile => equipment.reown accountId logbookId)
    (fun _ => rfl) hInserted

/-- A backup whose records keep the rules, together with those that are there:
its profiles do, no profile of the logbook that it leaves is a second default
one, its equipment names profiles of the backup or the logbook, and it takes
no profile that equipment of another logbook names. -/
structure Admits (tables : StationTables) (logbookId : Uuid) (backup : BackupDocument) :
    Prop where
  active : ∀ hosted ∈ backup.stationCatalog.values, hosted.isDefault = hosted.profile.active
  oneDefault : ∀ first ∈ backup.stationCatalog.values, ∀ second ∈ backup.stationCatalog.values,
    first.isDefault = true → second.isDefault = true → first = second
  noOther : ∀ first ∈ backup.stationCatalog.values, first.isDefault = true →
    ∀ other ∈ tables.stations.values, other.logbookId = logbookId → other.isDefault = true →
      backup.stationCatalog.lookup other.stationProfileId ≠ none
  known : ∀ equipment ∈ backup.equipmentCatalog.values, ∀ stationProfileId ∈
    equipment.stationProfileId, backup.stationCatalog.lookup stationProfileId = none →
      tables.HasStation logbookId stationProfileId
  untaken : ∀ equipment ∈ tables.equipment.values, equipment.logbookId ≠ logbookId →
    ∀ stationProfileId ∈ equipment.stationProfileId,
      backup.stationCatalog.lookup stationProfileId ≠ none →
        backup.equipmentCatalog.lookup equipment.equipmentId ≠ none

theorem hasStation_restored {tables : StationTables} {accountId logbookId : Uuid}
    {backup : BackupDocument} {stationProfileId : Uuid}
    (h : backup.stationCatalog.lookup stationProfileId = none →
      tables.HasStation logbookId stationProfileId) :
    (tables.restored accountId logbookId backup).HasStation logbookId stationProfileId := by
  unfold HasStation
  rw [lookup_restored_stations]
  cases hRead : backup.stationCatalog.lookup stationProfileId with
  | none => exact h hRead
  | some read => exact ⟨read.reown accountId logbookId, rfl, rfl⟩

theorem Ordered.restored {tables : StationTables} (h : tables.Ordered) {logbookId : Uuid}
    {backup : BackupDocument} (hAdmits : tables.Admits logbookId backup) (accountId : Uuid) :
    (tables.restored accountId logbookId backup).Ordered := by
  constructor
  · intro first hFirst second hSecond hSame hFirstDefault hSecondDefault
    rcases mem_restored_stations hFirst with ⟨read, hRead, rfl⟩ | ⟨hOld, hFirstNew⟩
    · rcases mem_restored_stations hSecond with ⟨other, hOther, rfl⟩ | ⟨hOther, hNotRead⟩
      · rw [hAdmits.oneDefault read hRead other hOther hFirstDefault hSecondDefault]
      · exact absurd hNotRead
          (hAdmits.noOther read hRead hFirstDefault second hOther hSame.symm hSecondDefault)
    · rcases mem_restored_stations hSecond with ⟨other, hOther, rfl⟩ | ⟨hOther, _⟩
      · exact absurd hFirstNew
          (hAdmits.noOther other hOther hSecondDefault first hOld hSame hFirstDefault)
      · exact h.oneDefault first hOld second hOther hSame hFirstDefault hSecondDefault
  · intro hosted hHosted
    rcases mem_restored_stations hHosted with ⟨read, hRead, rfl⟩ | ⟨hOld, _⟩
    · exact hAdmits.active read hRead
    · exact h.defaultActive hosted hOld
  · intro equipment hEquipment stationProfileId hNamed
    rcases mem_restored_equipment hEquipment with ⟨read, hRead, rfl⟩ | ⟨hOld, hKept⟩
    · exact hasStation_restored (hAdmits.known read hRead stationProfileId hNamed)
    · have hOwn := h.ownStation equipment hOld stationProfileId hNamed
      by_cases hLogbook : equipment.logbookId = logbookId
      · rw [hLogbook] at hOwn ⊢
        exact hasStation_restored fun _ => hOwn
      · obtain ⟨hosted, hFound, hHosted⟩ := hOwn
        refine ⟨hosted, ?_, hHosted⟩
        rw [lookup_restored_stations]
        cases hRead : backup.stationCatalog.lookup stationProfileId with
        | none => exact hFound
        | some read =>
            refine absurd hKept (hAdmits.untaken equipment hOld hLogbook stationProfileId hNamed ?_)
            rw [hRead]
            nofun

end StationTables

namespace HostedServer
variable [UuidCrate]

/-- Whether or not an import can read the whole of a backup, it puts these
profiles and this equipment in place. -/
theorem leads_restoreBackupSupportMetadata (now : DateTime) (accountId logbookId : Uuid)
    (backup : BackupDocument) (before : StationTables) :
    Leads ServerState.stationTables (restoreBackupSupportMetadata now accountId logbookId backup)
      before fun later _ => later = before.restored accountId logbookId backup := by
  have hStation : ∀ (tables : StationTables) hosted, Leads ServerState.stationTables
      (restoreStationProfile accountId logbookId hosted) tables fun later outcome =>
        later = { tables with
          stations := tables.stations.insert (hosted.reown accountId logbookId) } ∧
        outcome = .ok () := by
    intro tables hosted state hState
    subst hState
    exact ⟨rfl, rfl⟩
  have hEquipment : ∀ (tables : StationTables) equipment, Leads ServerState.stationTables
      (restoreEquipmentProfile accountId logbookId equipment) tables fun later outcome =>
        later = { tables with
          equipment := tables.equipment.insert (equipment.reown accountId logbookId) } ∧
        outcome = .ok () := by
    intro tables equipment state hState
    subst hState
    exact ⟨rfl, rfl⟩
  have hSetting : ∀ setting, Keeps ServerState.stationTables
      (restoreProviderSetting now accountId logbookId setting) := fun setting =>
    keeps_bind (keeps_ofExcept _) fun _ => fun _ => rfl
  refine leads_bind (leads_restoreSection hStation before) ?_ ?_
  · intro later error hLater
    have hUnread := hLater.2.symm
    rw [hLater.1, StationTables.foldl_stations, StationTables.restored,
      BackupDocument.equipmentRead, hUnread]
    rfl
  intro later _ hStations
  have hRead : (backup.stationProfiles.getD []).all Except.isOk = true := hStations.2.symm
  rw [hStations.1, StationTables.foldl_stations]
  have hFinal : StationTables.restored before accountId logbookId backup =
      { stations := before.stations.insertAll
          ((readable (backup.stationProfiles.getD [])).map fun hosted =>
            hosted.reown accountId logbookId)
        equipment := before.equipment.insertAll
          ((readable (backup.equipmentProfiles.getD [])).map fun equipment =>
            equipment.reown accountId logbookId) } := by
    rw [StationTables.restored, BackupDocument.equipmentRead, if_pos hRead]
  refine leads_bind (leads_restoreSection hEquipment _) ?_ ?_
  · intro after error hAfter
    rw [hAfter.1, StationTables.foldl_equipment, hFinal]
  intro after _ hAfter
  rw [hAfter.1, StationTables.foldl_equipment, ← hFinal]
  apply Keeps.leads ?_ fun _ => rfl
  apply keeps_bind (keeps_restoreSection hSetting)
  intro _
  apply keeps_bind (keeps_restoreSection fun _ _ => rfl)
  intro _
  apply keeps_bind (keeps_restoreSection fun _ _ => rfl)
  intro _
  exact keeps_pure _

end HostedServer

/-! Runs. -/

/-- A request about the profiles of a logbook, or an import of a backup. -/
inductive StationCall where
  | createStation (drawn : Uuid) (body : Except String StationProfileRequest)
  | patchStation (profileId : String) (body : Except String StationProfileRequest)
  | archiveStation (profileId : String) (body : Except String Uuid)
  | setDefaultStation (profileId : String) (body : Except String Uuid)
  | createEquipment (drawn : Uuid) (body : Except String EquipmentProfileRequest)
  | patchEquipment (equipmentId : String) (body : Except String EquipmentProfileRequest)
  | archiveEquipment (equipmentId : String) (body : Except String Uuid)
  | importBackup (body : Except String BackupImportInput)

section Runs
variable [UuidCrate] [Sha2Crate] [CanonicalJson] [RustFmt]

open HostedServer

namespace StationCall

/-- The server after a request, whatever the answer. -/
def after (call : StationCall) (context : RequestContext) (state : HostedState) : HostedState :=
  let handled {α : Type} (handler : Handler α) := ((onServer handler).execute state).1
  match call with
  | createStation drawn body => handled (createStationProfile context drawn body)
  | patchStation profileId body => handled (patchStationProfile context profileId body)
  | archiveStation profileId body => handled (archiveStationProfile context profileId body)
  | setDefaultStation profileId body => handled (setDefaultStationProfile context profileId body)
  | createEquipment drawn body => handled (HostedServer.createEquipment context drawn body)
  | patchEquipment equipmentId body =>
      handled (HostedServer.patchEquipment context equipmentId body)
  | archiveEquipment equipmentId body =>
      handled (HostedServer.archiveEquipment context equipmentId body)
  | importBackup body => ((backupImport context body).execute state).1

/-- A profile gets an identifier of its own. -/
def Fresh (call : StationCall) (state : HostedState) : Prop :=
  ∀ drawn body, call = createStation drawn body → state.server.stationProfiles.lookup drawn = none

/-- The records of a backup that is restored keep the rules. -/
def Keeping (call : StationCall) (context : RequestContext) (state : HostedState) : Prop :=
  ∀ input auth, call = importBackup (.ok input) → ImportReaches context input state auth →
    state.server.stationTables.Admits input.logbookId input.backup

theorem ordered_after {call : StationCall} {context : RequestContext} {state : HostedState}
    (h : state.server.stationTables.Ordered) (hFresh : call.Fresh state)
    (hKeeping : call.Keeping context state) :
    (call.after context state).server.stationTables.Ordered := by
  cases call with
  | createStation drawn body =>
      exact leads_createStationProfile h context (hFresh drawn body rfl) body state.server rfl
  | patchStation profileId body =>
      exact leads_patchStationProfile h context profileId body state.server rfl
  | archiveStation profileId body =>
      exact leads_archiveStationProfile h context profileId body state.server rfl
  | setDefaultStation profileId body =>
      exact leads_setDefaultStationProfile h context profileId body state.server rfl
  | createEquipment drawn body =>
      exact leads_createEquipment h context drawn body state.server rfl
  | patchEquipment equipmentId body =>
      exact leads_patchEquipment h context equipmentId body state.server rfl
  | archiveEquipment equipmentId body =>
      exact leads_archiveEquipment h context equipmentId body state.server rfl
  | importBackup body =>
      cases body with
      | error message => exact h
      | ok input =>
          apply backupImport_view context input state h
          intro auth hReaches
          refine (leads_restoreBackupSupportMetadata context.now auth.session.accountId
            input.logbookId input.backup _).mono fun later _ hLater => ?_
          rw [hLater]
          exact h.restored (hKeeping input auth rfl hReaches) auth.session.accountId

end StationCall

/-- Requests about profiles and equipment and imports, one after another. -/
def stationRequests : System HostedState (RequestContext × StationCall) where
  step state request later := request.2.Fresh state ∧ later = request.2.after request.1 state

/-- Where the records of every restored backup keep the rules, they hold
throughout. -/
theorem station_rules_kept {before after : HostedState}
    {requests : List (RequestContext × StationCall)}
    (run : Run (stationRequests.restrict fun state request => request.2.Keeping request.1 state)
      before requests after) (h : before.server.stationTables.Ordered) :
    after.server.stationTables.Ordered := by
  refine run.invariant (P := fun state => state.server.stationTables.Ordered)
    (fun state request later hOrdered hStep => ?_) h
  obtain ⟨hKeeping, hFresh, rfl⟩ := hStep
  exact StationCall.ordered_after hOrdered hFresh hKeeping

end Runs

section
open Crates

/-- A default profile, as a backup has it. -/
def sampleStation (stationProfileId : Uuid) : HostedStationProfile where
  accountId := 0
  logbookId := 0
  isDefault := true
  profile :=
    { stationProfileId := stationProfileId, accountId := none, displayName := "Home",
      stationCallsign := "KE8YGW", operatorCallsign := none, defaultGrid := none,
      defaultQth := none, defaultPowerWatts := none, notes := none, tags := [], active := true,
      createdAt := epoch, updatedAt := epoch }

/-- An import of profiles and no events. -/
def stationsImport (profiles : List HostedStationProfile) : BackupImportInput where
  logbookId := 102
  backup :=
    { manifest := some { formatVersion := some 1, logbookId := some 102 }
      stationProfiles := some (profiles.map Except.ok) }

def afterStationsImport (profiles : List HostedStationProfile) : HostedState :=
  StationCall.after (.importBackup (.ok (stationsImport profiles))) administratorRequest
    (hostedWith {})

theorem stations_afterBootstrap : afterBootstrap.stationProfiles.values = [] := by
  decide +kernel

theorem equipment_afterBootstrap : afterBootstrap.equipmentProfiles.values = [] := by
  decide +kernel

theorem ordered_hostedWith (store : InMemoryLogbookEventStore) :
    (hostedWith store).server.stationTables.Ordered := by
  have hStations : (hostedWith store).server.stationTables.stations.values = [] :=
    stations_afterBootstrap
  have hEquipment : (hostedWith store).server.stationTables.equipment.values = [] :=
    equipment_afterBootstrap
  constructor
  · simp [hStations]
  · simp [hStations]
  · simp [hEquipment]

theorem step_stationsImport (profiles : List HostedStationProfile) :
    stationRequests.step (hostedWith {})
      (administratorRequest, .importBackup (.ok (stationsImport profiles)))
      (afterStationsImport profiles) :=
  ⟨nofun, rfl⟩

theorem station_rules_kept_import :
    (afterStationsImport [sampleStation 200]).server.stationTables.Ordered := by
  have hRead : ∀ hosted ∈ (stationsImport [sampleStation 200]).backup.stationCatalog.values,
      hosted = sampleStation 200 := by
    intro hosted hHosted
    have hMem := (Catalog.mem_values_insertAll (by simp [stationsImport, readable])).mp hHosted
    exact List.mem_singleton.mp hMem
  have hStations : (hostedWith {}).server.stationTables.stations.values = [] :=
    stations_afterBootstrap
  have hEquipment : (hostedWith {}).server.stationTables.equipment.values = [] :=
    equipment_afterBootstrap
  have hAdmits : (hostedWith {}).server.stationTables.Admits 102
      (stationsImport [sampleStation 200]).backup := by
    constructor
    · intro hosted hHosted
      rw [hRead hosted hHosted]
      rfl
    · intro first hFirst second hSecond _ _
      rw [hRead first hFirst, hRead second hSecond]
    · simp [hStations]
    · intro equipment hMem
      exact absurd hMem (by simp [BackupDocument.equipmentCatalog, BackupDocument.equipmentRead,
        stationsImport, readable, Catalog.insertAll])
    · simp [hEquipment]
  refine station_rules_kept (Run.single ⟨?_, step_stationsImport [sampleStation 200]⟩)
    (ordered_hostedWith {})
  intro input auth hCall _
  cases hCall
  exact hAdmits

/-- The profiles that an import of two default ones leaves. -/
theorem stations_afterStationsImport :
    (afterStationsImport [sampleStation 200, sampleStation 201]).server.stationProfiles.values.map
        (fun hosted => (hosted.stationProfileId, hosted.logbookId, hosted.isDefault)) =
      [(201, 102, true), (200, 102, true)] := by
  decide +kernel

/-- An import of two default profiles leaves both. -/
theorem two_default_stations :
    Run stationRequests (hostedWith {})
      [(administratorRequest,
        .importBackup (.ok (stationsImport [sampleStation 200, sampleStation 201])))]
      (afterStationsImport [sampleStation 200, sampleStation 201]) ∧
    (hostedWith {}).server.stationTables.Ordered ∧
    ¬ (afterStationsImport
        [sampleStation 200, sampleStation 201]).server.stationTables.Ordered := by
  refine ⟨Run.single (step_stationsImport _), ordered_hostedWith {}, fun h => ?_⟩
  have hStored := stations_afterStationsImport
  have hFirst : ((201 : Uuid), (102 : Uuid), true) ∈ (afterStationsImport
      [sampleStation 200, sampleStation 201]).server.stationProfiles.values.map
        fun hosted => (hosted.stationProfileId, hosted.logbookId, hosted.isDefault) := by
    rw [hStored]
    simp
  have hSecond : ((200 : Uuid), (102 : Uuid), true) ∈ (afterStationsImport
      [sampleStation 200, sampleStation 201]).server.stationProfiles.values.map
        fun hosted => (hosted.stationProfileId, hosted.logbookId, hosted.isDefault) := by
    rw [hStored]
    simp
  obtain ⟨first, hFirstMem, hFirstIs⟩ := List.mem_map.mp hFirst
  obtain ⟨second, hSecondMem, hSecondIs⟩ := List.mem_map.mp hSecond
  simp only [Prod.mk.injEq] at hFirstIs hSecondIs
  have hSame := h.oneDefault first hFirstMem second hSecondMem
    (hFirstIs.2.1.trans hSecondIs.2.1.symm) hFirstIs.2.2 hSecondIs.2.2
  rw [hSame, hSecondIs.1] at hFirstIs
  exact absurd hFirstIs.1 (by decide)

end
end HamLogger
