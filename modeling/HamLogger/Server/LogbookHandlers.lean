import HamLogger.Server.SyncHandlers

/-! The requests of the hosted server about the station profiles and the
equipment of a logbook. A request that makes a record draws its identifier. -/
namespace HamLogger

open Program

structure StationProfileRequest where
  logbookId : Uuid
  displayName : Option String := none
  stationCallsign : Option String := none
  operatorCallsign : Option String := none
  defaultGrid : Option String := none
  defaultQth : Option String := none
  defaultPowerWatts : Option Nat := none
  notes : Option String := none
  tags : List String := []
  active : Option Bool := none

structure EquipmentProfileRequest where
  logbookId : Uuid
  equipmentType : Option EquipmentType := none
  displayName : Option String := none
  manufacturer : Option String := none
  model : Option String := none
  serialNumber : Option String := none
  capabilities : List String := []
  notes : Option String := none
  status : Option EquipmentStatus := none
  stationProfileId : Option Uuid := none

/-! Station profiles. -/

def isBlank (text : String) : Bool := (trim text).isEmpty

/-- A new profile, which is active only if the request says so. -/
def stationProfileFromRequest (context : RequestContext) (drawn : Uuid)
    (input : StationProfileRequest) : Except ApiError StationProfile := do
  let some displayName := nonBlankText input.displayName
    | throw (.badRequest "display_name is required")
  let some stationCallsign := nonBlankText input.stationCallsign
    | throw (.badRequest "station_callsign is required")
  return { stationProfileId := drawn, accountId := none, displayName := displayName,
           stationCallsign := toAsciiUppercase (trim stationCallsign),
           operatorCallsign := input.operatorCallsign, defaultGrid := input.defaultGrid,
           defaultQth := input.defaultQth, defaultPowerWatts := input.defaultPowerWatts,
           notes := input.notes, tags := input.tags, active := input.active.getD false,
           createdAt := context.now, updatedAt := context.now }

theorem stationProfileFromRequest_ok {context : RequestContext} {drawn : Uuid}
    {input : StationProfileRequest} {profile : StationProfile}
    (h : stationProfileFromRequest context drawn input = .ok profile) :
    profile.stationProfileId = drawn ∧ profile.active = input.active.getD false := by
  unfold stationProfileFromRequest at h
  cases hName : nonBlankText input.displayName with
  | none => simp [hName] at h
  | some displayName =>
      cases hCallsign : nonBlankText input.stationCallsign with
      | none => simp [hName, hCallsign] at h
      | some callsign =>
          simp only [hName, hCallsign] at h
          cases h
          exact ⟨rfl, rfl⟩

def validateStationPatch (input : StationProfileRequest) (existing : HostedStationProfile) :
    Except ApiError Unit := do
  if input.displayName.isNone ∧ input.stationCallsign.isNone ∧ input.operatorCallsign.isNone ∧
      input.defaultGrid.isNone ∧ input.defaultQth.isNone ∧ input.defaultPowerWatts.isNone ∧
      input.notes.isNone ∧ input.tags = [] ∧ input.active.isNone then
    throw (.badRequest "station profile patch must not be empty")
  if input.displayName.any isBlank then
    throw (.badRequest "display_name must not be empty")
  if input.stationCallsign.any isBlank then
    throw (.badRequest "station_callsign must not be empty")
  if existing.logbookId ≠ input.logbookId then
    throw .notFound

def applyStationPatch (now : DateTime) (input : StationProfileRequest)
    (hosted : HostedStationProfile) : HostedStationProfile :=
  let profile := hosted.profile
  { hosted with
    isDefault := input.active.getD hosted.isDefault
    profile := { profile with
      displayName := input.displayName.getD profile.displayName
      stationCallsign := (input.stationCallsign.map fun callsign =>
        toAsciiUppercase (trim callsign)).getD profile.stationCallsign
      operatorCallsign := input.operatorCallsign.or profile.operatorCallsign
      defaultGrid := input.defaultGrid.or profile.defaultGrid
      defaultQth := input.defaultQth.or profile.defaultQth
      defaultPowerWatts := input.defaultPowerWatts.or profile.defaultPowerWatts
      notes := input.notes.or profile.notes
      tags := if input.tags = [] then profile.tags else input.tags
      active := input.active.getD profile.active
      updatedAt := now } }

/-- A profile that is the default one, or not. -/
def HostedStationProfile.setDefault (hosted : HostedStationProfile) (isDefault : Bool) :
    HostedStationProfile :=
  { hosted with isDefault := isDefault, profile := { hosted.profile with active := isDefault } }

namespace HostedServer
variable [UuidCrate]

/-- No profile of the logbook is the default one. -/
def clearDefaults (logbookId : Uuid) : Handler Unit :=
  modify fun state =>
    { state with
      stationProfiles := state.stationProfiles.mapValues
        (fun existing =>
          if existing.logbookId = logbookId then existing.setDefault false else existing)
        fun existing => by split <;> rfl }

/-- Change a profile of the account and the logbook. -/
def modifyStation (accountId logbookId profileId : Uuid)
    (change : HostedStationProfile → HostedStationProfile)
    (hKey : ∀ hosted, (change hosted).stationProfileId = hosted.stationProfileId) :
    Handler HostedStationProfile := do
  let state ← get
  let hosted ← orReject .notFound <| (state.stationProfiles.lookup profileId).filter fun hosted =>
    hosted.accountId = accountId ∧ hosted.logbookId = logbookId
  set { state with stationProfiles := state.stationProfiles.modify profileId change hKey }
  return change hosted

/-- The first profile of a logbook is its default one, and so is one that the
request makes active. -/
def insertStation (hosted : HostedStationProfile) : Handler HostedStationProfile := do
  let state ← get
  if (state.stationProfiles.values.all fun existing => existing.logbookId ≠ hosted.logbookId) ∨
      hosted.isDefault = true then
    clearDefaults hosted.logbookId
    modify fun state =>
      { state with stationProfiles := state.stationProfiles.insert (hosted.setDefault true) }
    return hosted.setDefault true
  else
    modify fun state => { state with stationProfiles := state.stationProfiles.insert hosted }
    return hosted

variable [Sha2Crate]

def createStationProfile (context : RequestContext) (drawn : Uuid)
    (body : Except String StationProfileRequest) : Handler HostedStationProfile := do
  let input ← parseJson body
  let auth ← requireLogbookRole context input.logbookId .admin
  let profile ← ofExcept (stationProfileFromRequest context drawn input)
  let profile := { profile with accountId := some (UuidCrate.display auth.session.accountId) }
  let hosted ← insertStation
    { accountId := auth.session.accountId, logbookId := input.logbookId,
      isDefault := input.active.getD false, profile := profile }
  persistMetadata context
  return hosted

def patchStationProfile (context : RequestContext) (profileId : String)
    (body : Except String StationProfileRequest) : Handler HostedStationProfile := do
  let profileId ← parseUuid profileId
  let input ← parseJson body
  let auth ← requireLogbookRole context input.logbookId .admin
  let state ← get
  let existing ← orReject .notFound <| (state.stationProfiles.lookup profileId).filter
    fun hosted => hosted.accountId = auth.session.accountId ∧ hosted.logbookId = input.logbookId
  ofExcept (validateStationPatch input existing)
  if input.active = some true then
    clearDefaults input.logbookId
  let hosted ← modifyStation auth.session.accountId input.logbookId profileId
    (applyStationPatch context.now input) fun _ => rfl
  persistMetadata context
  return hosted

def archiveStationProfile (context : RequestContext) (profileId : String)
    (body : Except String Uuid) : Handler HostedStationProfile := do
  let profileId ← parseUuid profileId
  let logbookId ← parseJson body
  let auth ← requireLogbookRole context logbookId .admin
  let hosted ← modifyStation auth.session.accountId logbookId profileId
    (fun hosted =>
      let archived := hosted.setDefault false
      { archived with profile := { archived.profile with updatedAt := context.now } })
    fun _ => rfl
  persistMetadata context
  return hosted

/-- The profiles of the logbook, with the given one as the default. -/
def makeDefault (context : RequestContext) (logbookId profileId : Uuid) : Handler Unit :=
  modify fun state =>
    { state with
      stationProfiles := state.stationProfiles.mapValues
        (fun hosted =>
          if hosted.logbookId = logbookId then
            let changed := hosted.setDefault (hosted.profile.stationProfileId = profileId)
            { changed with profile := { changed.profile with updatedAt := context.now } }
          else hosted)
        fun hosted => by split <;> rfl }

def setDefaultStationProfile (context : RequestContext) (profileId : String)
    (body : Except String Uuid) : Handler HostedStationProfile := do
  let profileId ← parseUuid profileId
  let logbookId ← parseJson body
  let auth ← requireLogbookRole context logbookId .admin
  let state ← get
  let known := state.stationProfiles.values.any fun hosted =>
    hosted.profile.stationProfileId = profileId ∧ hosted.accountId = auth.session.accountId ∧
      hosted.logbookId = logbookId
  if !known then
    reject .notFound
  makeDefault context logbookId profileId
  let state ← get
  let hosted ← orReject .notFound (state.stationProfiles.lookup profileId)
  persistMetadata context
  return hosted

/-! Equipment. -/

def equipmentFromRequest (context : RequestContext) (drawn : Uuid)
    (input : EquipmentProfileRequest) : Except ApiError EquipmentItem := do
  let some equipmentType := input.equipmentType
    | throw (.badRequest "equipment_type is required")
  let some displayName := nonBlankText input.displayName
    | throw (.badRequest "display_name is required")
  return { equipmentId := drawn, accountId := none, equipmentType := equipmentType,
           displayName := displayName, manufacturer := input.manufacturer, model := input.model,
           serialNumber := input.serialNumber, capabilities := input.capabilities,
           notes := input.notes, status := input.status.getD .active,
           createdAt := context.now, updatedAt := context.now }

def applyEquipmentPatch (now : DateTime) (input : EquipmentProfileRequest)
    (hosted : HostedEquipmentProfile) : HostedEquipmentProfile :=
  let equipment := hosted.equipment
  { hosted with
    stationProfileId := input.stationProfileId.or hosted.stationProfileId
    equipment := { equipment with
      equipmentType := input.equipmentType.getD equipment.equipmentType
      displayName := input.displayName.getD equipment.displayName
      manufacturer := input.manufacturer.or equipment.manufacturer
      model := input.model.or equipment.model
      serialNumber := input.serialNumber.or equipment.serialNumber
      capabilities := if input.capabilities = [] then equipment.capabilities
        else input.capabilities
      notes := input.notes.or equipment.notes
      status := input.status.getD equipment.status
      updatedAt := now } }

/-- The profile that equipment names is one of its account and its logbook. -/
def stationAssigned (state : ServerState) (equipment : HostedEquipmentProfile) : Bool :=
  equipment.stationProfileId.all fun stationProfileId =>
    state.stationProfiles.values.any fun hosted =>
      hosted.accountId = equipment.accountId ∧ hosted.logbookId = equipment.logbookId ∧
        hosted.profile.stationProfileId = stationProfileId

def validateStationAssignment (equipment : HostedEquipmentProfile) : Handler Unit := do
  let state ← get
  if !stationAssigned state equipment then
    reject (.badRequest "station_profile_id is not in this logbook")

def createEquipment (context : RequestContext) (drawn : Uuid)
    (body : Except String EquipmentProfileRequest) : Handler HostedEquipmentProfile := do
  let input ← parseJson body
  let auth ← requireLogbookRole context input.logbookId .admin
  let equipment ← ofExcept (equipmentFromRequest context drawn input)
  let hosted : HostedEquipmentProfile :=
    { accountId := auth.session.accountId, logbookId := input.logbookId,
      equipment := { equipment with
        accountId := some (UuidCrate.display auth.session.accountId) },
      stationProfileId := input.stationProfileId }
  validateStationAssignment hosted
  modify fun state => { state with equipmentProfiles := state.equipmentProfiles.insert hosted }
  persistMetadata context
  return hosted

/-- Equipment of the account and the logbook. -/
def ownEquipment (accountId logbookId equipmentId : Uuid) : Handler HostedEquipmentProfile := do
  let state ← get
  orReject .notFound <| (state.equipmentProfiles.lookup equipmentId).filter fun equipment =>
    equipment.accountId = accountId ∧ equipment.logbookId = logbookId

def patchEquipment (context : RequestContext) (equipmentId : String)
    (body : Except String EquipmentProfileRequest) : Handler HostedEquipmentProfile := do
  let equipmentId ← parseUuid equipmentId
  let input ← parseJson body
  let auth ← requireLogbookRole context input.logbookId .admin
  let equipment ← ownEquipment auth.session.accountId input.logbookId equipmentId
  let updated := applyEquipmentPatch context.now input equipment
  validateStationAssignment updated
  modify fun state => { state with equipmentProfiles := state.equipmentProfiles.insert updated }
  persistMetadata context
  return updated

def archiveEquipment (context : RequestContext) (equipmentId : String)
    (body : Except String Uuid) : Handler HostedEquipmentProfile := do
  let equipmentId ← parseUuid equipmentId
  let logbookId ← parseJson body
  let auth ← requireLogbookRole context logbookId .admin
  let equipment ← ownEquipment auth.session.accountId logbookId equipmentId
  let retired : HostedEquipmentProfile := { equipment with
    equipment := { equipment.equipment with status := .retired, updatedAt := context.now } }
  modify fun state => { state with equipmentProfiles := state.equipmentProfiles.insert retired }
  persistMetadata context
  return retired

end HostedServer
end HamLogger
