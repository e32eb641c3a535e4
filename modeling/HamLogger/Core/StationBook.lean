import HamLogger.Core.Json
import HamLogger.Core.Basic
import HamLogger.Library.UpdateFirst

/-! The station book of a client: its profiles and configurations, which of
them are active, and what the active ones fill in for a contact. -/
namespace HamLogger.Station

inductive StationStoreError where
  | profileNotFound (id : Uuid)
  deriving DecidableEq

structure StationProfile where
  stationProfileId : Uuid
  stationCallsign : String
  operatorCallsign : Option String := none
  defaultGrid : Option String := none
  defaultQth : Option String := none
  defaultPowerWatts : Option UInt32 := none
  active : Bool := false
  createdAt : DateTime
  updatedAt : DateTime
  deriving DecidableEq

structure StationConfiguration where
  configurationId : Uuid
  stationProfileId : Uuid
  radioId : Option Uuid := none
  antennaId : Option Uuid := none
  amplifierId : Option Uuid := none
  defaultPowerWatts : Option UInt32 := none
  deriving DecidableEq

structure StationBook where
  profiles : List StationProfile := []
  configurations : List StationConfiguration := []
  activeProfileId : Option Uuid := none
  activeConfigurationId : Option Uuid := none
  deriving DecidableEq

/-- `json!` of an identifier. -/
def jsonUuid [UuidCrate] (id : Uuid) : Value := .string (UuidCrate.display id)

/-- `json!` of an optional identifier. -/
def jsonOptionUuid [UuidCrate] (id : Option Uuid) : Value :=
  (id.map jsonUuid).getD .null

/-- `json!` of a number of 32 bits. -/
def jsonU32 (value : UInt32) : Value := .number (.posInt value.toUInt64)

def ensureObject (payload : Value) : Fields := payload.asObject.getD []

def insertIfMissing (fields : Fields) (key : String) (value : Value) : Fields :=
  match fields.get key with
  | none | some .null => fields.insert key value
  | some _ => fields

def insertIfEmpty (fields : Fields) (key : String) (value : Value) : Fields :=
  if trim (((fields.get key).bind Value.asStr).getD "") = "" then fields.insert key value
  else fields

namespace StationBook

def setAllProfilesInactive (book : StationBook) : StationBook :=
  { book with profiles := book.profiles.map fun profile => { profile with active := false } }

def createProfile (book : StationBook) (profile : StationProfile) (now : DateTime) :
    StationBook × StationProfile :=
  let profile := { profile with updatedAt := now }
  if book.profiles.isEmpty || profile.active then
    let book := book.setAllProfilesInactive
    let profile := { profile with active := true }
    ({ book with
       activeProfileId := some profile.stationProfileId
       profiles := book.profiles ++ [profile] }, profile)
  else ({ book with profiles := book.profiles ++ [profile] }, profile)

def selectProfile (book : StationBook) (profileId : Uuid) (now : DateTime) :
    Except StationStoreError StationBook :=
  if book.profiles.any fun profile => profile.stationProfileId = profileId then
    let book := book.setAllProfilesInactive
    .ok { book with
      profiles := updateFirst (fun profile => profile.stationProfileId = profileId)
        (fun profile => { profile with active := true, updatedAt := now }) book.profiles
      activeProfileId := some profileId
      activeConfigurationId := (book.configurations.find? fun config =>
        config.stationProfileId = profileId).map StationConfiguration.configurationId }
  else .error (.profileNotFound profileId)

/-- The profile of a book under an identifier is replaced, and selected where
the new one is active. -/
def updateProfile (book : StationBook) (profileId : Uuid) (update : StationProfile)
    (now : DateTime) : StationBook × Except StationStoreError StationProfile :=
  match book.profiles.find? fun profile => profile.stationProfileId = profileId with
  | none => (book, .error (.profileNotFound profileId))
  | some existing =>
      let update := { update with
        stationProfileId := profileId, createdAt := existing.createdAt, updatedAt := now }
      let book := { book with
        profiles := updateFirst (fun profile => profile.stationProfileId = profileId)
          (fun _ => update) book.profiles }
      if update.active then
        match book.selectProfile profileId now with
        | .error error => (book, .error error)
        | .ok book => (book, .ok update)
      else (book, .ok update)

def createConfiguration (book : StationBook) (config : StationConfiguration) :
    Except StationStoreError StationBook :=
  if book.profiles.any fun profile => profile.stationProfileId = config.stationProfileId then
    .ok { book with configurations := book.configurations ++ [config] }
  else .error (.profileNotFound config.stationProfileId)

def selectConfiguration (book : StationBook) (configurationId : Uuid) (now : DateTime) :
    Except StationStoreError StationBook :=
  match book.configurations.find? fun config => config.configurationId = configurationId with
  | none => .error (.profileNotFound configurationId)
  | some config => do
      let book ← book.selectProfile config.stationProfileId now
      return { book with activeConfigurationId := some configurationId }

def activeProfile (book : StationBook) : Option StationProfile :=
  book.activeProfileId.bind fun id =>
    book.profiles.find? fun profile => profile.stationProfileId = id

def activeConfiguration (book : StationBook) : Option StationConfiguration :=
  book.activeConfigurationId.bind fun id =>
    book.configurations.find? fun config => config.configurationId = id

variable [UuidCrate]

/-- What the active profile fills in. -/
def profileDefaults (profile : StationProfile) (fields : Fields) : Fields :=
  let fields := insertIfMissing fields "station_profile_id" (jsonUuid profile.stationProfileId)
  let fields := insertIfEmpty fields "station_callsign" (.string profile.stationCallsign)
  let fields := (profile.operatorCallsign.map fun operator =>
    insertIfEmpty fields "operator_callsign" (.string operator)).getD fields
  let fields := (profile.defaultGrid.map fun grid =>
    insertIfEmpty fields "grid" (.string grid)).getD fields
  let fields := (profile.defaultQth.map fun qth =>
    insertIfEmpty fields "qth" (.string qth)).getD fields
  (profile.defaultPowerWatts.map fun power =>
    insertIfMissing fields "power_watts" (jsonU32 power)).getD fields

/-- What the active configuration fills in. -/
def configurationDefaults (config : StationConfiguration) (fields : Fields) : Fields :=
  let fields :=
    insertIfMissing fields "station_configuration_id" (jsonUuid config.configurationId)
  let fields := insertIfMissing fields "radio_id" (jsonOptionUuid config.radioId)
  let fields := insertIfMissing fields "antenna_id" (jsonOptionUuid config.antennaId)
  let fields := insertIfMissing fields "amplifier_id" (jsonOptionUuid config.amplifierId)
  (config.defaultPowerWatts.map fun power =>
    insertIfMissing fields "power_watts" (jsonU32 power)).getD fields

def applyDefaultsToQsoPayload (book : StationBook) (payload : Value) : Value :=
  match book.activeProfile with
  | none => payload
  | some profile =>
      let fields := profileDefaults profile (ensureObject payload)
      .object (match book.activeConfiguration with
        | none => fields
        | some config => configurationDefaults config fields)

end StationBook
end HamLogger.Station
