import HamLogger.Library.Credential
import HamLogger.Server.AccountHandlers

/-! What the requests of the hosted server do to its sessions and its devices,
whatever they answer. -/
namespace HamLogger

open Program

/-- A session is a credential of its account and its device. -/
def LoginSession.credential (session : LoginSession) : Credential (Uuid × Uuid) String where
  scope := (session.accountId, session.deviceId)
  secret := session.refreshTokenHash
  active := session.active

/-- The same device later. It may have been revoked, for good. -/
structure DeviceIdentity.Continues (old later : DeviceIdentity) : Prop where
  account : later.accountId = old.accountId
  revoked : old.revoked = true → later.revoked = true

/-- The part of the state that sessions depend on. -/
structure SessionTables where
  accounts : Catalog UserAccount.accountId
  sessions : Catalog LoginSession.tokenHash
  devices : Catalog DeviceIdentity.deviceId

def ServerState.sessionTables [UuidCrate] (state : ServerState) : SessionTables where
  accounts := state.accounts
  sessions := state.sessionsByToken
  devices := state.devices

namespace SessionTables

def credentials (tables : SessionTables) (tokenHash : String) :
    Option (Credential (Uuid × Uuid) String) :=
  (tables.sessions.lookup tokenHash).map LoginSession.credential

/-- The device can go on with a session of the account. -/
def Usable (tables : SessionTables) (accountId deviceId : Uuid) : Prop :=
  ∃ device, tables.devices.lookup deviceId = some device ∧ device.accountId = accountId ∧
    device.revoked = false

/-- No session is issued, and no device but the drawn one is registered. -/
structure Settles (drawn : Uuid) (before later : SessionTables) : Prop where
  sessions : ∀ tokenHash old, before.credentials tokenHash = some old →
    ∃ new, later.credentials tokenHash = some new ∧ old.Continues new
  noSession : ∀ tokenHash, before.credentials tokenHash = none → later.credentials tokenHash = none
  devices : ∀ deviceId old, before.devices.lookup deviceId = some old →
    ∃ new, later.devices.lookup deviceId = some new ∧ old.Continues new
  noDevice : ∀ deviceId, deviceId ≠ drawn → before.devices.lookup deviceId = none →
    later.devices.lookup deviceId = none

section Settles
variable {drawn : Uuid} {before middle later : SessionTables}

theorem Settles.of_same (hSessions : later.sessions = before.sessions)
    (hDevices : later.devices = before.devices) : before.Settles drawn later := by
  have hCredentials : later.credentials = before.credentials := by
    unfold credentials
    rw [hSessions]
  constructor
  · intro tokenHash old hOld
    rw [hCredentials]
    exact ⟨old, hOld, Credential.Continues.refl old⟩
  · intro tokenHash hNone
    rw [hCredentials]
    exact hNone
  · intro deviceId old hOld
    rw [hDevices]
    exact ⟨old, hOld, rfl, id⟩
  · intro deviceId _ hNone
    rw [hDevices]
    exact hNone

theorem Settles.refl (drawn : Uuid) (tables : SessionTables) : tables.Settles drawn tables :=
  Settles.of_same rfl rfl

theorem Settles.trans (h : before.Settles drawn middle) (hNext : middle.Settles drawn later) :
    before.Settles drawn later := by
  constructor
  · intro tokenHash old hOld
    obtain ⟨between, hBetween, hContinues⟩ := h.sessions tokenHash old hOld
    obtain ⟨new, hNew, hLast⟩ := hNext.sessions tokenHash between hBetween
    exact ⟨new, hNew, hContinues.trans hLast⟩
  · intro tokenHash hNone
    exact hNext.noSession tokenHash (h.noSession tokenHash hNone)
  · intro deviceId old hOld
    obtain ⟨between, hBetween, hContinues⟩ := h.devices deviceId old hOld
    obtain ⟨new, hNew, hLast⟩ := hNext.devices deviceId between hBetween
    exact ⟨new, hNew, hLast.account.trans hContinues.account,
      fun hRevoked => hLast.revoked (hContinues.revoked hRevoked)⟩
  · intro deviceId hDrawn hNone
    exact hNext.noDevice deviceId hDrawn (h.noDevice deviceId hDrawn hNone)

/-- The drawn device is registered. -/
theorem Settles.register {device : DeviceIdentity} (hDrawn : device.deviceId = drawn)
    (hNew : before.devices.lookup drawn = none) (hSessions : later.sessions = before.sessions)
    (hDevices : later.devices = before.devices.insert device) : before.Settles drawn later := by
  have hSame : before.Settles drawn { before with sessions := later.sessions } :=
    Settles.of_same hSessions rfl
  constructor
  · exact hSame.sessions
  · exact hSame.noSession
  · intro deviceId old hOld
    have hOther : deviceId ≠ device.deviceId := by
      intro hDevice
      rw [hDevice, hDrawn, hNew] at hOld
      cases hOld
    rw [hDevices, Catalog.lookup_insert, if_neg hOther]
    exact ⟨old, hOld, rfl, id⟩
  · intro deviceId hOther hNone
    rw [hDevices, Catalog.lookup_insert, if_neg (by rw [hDrawn]; exact hOther)]
    exact hNone

/-- Sessions end, and devices are revoked. -/
theorem Settles.of_mapValues {endsSession : LoginSession → LoginSession}
    {revokes : DeviceIdentity → DeviceIdentity} {hSessionKey hDeviceKey}
    (hSession : ∀ session : LoginSession,
      session.credential.Continues (endsSession session).credential)
    (hDevice : ∀ device : DeviceIdentity, device.Continues (revokes device))
    (hSessions : later.sessions = before.sessions.mapValues endsSession hSessionKey)
    (hDevices : later.devices = before.devices.mapValues revokes hDeviceKey) :
    before.Settles drawn later := by
  constructor
  · intro tokenHash old hOld
    unfold credentials at hOld ⊢
    obtain ⟨session, hLookup, rfl⟩ := Option.map_eq_some_iff.mp hOld
    rw [hSessions, Catalog.lookup_mapValues, hLookup]
    exact ⟨_, rfl, hSession session⟩
  · intro tokenHash hNone
    unfold credentials at hNone ⊢
    rw [hSessions, Catalog.lookup_mapValues, Option.map_eq_none_iff.mp hNone]
    rfl
  · intro deviceId old hOld
    rw [hDevices, Catalog.lookup_mapValues, hOld]
    exact ⟨_, rfl, hDevice old⟩
  · intro deviceId _ hNone
    rw [hDevices, Catalog.lookup_mapValues, hNone]
    rfl

/-- One session is put back after it may have ended. -/
theorem Settles.putBack {stored put : LoginSession} (hStored : before.sessions.lookup
      put.tokenHash = some stored) (hContinues : stored.credential.Continues put.credential)
    (hSessions : later.sessions = before.sessions.insert put)
    (hDevices : later.devices = before.devices) : before.Settles drawn later := by
  have hSame : before.Settles drawn { before with devices := later.devices } :=
    Settles.of_same rfl hDevices
  constructor
  · intro tokenHash old hOld
    unfold credentials at hOld ⊢
    rw [hSessions, Catalog.lookup_insert]
    split
    · next hKey =>
        rw [hKey, hStored] at hOld
        obtain rfl := Option.some.inj hOld
        exact ⟨_, rfl, hContinues⟩
    · exact ⟨old, hOld, Credential.Continues.refl old⟩
  · intro tokenHash hNone
    unfold credentials at hNone ⊢
    rw [hSessions, Catalog.lookup_insert]
    split
    · next hKey =>
        rw [hKey, hStored] at hNone
        cases hNone
    · exact hNone
  · exact hSame.devices
  · exact hSame.noDevice

end Settles
end SessionTables
end HamLogger
