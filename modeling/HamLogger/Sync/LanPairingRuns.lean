import HamLogger.Sync.LanPairing
import HamLogger.Sync.TrustRuns

/-! Runs of the handlers that pair LAN peers: which credentials the trusted
devices refer to, and what a request that fails leaves. -/
namespace HamLogger

open FileReplace (Cut Disk)
open JsonLanTrustStore (LanCall)
open Program
open Transition (Run System)

/-- A device that is not revoked refers to a credential. -/
def TrustedPeerDevice.RefersTo (device : TrustedPeerDevice) (credentialId : Uuid) : Prop :=
  device.revokedAt = none ∧ device.authCredentialId = some credentialId

/-- An active credential for LAN authentication. -/
def OsCredentialStore.ActiveLan (store : OsCredentialStore) (credentialId : Uuid) : Prop :=
  ∃ metadata, store.records.lookup credentialId = some metadata ∧
    metadata.providerId = lanSyncPeerProvider ∧ metadata.status = .active

/-- Every credential but the spare ones belongs to one device, and every device
has its own. -/
structure Accounted (file : LanTrustFile) (store : OsCredentialStore) (spare : List Uuid) :
    Prop where
  nodup : (file.trustedDevices.map TrustedPeerDevice.deviceId).Nodup
  owned : ∀ credentialId, store.ActiveLan credentialId → credentialId ∉ spare →
    ∃! device, device ∈ file.trustedDevices ∧ device.RefersTo credentialId
  stored : ∀ device ∈ file.trustedDevices, ∀ credentialId, device.RefersTo credentialId →
    store.ActiveLan credentialId ∧ (store.secrets.lookup credentialId).isSome = true
  ended : ∀ device ∈ file.trustedDevices, device.revokedAt ≠ none → ∀ credentialId,
    device.authCredentialId = some credentialId → credentialId ∉ spare →
      ¬ store.ActiveLan credentialId

/-- The devices of the next file: one of them is new, or takes the place of the
one with its identifier. -/
structure Puts (file next : LanTrustFile) (new : TrustedPeerDevice) : Prop where
  nodup : (next.trustedDevices.map TrustedPeerDevice.deviceId).Nodup
  mem : ∀ device, device ∈ next.trustedDevices ↔
    device = new ∨ (device ∈ file.trustedDevices ∧ device.deviceId ≠ new.deviceId)

theorem puts_setDevice {file next : LanTrustFile}
    (hNodup : (file.trustedDevices.map TrustedPeerDevice.deviceId).Nodup) {deviceId : Uuid}
    {old new : TrustedPeerDevice} (hFound : file.findDevice deviceId = some old)
    (hNew : new.deviceId = deviceId)
    (hNext : next.trustedDevices = (file.setDevice deviceId new).trustedDevices) :
    Puts file next new := by
  have hOld := LanTrustFile.deviceId_of_findDevice hFound
  have hMem := List.mem_of_find?_eq_some hFound
  rw [LanTrustFile.setDevice] at hNext
  refine ⟨?_, fun device => ?_⟩
  · rw [hNext, map_updateFirst]
    · exact hNodup
    · intro found hOther
      obtain rfl := Option.some.inj (hFound.symm.trans hOther)
      exact hNew.trans hOld.symm
  · rw [hNext, hNew]
    exact mem_updateFirst_of_nodup hNodup hMem hOld

theorem puts_upsertTrustedDevice {file next : LanTrustFile}
    (hNodup : (file.trustedDevices.map TrustedPeerDevice.deviceId).Nodup)
    {new : TrustedPeerDevice}
    (hNext : next.trustedDevices = (file.upsertTrustedDevice new).trustedDevices) :
    Puts file next new := by
  unfold LanTrustFile.upsertTrustedDevice at hNext
  split at hNext
  · rename_i hKnown
    obtain ⟨existing, hMem, hSame⟩ := List.any_eq_true.mp hKnown
    have hKey : existing.deviceId = new.deviceId := of_decide_eq_true hSame
    refine ⟨?_, fun device => ?_⟩
    · rw [hNext, map_updateFirst]
      · exact hNodup
      · intro found hFound
        have hFoundKey := List.find?_some hFound
        exact (of_decide_eq_true hFoundKey).symm
    · rw [hNext]
      exact mem_updateFirst_of_nodup hNodup hMem hKey
  · rename_i hUnknown
    have hApart : ∀ device ∈ file.trustedDevices, device.deviceId ≠ new.deviceId := by
      intro device hMem hSame
      exact hUnknown (List.any_eq_true.mpr ⟨device, hMem, decide_eq_true hSame⟩)
    refine ⟨?_, fun device => ?_⟩
    · rw [hNext, List.map_append, List.nodup_append]
      refine ⟨hNodup, List.nodup_singleton _, ?_⟩
      intro left hLeft right hRight
      obtain ⟨device, hMem, rfl⟩ := List.mem_map.mp hLeft
      rw [List.map_singleton, List.mem_singleton] at hRight
      rw [hRight]
      exact hApart device hMem
    · rw [hNext, List.mem_append, List.mem_singleton]
      constructor
      · intro hMem
        rcases hMem with hOld | hNew
        · exact Or.inr ⟨hOld, hApart device hOld⟩
        · exact Or.inl hNew
      · intro hMem
        rcases hMem with hNew | ⟨hOld, _⟩
        · exact Or.inr hNew
        · exact Or.inl hOld

/-- What a new device has to bring along, so that all credentials are accounted
for. -/
theorem Accounted.puts {file next : LanTrustFile} {store : OsCredentialStore}
    {spare left : List Uuid} (h : Accounted file store spare) {new : TrustedPeerDevice}
    (hPuts : Puts file next new)
    (hNew : ∀ credentialId, new.RefersTo credentialId → store.ActiveLan credentialId ∧
      (store.secrets.lookup credentialId).isSome = true ∧
        ∀ other ∈ file.trustedDevices, other.deviceId ≠ new.deviceId →
          ¬ other.RefersTo credentialId)
    (hEnded : new.revokedAt ≠ none → ∀ credentialId, new.authCredentialId = some credentialId →
      credentialId ∉ left → ¬ store.ActiveLan credentialId)
    (hOwned : ∀ credentialId, store.ActiveLan credentialId → credentialId ∉ left →
      new.RefersTo credentialId ∨ (credentialId ∉ spare ∧
        ∀ old ∈ file.trustedDevices, old.deviceId = new.deviceId → ¬ old.RefersTo credentialId))
    (hSpare : ∀ credentialId ∈ spare, credentialId ∉ left → ∀ device ∈ file.trustedDevices,
      device.authCredentialId ≠ some credentialId) :
    Accounted next store left := by
  refine ⟨hPuts.nodup, ?_, ?_, ?_⟩
  · intro credentialId hActive hLeft
    rcases hOwned credentialId hActive hLeft with hRefers | ⟨hNotSpare, hReplaced⟩
    · refine ⟨new, ⟨(hPuts.mem new).mpr (Or.inl rfl), hRefers⟩, ?_⟩
      intro other hOther
      rcases (hPuts.mem other).mp hOther.1 with rfl | ⟨hMem, hApart⟩
      · rfl
      · exact absurd hOther.2 ((hNew credentialId hRefers).2.2 other hMem hApart)
    · obtain ⟨owner, hOwner, hUnique⟩ := h.owned credentialId hActive hNotSpare
      have hApart : owner.deviceId ≠ new.deviceId :=
        fun hSame => hReplaced owner hOwner.1 hSame hOwner.2
      refine ⟨owner, ⟨(hPuts.mem owner).mpr (Or.inr ⟨hOwner.1, hApart⟩), hOwner.2⟩, ?_⟩
      intro other hOther
      rcases (hPuts.mem other).mp hOther.1 with rfl | ⟨hMem, _⟩
      · exact absurd hOwner.2 ((hNew credentialId hOther.2).2.2 owner hOwner.1 hApart)
      · exact hUnique other ⟨hMem, hOther.2⟩
  · intro device hMem credentialId hRefers
    rcases (hPuts.mem device).mp hMem with rfl | ⟨hOld, _⟩
    · exact ⟨(hNew credentialId hRefers).1, (hNew credentialId hRefers).2.1⟩
    · exact h.stored device hOld credentialId hRefers
  · intro device hMem hRevoked credentialId hCredential hLeft
    rcases (hPuts.mem device).mp hMem with rfl | ⟨hOld, _⟩
    · exact hEnded hRevoked credentialId hCredential hLeft
    · by_cases hIn : credentialId ∈ spare
      · exact absurd hCredential (hSpare credentialId hIn hLeft device hOld)
      · exact h.ended device hOld hRevoked credentialId hCredential hIn

theorem Accounted.eq_of_refersTo {file : LanTrustFile} {store : OsCredentialStore}
    {spare : List Uuid} (h : Accounted file store spare) {first second : TrustedPeerDevice}
    (hFirst : first ∈ file.trustedDevices) (hSecond : second ∈ file.trustedDevices)
    {credentialId : Uuid} (hRefers : first.RefersTo credentialId)
    (hAlso : second.RefersTo credentialId) (hSpare : credentialId ∉ spare) : first = second := by
  obtain ⟨owner, _, hUnique⟩ := h.owned credentialId (h.stored first hFirst credentialId hRefers).1
    hSpare
  rw [hUnique first ⟨hFirst, hRefers⟩, hUnique second ⟨hSecond, hAlso⟩]

theorem Accounted.eq_of_deviceId {file : LanTrustFile} {store : OsCredentialStore}
    {spare : List Uuid} (h : Accounted file store spare) {first second : TrustedPeerDevice}
    (hFirst : first ∈ file.trustedDevices) (hSecond : second ∈ file.trustedDevices)
    (hSame : first.deviceId = second.deviceId) : first = second :=
  List.inj_on_of_nodup_map h.nodup hFirst hSecond hSame

/-- A change of a device that keeps its state and its credential. -/
theorem Accounted.touched {file next : LanTrustFile} {store : OsCredentialStore}
    (h : Accounted file store []) {old new : TrustedPeerDevice}
    (hOld : old ∈ file.trustedDevices) (hId : new.deviceId = old.deviceId)
    (hRevoked : new.revokedAt = old.revokedAt)
    (hCredential : new.authCredentialId = old.authCredentialId) (hPuts : Puts file next new) :
    Accounted next store [] := by
  have hRefers : ∀ credentialId, new.RefersTo credentialId ↔ old.RefersTo credentialId := by
    intro credentialId
    rw [TrustedPeerDevice.RefersTo, TrustedPeerDevice.RefersTo, hRevoked, hCredential]
  refine h.puts hPuts ?_ ?_ ?_ (fun _ hIn => by cases hIn)
  · intro credentialId hNew
    have hOldRefers := (hRefers credentialId).mp hNew
    obtain ⟨hActive, hSecret⟩ := h.stored old hOld credentialId hOldRefers
    refine ⟨hActive, hSecret, fun other hOther hApart hAlso => hApart ?_⟩
    rw [h.eq_of_refersTo hOther hOld hAlso hOldRefers List.not_mem_nil, hId]
  · intro hIs credentialId hSome hLeft
    rw [hRevoked] at hIs
    rw [hCredential] at hSome
    exact h.ended old hOld hIs credentialId hSome hLeft
  · intro credentialId hActive hLeft
    by_cases hOldRefers : old.RefersTo credentialId
    · exact Or.inl ((hRefers credentialId).mpr hOldRefers)
    · refine Or.inr ⟨hLeft, fun other hOther hSame hAlso => hOldRefers ?_⟩
      rw [← h.eq_of_deviceId hOther hOld (hSame.trans hId)]
      exact hAlso

/-- An identifier that neither the credential store nor the trust file knows. -/
structure Fresh (file : LanTrustFile) (store : OsCredentialStore) (credentialId : Uuid) : Prop where
  record : store.records.lookup credentialId = none
  device : ∀ device ∈ file.trustedDevices, device.authCredentialId ≠ some credentialId

/-- The stores that agree on all credentials but one. -/
structure AgreesBut (credentialId : Uuid) (store later : OsCredentialStore) : Prop where
  records : ∀ other ≠ credentialId, later.records.lookup other = store.records.lookup other
  secrets : ∀ other ≠ credentialId, later.secrets.lookup other = store.secrets.lookup other

theorem AgreesBut.activeLan_iff {credentialId : Uuid} {store later : OsCredentialStore}
    (h : AgreesBut credentialId store later) {other : Uuid} (hOther : other ≠ credentialId) :
    later.ActiveLan other ↔ store.ActiveLan other := by
  unfold OsCredentialStore.ActiveLan
  rw [h.records other hOther]

theorem AgreesBut.trans {credentialId : Uuid} {first second third : OsCredentialStore}
    (h : AgreesBut credentialId first second) (hNext : AgreesBut credentialId second third) :
    AgreesBut credentialId first third where
  records other hOther := (hNext.records other hOther).trans (h.records other hOther)
  secrets other hOther := (hNext.secrets other hOther).trans (h.secrets other hOther)

theorem agreesBut_storeCredential (store : OsCredentialStore) (credentialId : Uuid)
    (metadata : CredentialMetadata) (secret : String) :
    AgreesBut credentialId store (store.storeCredential credentialId metadata secret) where
  records _ hOther := AList.lookup_insert_ne hOther
  secrets _ hOther := AList.lookup_insert_ne hOther

theorem agreesBut_deleteCredential (store : OsCredentialStore) (credentialId : Uuid)
    (secretKept : Bool) :
    AgreesBut credentialId store (store.deleteCredential credentialId secretKept) := by
  unfold OsCredentialStore.deleteCredential
  split
  · exact ⟨fun _ _ => rfl, fun _ _ => rfl⟩
  · refine ⟨fun other hOther => AList.lookup_erase_ne hOther, fun other hOther => ?_⟩
    dsimp only
    split
    · rfl
    · exact AList.lookup_erase_ne hOther

theorem lookup_deleteCredential (store : OsCredentialStore) (credentialId : Uuid)
    (secretKept : Bool) :
    (store.deleteCredential credentialId secretKept).records.lookup credentialId = none := by
  unfold OsCredentialStore.deleteCredential
  split
  · rename_i hNone
    exact Option.isNone_iff_eq_none.mp hNone
  · exact AList.lookup_erase _ _

/-- A change of one credential that no device refers to. -/
theorem Accounted.agreesBut {file : LanTrustFile} {store later : OsCredentialStore}
    {spare left : List Uuid} (h : Accounted file store spare) {credentialId : Uuid}
    (hAgrees : AgreesBut credentialId store later)
    (hSpare : ∀ other ≠ credentialId, other ∉ left → other ∉ spare)
    (hActive : credentialId ∈ left ∨ ¬ later.ActiveLan credentialId)
    (hUnused : ∀ device ∈ file.trustedDevices, ¬ device.RefersTo credentialId) :
    Accounted file later left := by
  have hOther : ∀ other, later.ActiveLan other → other ∉ left → other ≠ credentialId := by
    intro other hIs hLeft hSame
    rcases hActive with hIn | hNot
    · exact hLeft (hSame ▸ hIn)
    · exact hNot (hSame ▸ hIs)
  refine ⟨h.nodup, ?_, ?_, ?_⟩
  · intro other hIs hLeft
    have hApart := hOther other hIs hLeft
    exact h.owned other ((hAgrees.activeLan_iff hApart).mp hIs) (hSpare other hApart hLeft)
  · intro device hMem other hRefers
    have hApart : other ≠ credentialId := by
      intro hSame
      exact hUnused device hMem (hSame ▸ hRefers)
    rw [hAgrees.activeLan_iff hApart, hAgrees.secrets other hApart]
    exact h.stored device hMem other hRefers
  · intro device hMem hRevoked other hCredential hLeft hIs
    have hApart := hOther other hIs hLeft
    exact h.ended device hMem hRevoked other hCredential (hSpare other hApart hLeft)
      ((hAgrees.activeLan_iff hApart).mp hIs)

/-! What the calls of the trust store do to the devices. -/

section Writes
variable [UuidCrate] [Sha2Crate] {file next : LanTrustFile} {now : DateTime} {reply : TrustReply}

theorem devices_of_accept {request : LanPairingAcceptance}
    (h : TrustCall.written file now (.accept request) = .ok (reply, next)) :
    ∃ device, next.trustedDevices = (file.upsertTrustedDevice device).trustedDevices ∧
      device.deviceId = request.peerDeviceId ∧ device.revokedAt = none ∧
        device.authCredentialId = request.authCredentialId := by
  obtain ⟨⟨device, saved⟩, hResult, hPair⟩ := (except_map_eq_ok_iff _ _ _).mp h
  cases hPair
  unfold JsonLanTrustStore.acceptPairingToken at hResult
  split at hResult
  · cases hResult
  · split at hResult
    · cases hResult
    · rename_i token hFound
      split_ifs at hResult with hConsumed hExpired hHash hWrong
      dsimp only at hResult
      obtain ⟨_, hNext⟩ := LanTrustFile.saveFile_eq_ok hResult
      have hDevice := LanTrustFile.result_of_saveFile hResult
      refine ⟨device, ?_, ?_, ?_, ?_⟩
      · rw [hNext, hDevice]
        unfold LanTrustFile.upsertTrustedDevice
        split <;> rfl
      · rw [hDevice]
      · rw [hDevice]
      · rw [hDevice]

theorem devices_of_trust {request : LanPeerTrustUpdate}
    (h : TrustCall.written file now (.trust request) = .ok (reply, next)) :
    ∃ device, next.trustedDevices = (file.upsertTrustedDevice device).trustedDevices ∧
      device.deviceId = request.peerDeviceId ∧ device.revokedAt = none ∧
        device.authCredentialId = some request.authCredentialId := by
  obtain ⟨⟨device, saved⟩, hResult, hPair⟩ := (except_map_eq_ok_iff _ _ _).mp h
  cases hPair
  unfold JsonLanTrustStore.trustPeerWithAuthCredential at hResult
  split at hResult
  · cases hResult
  · dsimp only at hResult
    obtain ⟨_, hNext⟩ := LanTrustFile.saveFile_eq_ok hResult
    have hDevice := LanTrustFile.result_of_saveFile hResult
    refine ⟨device, ?_, ?_, ?_, ?_⟩
    · rw [hNext, hDevice]
    · rw [hDevice]
    · rw [hDevice]
    · rw [hDevice]

theorem devices_of_rotate {deviceId logbookId newAuthCredentialId : Uuid}
    (h : TrustCall.written file now (.rotate deviceId logbookId newAuthCredentialId) =
      .ok (reply, next)) :
    ∃ old new, file.findDevice deviceId = some old ∧ old.revokedAt = none ∧
      old.authCredentialId ≠ some newAuthCredentialId ∧ new.deviceId = deviceId ∧
      new.revokedAt = none ∧ new.authCredentialId = some newAuthCredentialId ∧
      reply = .rotation
        { trustedDevice := new, previousAuthCredentialId := old.authCredentialId } ∧
      next.trustedDevices = (file.setDevice deviceId new).trustedDevices := by
  obtain ⟨⟨rotation, saved⟩, hResult, hPair⟩ := (except_map_eq_ok_iff _ _ _).mp h
  cases hPair
  unfold JsonLanTrustStore.rotateAuthCredential at hResult
  split at hResult
  · cases hResult
  · split at hResult
    · cases hResult
    · rename_i old hFound
      split_ifs at hResult with hRevoked hWrong hSame
      dsimp only at hResult
      obtain ⟨_, hNext⟩ := LanTrustFile.saveFile_eq_ok hResult
      have hRotation := LanTrustFile.result_of_saveFile hResult
      have hOpen : old.revokedAt = none := by simpa using hRevoked
      rw [hRotation, hNext]
      have hId := LanTrustFile.deviceId_of_findDevice hFound
      exact ⟨old,
        { old with authCredentialId := some newAuthCredentialId, authRotatedAt := some now },
        hFound, hOpen, hSame, hId, hOpen, rfl, rfl, rfl⟩

theorem devices_of_revoke {deviceId : Uuid}
    (h : TrustCall.written file now (.revoke deviceId) = .ok (reply, next)) :
    ∃ old new, file.findDevice deviceId = some old ∧ new.deviceId = deviceId ∧
      new.revokedAt = some now ∧ new.authCredentialId = old.authCredentialId ∧
      reply = .device new ∧
      next.trustedDevices = (file.setDevice deviceId new).trustedDevices := by
  obtain ⟨⟨device, saved⟩, hResult, hPair⟩ := (except_map_eq_ok_iff _ _ _).mp h
  cases hPair
  unfold JsonLanTrustStore.revokeDevice at hResult
  split at hResult
  · cases hResult
  · split at hResult
    · cases hResult
    · rename_i old hFound
      dsimp only at hResult
      obtain ⟨_, hNext⟩ := LanTrustFile.saveFile_eq_ok hResult
      have hDevice := LanTrustFile.result_of_saveFile hResult
      rw [hDevice, hNext]
      have hId := LanTrustFile.deviceId_of_findDevice hFound
      exact ⟨old, { old with revokedAt := some now }, hFound, hId, rfl, rfl, rfl, rfl⟩

theorem devices_of_issue {issuerDeviceId logbookId tokenId : Uuid}
    {issuerDisplayName pairingCode : String} {approvedByOperator : Bool}
    (h : TrustCall.written file now (.issue issuerDeviceId logbookId issuerDisplayName
      approvedByOperator tokenId pairingCode) = .ok (reply, next)) :
    next.trustedDevices = file.trustedDevices := by
  obtain ⟨result, hResult, hPair⟩ := (except_map_eq_ok_iff _ _ _).mp h
  cases hPair
  unfold JsonLanTrustStore.issuePairingToken at hResult
  split at hResult
  · cases hResult
  · split at hResult
    · cases hResult
    · split at hResult
      · cases hResult
      · obtain ⟨_, hNext⟩ := LanTrustFile.saveFile_eq_ok hResult
        rw [hNext]

theorem devices_of_authorize {deviceId logbookId : Uuid} {replayNonce : String}
    (h : TrustCall.written file now (.authorize deviceId logbookId replayNonce) =
      .ok (reply, next)) :
    ∃ old new, file.findDevice deviceId = some old ∧ new.deviceId = deviceId ∧
      new.revokedAt = old.revokedAt ∧ new.authCredentialId = old.authCredentialId ∧
      next.trustedDevices = (file.setDevice deviceId new).trustedDevices := by
  obtain ⟨result, hResult, hPair⟩ := (except_map_eq_ok_iff _ _ _).mp h
  cases hPair
  unfold JsonLanTrustStore.authorizePeer at hResult
  split at hResult
  · cases hResult
  · dsimp only at hResult
    split at hResult
    · cases hResult
    · split at hResult
      · cases hResult
      · rename_i old hFound
        split_ifs at hResult with hRevoked hWrong
        split at hResult
        · cases hResult
        · obtain ⟨_, hNext⟩ := LanTrustFile.saveFile_eq_ok hResult
          have hKept : file.findDevice deviceId = some old := hFound
          rw [hNext]
          have hId := LanTrustFile.deviceId_of_findDevice hKept
          exact ⟨old, { old with lastSeenAt := some now }, hKept, hId, rfl, rfl, rfl⟩

end Writes

/-! The parts of a handler. -/

/-- All credentials are accounted for. -/
def Sound (world : LanWorld) (file : LanTrustFile) : Prop :=
  readTrustFile (world.trust.contents {}) = .ok file ∧ Accounted file world.credentials []

/-- A device is trusted, and its secret can be retrieved. -/
def Usable (world : LanWorld) (deviceId : Uuid) (secret : String) : Prop :=
  ∃ file device credentialId, readTrustFile (world.trust.contents {}) = .ok file ∧
    file.findDevice deviceId = some device ∧ device.RefersTo credentialId ∧
      world.credentials.retrieveSecret credentialId = some secret

/-- What a request leaves behind: all credentials accounted for, and after a
failure what was usable before. -/
def LanSettled (world later : LanWorld) (outcome : Except LanPairingError TrustReply) : Prop :=
  (∃ file, Sound later file) ∧
    ((∃ error, outcome = .error error) →
      ∀ deviceId secret, Usable world deviceId secret → Usable later deviceId secret)

/-- A request has failed, and at most a new credential has come and gone. -/
structure Undone (credentialId : Uuid) (world later : LanWorld) : Prop where
  file : later.trust.file = world.trust.file
  agrees : AgreesBut credentialId world.credentials later.credentials
  record : later.credentials.records.lookup credentialId = none

theorem Undone.refl {credentialId : Uuid} {world : LanWorld}
    (h : world.credentials.records.lookup credentialId = none) :
    Undone credentialId world world where
  file := rfl
  agrees := ⟨fun _ _ => rfl, fun _ _ => rfl⟩
  record := h

theorem undone_of_same {credentialId : Uuid} {world later : LanWorld}
    (h : world.credentials.records.lookup credentialId = none)
    (hFile : later.trust.file = world.trust.file)
    (hStore : later.credentials = world.credentials) : Undone credentialId world later := by
  refine ⟨hFile, ?_, ?_⟩
  · rw [hStore]
    exact ⟨fun _ _ => rfl, fun _ _ => rfl⟩
  · rw [hStore]
    exact h

theorem Undone.settled {credentialId : Uuid} {world later : LanWorld} {file : LanTrustFile}
    (hSound : Sound world file) (hFresh : Fresh file world.credentials credentialId)
    (h : Undone credentialId world later) (outcome : Except LanPairingError TrustReply) :
    LanSettled world later outcome := by
  have hFile : readTrustFile (later.trust.contents {}) = .ok file := by
    rw [Disk.contents_of_file h.file]
    exact hSound.1
  have hGone : ¬ later.credentials.ActiveLan credentialId := by
    intro hActive
    obtain ⟨metadata, hRecord, _⟩ := hActive
    cases h.record.symm.trans hRecord
  refine ⟨⟨file, hFile, hSound.2.agreesBut h.agrees (fun _ _ _ => List.not_mem_nil)
    (Or.inr hGone) fun device hMem hRefers => hFresh.device device hMem hRefers.2⟩, ?_⟩
  intro _ deviceId secret hUsable
  obtain ⟨shown, device, other, hShown, hFound, hRefers, hSecret⟩ := hUsable
  obtain rfl := Except.ok.inj (hSound.1.symm.trans hShown)
  refine ⟨file, device, other, hFile, hFound, hRefers, ?_⟩
  have hApart : other ≠ credentialId := fun hSame =>
    hFresh.device device (List.mem_of_find?_eq_some hFound) (hSame ▸ hRefers.2)
  rw [← hSecret, OsCredentialStore.retrieveSecret, OsCredentialStore.retrieveSecret,
    h.agrees.records other hApart, h.agrees.secrets other hApart]

/-- A new credential is stored with its secret, or the world stays as it is. -/
theorem storeLanAuthCredential_ensures [UuidCrate] (peerDeviceId : Uuid)
    (peerDisplayName secret : String)
    {env : LanEnv} (hFault : env.storeFault ≠ some .notPersisted) (world : LanWorld) :
    Ensures (storeLanAuthCredential peerDeviceId peerDisplayName secret env) world
      fun later outcome =>
        (∃ error, outcome = .error error ∧ later = world) ∨
        (outcome = .ok env.credentialId ∧ env.storeFault = none ∧ later = { world with
          credentials := world.credentials.storeCredential env.credentialId
            (lanMetadata peerDeviceId peerDisplayName) (trim secret) }) := by
  unfold Ensures storeLanAuthCredential
  rw [execute_ofFunction]
  dsimp only
  split
  · exact Or.inl ⟨_, rfl, rfl⟩
  · cases hStore : env.storeFault with
    | none => exact Or.inr ⟨rfl, rfl, rfl⟩
    | some fault =>
        cases fault with
        | refused => exact Or.inl ⟨_, rfl, rfl⟩
        | notPersisted => exact absurd hStore hFault

/-- What a new credential of the LAN peer is in the store. -/
theorem activeLan_storeCredential [UuidCrate] (store : OsCredentialStore)
    (credentialId peerDeviceId : Uuid)
    (peerDisplayName secret : String) :
    (store.storeCredential credentialId (lanMetadata peerDeviceId peerDisplayName)
        secret).ActiveLan credentialId ∧
      ((store.storeCredential credentialId (lanMetadata peerDeviceId peerDisplayName)
        secret).secrets.lookup credentialId).isSome = true := by
  refine ⟨⟨_, AList.lookup_insert _, rfl, rfl⟩, ?_⟩
  rw [OsCredentialStore.storeCredential, AList.lookup_insert]
  rfl

/-- Storing a fresh credential leaves it spare. -/
theorem Accounted.stores {file : LanTrustFile} {store : OsCredentialStore}
    (h : Accounted file store []) {credentialId : Uuid} (hFresh : Fresh file store credentialId)
    (metadata : CredentialMetadata) (secret : String) :
    Accounted file (store.storeCredential credentialId metadata secret) [credentialId] :=
  h.agreesBut (agreesBut_storeCredential store credentialId metadata secret)
    (fun _ _ _ => List.not_mem_nil) (Or.inl List.mem_cons_self)
    fun device hMem hRefers => hFresh.device device hMem hRefers.2

/-- A device takes the spare credential, and none before it had one to give up. -/
theorem Accounted.takes {file next : LanTrustFile} {store : OsCredentialStore}
    {credentialId : Uuid} (h : Accounted file store [credentialId])
    (hActive : store.ActiveLan credentialId)
    (hSecret : (store.secrets.lookup credentialId).isSome = true)
    (hUnused : ∀ device ∈ file.trustedDevices, device.authCredentialId ≠ some credentialId)
    {new : TrustedPeerDevice} (hPuts : Puts file next new) (hOpen : new.revokedAt = none)
    (hCredential : new.authCredentialId = some credentialId) (left : List Uuid)
    (hGivenUp : ∀ old ∈ file.trustedDevices, old.deviceId = new.deviceId →
      ∀ other, old.RefersTo other → other ∈ left) :
    Accounted next store left := by
  have hRefers : ∀ other, new.RefersTo other → other = credentialId := by
    intro other hOther
    exact Option.some.inj (hOther.2.symm.trans hCredential)
  refine h.puts hPuts ?_ ?_ ?_ ?_
  · intro other hOther
    obtain rfl := hRefers other hOther
    exact ⟨hActive, hSecret, fun device hMem _ hAlso => hUnused device hMem hAlso.2⟩
  · intro hRevoked
    exact absurd hOpen hRevoked
  · intro other hOther hLeft
    by_cases hSame : other = credentialId
    · exact Or.inl ⟨hOpen, hSame ▸ hCredential⟩
    · refine Or.inr ⟨fun hIn => hSame (List.mem_singleton.mp hIn), fun old hMem hId hOld => ?_⟩
      exact hLeft (hGivenUp old hMem hId other hOld)
  · intro other hIn _ device hMem
    obtain rfl := List.mem_singleton.mp hIn
    exact hUnused device hMem

/-- Once its device refers to another credential, the old one is deleted. -/
theorem Accounted.discards {file : LanTrustFile} {store : OsCredentialStore}
    {credentialId : Uuid} (h : Accounted file store [credentialId])
    (hUnused : ∀ device ∈ file.trustedDevices, ¬ device.RefersTo credentialId)
    (secretKept : Bool) :
    Accounted file (store.deleteCredential credentialId secretKept) [] := by
  refine h.agreesBut (agreesBut_deleteCredential store credentialId secretKept) ?_ (Or.inr ?_)
    hUnused
  · intro other hApart _ hIn
    exact hApart (List.mem_singleton.mp hIn)
  · intro hActive
    obtain ⟨metadata, hRecord, _⟩ := hActive
    cases (lookup_deleteCredential store credentialId secretKept).symm.trans hRecord

section Parts
variable [UuidCrate] [Sha2Crate]

/-- A call that writes the trust file saves what it has written, or leaves the
file as it was. -/
theorem trustCall_write (call : LanCall) (now : DateTime) {cut : Option Cut}
    (hCut : cut ≠ some .oldRemoved) (world : LanWorld) :
    Ensures (trustCall (.write call now) cut) world fun later outcome =>
      (∃ error, outcome = .error error ∧ later.trust.file = world.trust.file ∧
        later.credentials = world.credentials) ∨
      ∃ file reply next, outcome = .ok reply ∧ cut = none ∧
        readTrustFile (world.trust.contents {}) = .ok file ∧
        TrustCall.written file now call = .ok (reply, next) ∧
        readTrustFile (later.trust.contents {}) = .ok next ∧
        later.credentials = world.credentials := by
  unfold Ensures trustCall
  rw [execute_ofFunction]
  dsimp only
  cases hPerform : trustStore.perform (.write call now) (trustStore.load world.trust) with
  | error fault => exact Or.inl ⟨_, rfl, rfl, rfl⟩
  | ok result =>
      obtain ⟨reply, saved⟩ := result
      cases hLoad : trustStore.load world.trust with
      | error fault =>
          rw [hLoad] at hPerform
          cases call with
          | issue _ _ _ approvedByOperator => cases approvedByOperator <;> cases hPerform
          | accept | trust | rotate | authorize | revoke => cases hPerform
      | ok file =>
          rw [hLoad] at hPerform
          obtain ⟨next, rfl, hWritten⟩ := written_of_perform hPerform
          cases cut with
          | some cut =>
              refine Or.inl ⟨_, rfl, ?_, rfl⟩
              exact world.trust.file_replace_of_cut next fun hSame => hCut (hSame ▸ rfl)
          | none =>
              refine Or.inr ⟨file, reply, next, rfl, rfl, hLoad, hWritten, ?_, rfl⟩
              exact readTrustFile_eq_ok_iff.mpr ⟨rfl, (TrustCall.effect_of_written hWritten).1⟩

/-- The call that names the new credential saves what it has written, or all is
undone. -/
theorem trustWith_ensures (call : LanCall) {env : LanEnv} (hCut : env.cut ≠ some .oldRemoved)
    (world : LanWorld) {stored : LanWorld} (hTrust : stored.trust = world.trust)
    (hAgrees : AgreesBut env.credentialId world.credentials stored.credentials) :
    Ensures (trustWith call env.credentialId env) stored fun later outcome =>
      ((∃ error, outcome = .error error) ∧ Undone env.credentialId world later) ∨
      ∃ file reply next, outcome = .ok reply ∧ env.cut = none ∧
        readTrustFile (world.trust.contents {}) = .ok file ∧
        TrustCall.written file env.now call = .ok (reply, next) ∧
        readTrustFile (later.trust.contents {}) = .ok next ∧
        later.credentials = stored.credentials := by
  unfold trustWith
  refine Ensures.bind (R := fun later outcome =>
      (∃ error, outcome = .ok (.error error) ∧ later.trust.file = stored.trust.file ∧
        later.credentials = stored.credentials) ∨
      ∃ file reply next, outcome = .ok (.ok reply) ∧ env.cut = none ∧
        readTrustFile (stored.trust.contents {}) = .ok file ∧
        TrustCall.written file env.now call = .ok (reply, next) ∧
        readTrustFile (later.trust.contents {}) = .ok next ∧
        later.credentials = stored.credentials)
    ((trustCall_write call env.now hCut stored).attempt ?_ ?_ ?_) ?_ ?_
  · intro later value hLater
    rcases hLater with ⟨error, hError, _⟩ | ⟨file, reply, next, hOk, hRest⟩
    · cases hError
    · cases hOk
      exact Or.inr ⟨file, value, next, rfl, hRest⟩
  · intro later error caught hLater hCaught
    cases hCaught
    rcases hLater with ⟨_, hError, hKept⟩ | ⟨_, _, _, hOk, _⟩
    · cases hError
      exact Or.inl ⟨error, rfl, hKept⟩
    · cases hOk
  · intro later error _ hPassed
    cases hPassed
  · intro later error hLater
    rcases hLater with ⟨_, hError, _⟩ | ⟨_, _, _, hOk, _⟩
    · cases hError
    · cases hOk
  · intro later answer hLater
    rcases hLater with ⟨error, hError, hFile, hStore⟩ | ⟨file, reply, next, hOk, hRest⟩
    · cases hError
      refine Ensures.modify_bind (Ensures.throw (Or.inl ⟨⟨error, rfl⟩, ?_⟩))
      refine ⟨hFile.trans (congrArg Disk.file hTrust), ?_, lookup_deleteCredential _ _ _⟩
      show AgreesBut _ _ (later.credentials.deleteCredential _ _)
      rw [hStore]
      exact hAgrees.trans (agreesBut_deleteCredential _ _ _)
    · cases hOk
      rw [hTrust] at hRest
      exact Ensures.pure (Or.inr ⟨file, reply, next, rfl, hRest⟩)

/-- A pairing gives a device its first credential, or leaves all as it was. -/
theorem pair_settled {peerDeviceId : Uuid} {peerDisplayName secret : String} {env : LanEnv}
    {world : LanWorld} {file : LanTrustFile} (hSound : Sound world file)
    (hFresh : Fresh file world.credentials env.credentialId)
    (hFault : env.storeFault ≠ some .notPersisted) (hCut : env.cut ≠ some .oldRemoved)
    {call : Uuid → LanCall}
    (hDevices : ∀ reply next,
      TrustCall.written file env.now (call env.credentialId) = .ok (reply, next) →
        ∃ device, next.trustedDevices = (file.upsertTrustedDevice device).trustedDevices ∧
          device.deviceId = peerDeviceId ∧ device.revokedAt = none ∧
            device.authCredentialId = some env.credentialId)
    (hFirst : env.storeFault = none → env.cut = none → ∀ reply next,
      TrustCall.written file env.now (call env.credentialId) = .ok (reply, next) →
        ∀ device ∈ file.trustedDevices, device.deviceId = peerDeviceId →
          ∀ other, ¬ device.RefersTo other) :
    Ensures (do
      let credentialId ← storeLanAuthCredential peerDeviceId peerDisplayName secret env
      trustWith (call credentialId) credentialId env) world (LanSettled world) := by
  refine (storeLanAuthCredential_ensures peerDeviceId peerDisplayName secret hFault world).bind
    ?_ ?_
  · intro later error hLater
    rcases hLater with ⟨_, _, rfl⟩ | ⟨hOk, _⟩
    · exact (Undone.refl hFresh.record).settled hSound hFresh _
    · cases hOk
  intro stored credentialId hStored
  rcases hStored with ⟨_, hError, _⟩ | ⟨hOk, hNone, rfl⟩
  · cases hError
  obtain rfl : credentialId = env.credentialId := Except.ok.inj hOk
  have hAgrees := agreesBut_storeCredential world.credentials env.credentialId
    (lanMetadata peerDeviceId peerDisplayName) (trim secret)
  refine Ensures.mono (trustWith_ensures (call env.credentialId) hCut world (by rfl)
    (by exact hAgrees)) ?_
  intro later outcome hLater
  rcases hLater with ⟨_, hUndone⟩ | ⟨read, reply, next, rfl, hWhole, hRead, hWritten, hNext, hStore⟩
  · exact hUndone.settled hSound hFresh outcome
  obtain rfl := Except.ok.inj (hSound.1.symm.trans hRead)
  obtain ⟨device, hList, hPeer, hOpen, hCredential⟩ := hDevices reply next hWritten
  have hActive := activeLan_storeCredential world.credentials env.credentialId peerDeviceId
    peerDisplayName (trim secret)
  refine ⟨⟨next, hNext, ?_⟩, fun hError => by obtain ⟨_, hError⟩ := hError; cases hError⟩
  rw [hStore]
  refine (hSound.2.stores hFresh _ _).takes hActive.1 hActive.2 hFresh.device
    (puts_upsertTrustedDevice hSound.2.nodup hList) hOpen hCredential [] ?_
  intro old hMem hSame other hRefers
  exact absurd hRefers (hFirst hNone hWhole reply next hWritten old hMem (hSame.trans hPeer) other)

/-- The answer of the trust store to the question for a trusted device. -/
theorem trustCall_trustedPeer (deviceId logbookId : Uuid) (world : LanWorld) :
    Ensures (trustCall (.trustedPeer deviceId logbookId) none) world fun later outcome =>
      later = world ∧ ∀ reply, outcome = .ok reply → ∃ device, reply = .device device := by
  unfold Ensures trustCall
  rw [execute_ofFunction]
  dsimp only
  cases hPerform : trustStore.perform (.trustedPeer deviceId logbookId)
      (trustStore.load world.trust) with
  | error fault => exact ⟨rfl, fun reply hReply => by cases hReply⟩
  | ok result =>
      cases hLoad : trustStore.load world.trust with
      | error fault =>
          rw [hLoad] at hPerform
          cases hPerform
      | ok file =>
          rw [hLoad] at hPerform
          obtain ⟨device, _, rfl⟩ := (except_map_eq_ok_iff _ _ _).mp hPerform
          exact ⟨rfl, fun reply hReply => ⟨device, (Except.ok.inj hReply).symm⟩⟩

theorem handleLanAuthRotate_settled (stateLogbookId deviceId : Uuid) (pairingCode : String)
    {env : LanEnv} {world : LanWorld} {file : LanTrustFile} (hSound : Sound world file)
    (hFresh : Fresh file world.credentials env.credentialId)
    (hFault : env.storeFault ≠ some .notPersisted) (hCut : env.cut ≠ some .oldRemoved) :
    Ensures (handleLanAuthRotate stateLogbookId deviceId pairingCode env) world
      (LanSettled world) := by
  have hSame : ∀ outcome, LanSettled world world outcome := fun outcome =>
    (Undone.refl hFresh.record).settled hSound hFresh outcome
  unfold handleLanAuthRotate
  split
  · exact Ensures.throw (hSame _)
  split
  · exact Ensures.throw (hSame _)
  refine (trustCall_trustedPeer deviceId stateLogbookId world).bind ?_ ?_
  · intro later error hLater
    rw [hLater.1]
    exact hSame _
  intro same reply hReply
  obtain ⟨rfl, hDevice⟩ := hReply
  obtain ⟨trusted, rfl⟩ := hDevice reply rfl
  dsimp only
  refine (storeLanAuthCredential_ensures trusted.deviceId trusted.displayName (trim pairingCode)
    hFault same).bind ?_ ?_
  · intro later error hLater
    rcases hLater with ⟨_, _, rfl⟩ | ⟨hOk, _⟩
    · exact hSame _
    · cases hOk
  intro stored credentialId hStored
  rcases hStored with ⟨_, hError, _⟩ | ⟨hOk, _, rfl⟩
  · cases hError
  obtain rfl : credentialId = env.credentialId := Except.ok.inj hOk
  have hActive := activeLan_storeCredential same.credentials env.credentialId trusted.deviceId
    trusted.displayName (trim (trim pairingCode))
  have hAgrees := agreesBut_storeCredential same.credentials env.credentialId
    (lanMetadata trusted.deviceId trusted.displayName) (trim (trim pairingCode))
  refine Ensures.bind (trustWith_ensures
    (.rotate trusted.deviceId stateLogbookId env.credentialId) hCut same (by rfl)
    (by exact hAgrees)) ?_ ?_
  · intro later error hLater
    rcases hLater with ⟨_, hUndone⟩ | ⟨_, _, _, hOk, _⟩
    · exact hUndone.settled hSound hFresh _
    · cases hOk
  intro later answer hLater
  rcases hLater with ⟨⟨_, hError⟩, _⟩ | ⟨read, reply, next, hOk, _, hRead, hWritten, hNext, hStore⟩
  · cases hError
  obtain rfl := Except.ok.inj hOk
  obtain rfl := Except.ok.inj (hSound.1.symm.trans hRead)
  obtain ⟨old, new, hFound, hOld, hApart, hId, hOpen, hCredential, rfl, hList⟩ :=
    devices_of_rotate hWritten
  have hOldMem := List.mem_of_find?_eq_some hFound
  have hOldId := LanTrustFile.deviceId_of_findDevice hFound
  have hPuts := puts_setDevice hSound.2.nodup hFound hId hList
  have hTaken : Accounted next later.credentials old.authCredentialId.toList := by
    rw [hStore]
    refine (hSound.2.stores hFresh _ _).takes hActive.1 hActive.2 hFresh.device hPuts hOpen
      hCredential _ ?_
    intro other hMem hSameId previous hRefers
    rw [hSound.2.eq_of_deviceId hMem hOldMem (hSameId.trans (hId.trans hOldId.symm))] at hRefers
    exact Option.mem_toList.mpr hRefers.2
  dsimp only
  cases hPrevious : old.authCredentialId with
  | none =>
      rw [hPrevious] at hTaken
      exact Ensures.pure ⟨⟨next, hNext, hTaken⟩, fun hError => by obtain ⟨_, h⟩ := hError; cases h⟩
  | some previous =>
      rw [hPrevious] at hTaken
      refine Ensures.modify_bind (Ensures.pure ⟨⟨next, hNext, hTaken.discards ?_ _⟩,
        fun hError => by obtain ⟨_, h⟩ := hError; cases h⟩)
      intro device hMem hRefers
      rcases (hPuts.mem device).mp hMem with rfl | ⟨hOther, hDifferent⟩
      · rw [hPrevious] at hApart
        exact hApart (hRefers.2.symm.trans hCredential)
      · have hOwner := hSound.2.eq_of_refersTo hOther hOldMem hRefers ⟨hOld, hPrevious⟩
          List.not_mem_nil
        exact hDifferent (hOwner ▸ hOldId.trans hId.symm)

/-- A device that is revoked gives up its credential. -/
theorem handleLanTrustRevoke_settled (deviceId : Uuid) {env : LanEnv} {world : LanWorld}
    {file : LanTrustFile} (hSound : Sound world file)
    (hFresh : Fresh file world.credentials env.credentialId)
    (hCut : env.cut ≠ some .oldRemoved) :
    Ensures (handleLanTrustRevoke deviceId env) world (LanSettled world) := by
  unfold handleLanTrustRevoke
  split
  · exact Ensures.throw ((Undone.refl hFresh.record).settled hSound hFresh _)
  refine (trustCall_write (.revoke deviceId) env.now hCut world).bind ?_ ?_
  · intro later error hLater
    rcases hLater with ⟨_, _, hFile, hStore⟩ | ⟨_, _, _, hOk, _⟩
    · exact (undone_of_same hFresh.record hFile hStore).settled hSound hFresh _
    · cases hOk
  intro later answer hLater
  rcases hLater with ⟨_, hError, _⟩ | ⟨read, reply, next, hOk, _, hRead, hWritten, hNext, hStore⟩
  · cases hError
  obtain rfl := Except.ok.inj hOk
  obtain rfl := Except.ok.inj (hSound.1.symm.trans hRead)
  obtain ⟨old, new, hFound, hId, hRevoked, hCredential, rfl, hList⟩ := devices_of_revoke hWritten
  have hOldMem := List.mem_of_find?_eq_some hFound
  have hOldId := LanTrustFile.deviceId_of_findDevice hFound
  have hPuts := puts_setDevice hSound.2.nodup hFound hId hList
  have hNot : ∀ other, ¬ new.RefersTo other := by
    intro other hRefers
    cases hRevoked.symm.trans hRefers.1
  have hTaken : Accounted next later.credentials old.authCredentialId.toList := by
    rw [hStore]
    refine hSound.2.puts hPuts (fun other hRefers => absurd hRefers (hNot other)) ?_ ?_ ?_
    · intro _ other hSome hLeft
      rw [hCredential] at hSome
      exact absurd (Option.mem_toList.mpr hSome) hLeft
    · intro other _ hLeft
      refine Or.inr ⟨List.not_mem_nil, fun device hMem hSame hRefers => hLeft ?_⟩
      rw [hSound.2.eq_of_deviceId hMem hOldMem (hSame.trans (hId.trans hOldId.symm))] at hRefers
      exact Option.mem_toList.mpr hRefers.2
    · intro other hIn
      cases hIn
  dsimp only
  cases hPrevious : old.authCredentialId with
  | none =>
      rw [hCredential, hPrevious]
      rw [hPrevious] at hTaken
      exact Ensures.pure ⟨⟨next, hNext, hTaken⟩, fun hError => by obtain ⟨_, h⟩ := hError; cases h⟩
  | some previous =>
      rw [hCredential, hPrevious]
      rw [hPrevious] at hTaken
      refine Ensures.modify_bind (Ensures.pure ⟨⟨next, hNext, hTaken.discards ?_ _⟩,
        fun hError => by obtain ⟨_, h⟩ := hError; cases h⟩)
      intro device hMem hRefers
      rcases (hPuts.mem device).mp hMem with rfl | ⟨hOther, hDifferent⟩
      · exact hNot previous hRefers
      · by_cases hOpen : old.revokedAt = none
        · have hOwner := hSound.2.eq_of_refersTo hOther hOldMem hRefers ⟨hOpen, hPrevious⟩
            List.not_mem_nil
          exact hDifferent (hOwner ▸ hOldId.trans hId.symm)
        · exact hSound.2.ended old hOldMem hOpen previous hPrevious List.not_mem_nil
            (hSound.2.stored device hOther previous hRefers).1

end Parts

/-! Runs of requests. -/

section Runs
variable [UuidCrate] [Sha2Crate]

/-- A pairing that the trust store takes, for a device that is trusted already
with a credential. -/
def LanRequest.ReplacesTrust (stateLogbookId : Uuid) (request : LanRequest) (env : LanEnv)
    (file : LanTrustFile) : Prop :=
  let replaces (peerDeviceId : Uuid) (call : LanCall) : Prop :=
    env.storeFault = none ∧ env.cut = none ∧
      (∃ reply next, TrustCall.written file env.now call = .ok (reply, next)) ∧
        ∃ device ∈ file.trustedDevices, device.deviceId = peerDeviceId ∧
          ∃ credentialId, device.RefersTo credentialId
  match request with
  | .accept request =>
      replaces request.peerDeviceId (acceptCall stateLogbookId request env.credentialId)
  | .complete request =>
      ∃ peer, env.peer = some peer ∧
        replaces peer.deviceId (completeCall stateLogbookId request peer env.credentialId)
  | _ => False

/-- The identifier that is drawn is new, what is stored is written down, no save
loses the trust file, and no pairing replaces the credential of a device. -/
structure LanRequest.Careful (stateLogbookId : Uuid) (request : LanRequest) (env : LanEnv)
    (world : LanWorld) : Prop where
  fresh : ∀ file, readTrustFile (world.trust.contents {}) = .ok file →
    Fresh file world.credentials env.credentialId
  persisted : env.storeFault ≠ some .notPersisted
  saved : env.cut ≠ some .oldRemoved
  first : ∀ file, readTrustFile (world.trust.contents {}) = .ok file →
    ¬ request.ReplacesTrust stateLogbookId env file

theorem trustCall_settled {call : LanCall} {env : LanEnv} {world : LanWorld} {file : LanTrustFile}
    (hSound : Sound world file) (hFresh : Fresh file world.credentials env.credentialId)
    (hCut : env.cut ≠ some .oldRemoved)
    (hNext : ∀ reply next, TrustCall.written file env.now call = .ok (reply, next) →
      Accounted next world.credentials []) :
    Ensures (trustCall (.write call env.now) env.cut) world (LanSettled world) := by
  refine (trustCall_write call env.now hCut world).mono ?_
  intro later outcome hLater
  rcases hLater with ⟨_, _, hFile, hStore⟩ | ⟨read, reply, next, rfl, _, hRead, hWritten, hSaved,
    hStore⟩
  · exact (undone_of_same hFresh.record hFile hStore).settled hSound hFresh outcome
  · obtain rfl := Except.ok.inj (hSound.1.symm.trans hRead)
    refine ⟨⟨next, hSaved, ?_⟩, fun hError => by obtain ⟨_, h⟩ := hError; cases h⟩
    rw [hStore]
    exact hNext reply next hWritten

theorem handle_settled (stateLogbookId : Uuid) (request : LanRequest) {env : LanEnv}
    {world : LanWorld} {file : LanTrustFile} (hSound : Sound world file)
    (hCareful : request.Careful stateLogbookId env world) :
    Ensures (request.handle stateLogbookId env) world (LanSettled world) := by
  have hFresh := hCareful.fresh file hSound.1
  have hFirst := hCareful.first file hSound.1
  have hSame : ∀ outcome, LanSettled world world outcome := fun outcome =>
    (Undone.refl hFresh.record).settled hSound hFresh outcome
  cases request with
  | accept request =>
      show Ensures (handleLanPairingAccept stateLogbookId request env) world _
      unfold handleLanPairingAccept
      split
      · exact Ensures.throw (hSame _)
      split
      · exact Ensures.throw (hSame _)
      apply Ensures.reading_bind (fun _ _ => hSame _)
      intro authCode _
      refine pair_settled hSound hFresh hCareful.persisted hCareful.saved
        (fun _ _ => devices_of_accept) ?_
      intro hFault hCut reply next hWritten device hMem hPeer other hRefers
      exact hFirst ⟨hFault, hCut, ⟨reply, next, hWritten⟩, device, hMem, hPeer, other, hRefers⟩
  | complete request =>
      show Ensures (handleLanPairingComplete stateLogbookId request env) world _
      unfold handleLanPairingComplete
      split
      · exact Ensures.throw (hSame _)
      cases hPeer : env.peer with
      | none => exact Ensures.throw (hSame _)
      | some peer =>
          dsimp only
          split
          · exact Ensures.throw (hSame _)
          apply Ensures.reading_bind (fun _ _ => hSame _)
          intro authCode _
          apply Ensures.reading_bind (fun _ _ => hSame _)
          intro _ _
          refine pair_settled hSound hFresh hCareful.persisted hCareful.saved
            (fun _ _ => devices_of_trust) ?_
          intro hFault hCut reply next hWritten device hMem hSameId other hRefers
          exact hFirst ⟨peer, hPeer, hFault, hCut, ⟨reply, next, hWritten⟩, device, hMem, hSameId,
            other, hRefers⟩
  | rotate deviceId pairingCode =>
      exact handleLanAuthRotate_settled stateLogbookId deviceId pairingCode hSound hFresh
        hCareful.persisted hCareful.saved
  | revoke deviceId =>
      exact handleLanTrustRevoke_settled deviceId hSound hFresh hCareful.saved
  | issue issuerDeviceId issuerDisplayName approvedByOperator tokenId pairingCode =>
      refine trustCall_settled hSound hFresh hCareful.saved fun reply next hWritten => ?_
      have hList := devices_of_issue hWritten
      have hAccounted := hSound.2
      refine ⟨?_, ?_, ?_, ?_⟩
      · rw [hList]
        exact hAccounted.nodup
      · rw [hList]
        exact hAccounted.owned
      · rw [hList]
        exact hAccounted.stored
      · rw [hList]
        exact hAccounted.ended
  | authorize deviceId logbookId replayNonce =>
      refine trustCall_settled hSound hFresh hCareful.saved fun reply next hWritten => ?_
      obtain ⟨old, new, hFound, hId, hRevoked, hCredential, hList⟩ :=
        devices_of_authorize hWritten
      exact hSound.2.touched (List.mem_of_find?_eq_some hFound)
        (hId.trans (LanTrustFile.deviceId_of_findDevice hFound).symm) hRevoked hCredential
        (puts_setDevice hSound.2.nodup hFound hId hList)

/-- The requests to one client, with what each of them meets. -/
def lanPairingSystem (stateLogbookId : Uuid) : System LanWorld (LanRequest × LanEnv) where
  step world label later :=
    later = ((label.1.handle stateLogbookId label.2).execute world).1

/-- While no request replaces the credential of a trusted device, or loses what
it has stored, every active credential belongs to exactly one trusted device,
every trusted device has its own, and a request that fails leaves the secrets
of the others usable. -/
theorem lan_credentials_match {stateLogbookId : Uuid} {start world : LanWorld}
    {labels : List (LanRequest × LanEnv)}
    (hTrust : readTrustFile (start.trust.contents {}) = .ok {})
    (hCredentials : ∀ credentialId, ¬ start.credentials.ActiveLan credentialId)
    (run : Run ((lanPairingSystem stateLogbookId).restrict fun world label =>
      label.1.Careful stateLogbookId label.2 world) start labels world) :
    (∃ file, readTrustFile (world.trust.contents {}) = .ok file ∧
      (∀ credentialId, world.credentials.ActiveLan credentialId →
        ∃! device, device ∈ file.trustedDevices ∧ device.RefersTo credentialId) ∧
      ∀ device ∈ file.trustedDevices, ∀ credentialId, device.RefersTo credentialId →
        world.credentials.ActiveLan credentialId ∧
          (world.credentials.retrieveSecret credentialId).isSome = true) ∧
    ∀ request env, LanRequest.Careful stateLogbookId request env world → ∀ error,
      ((request.handle stateLogbookId env).execute world).2 = .error error →
        ∀ deviceId secret, Usable world deviceId secret →
          Usable ((request.handle stateLogbookId env).execute world).1 deviceId secret := by
  have hStart : ∃ file, Sound start file := by
    refine ⟨{}, hTrust, List.nodup_nil, ?_, ?_, ?_⟩
    · intro credentialId hActive
      exact absurd hActive (hCredentials credentialId)
    · intro device hMem
      cases hMem
    · intro device hMem
      cases hMem
  have hStep : ∀ state label later, (∃ file, Sound state file) →
      ((lanPairingSystem stateLogbookId).restrict fun world label =>
        label.1.Careful stateLogbookId label.2 world).step state label later →
      ∃ file, Sound later file := by
    intro state label later hState hTaken
    obtain ⟨file, hSound⟩ := hState
    obtain ⟨hCareful, rfl⟩ := hTaken
    exact (handle_settled stateLogbookId label.1 hSound hCareful).1
  obtain ⟨file, hRead, hAccounted⟩ := run.invariant hStep hStart
  refine ⟨⟨file, hRead, ?_, ?_⟩, ?_⟩
  · intro credentialId hActive
    exact hAccounted.owned credentialId hActive List.not_mem_nil
  · intro device hMem credentialId hRefers
    obtain ⟨hActive, hSecret⟩ := hAccounted.stored device hMem credentialId hRefers
    refine ⟨hActive, ?_⟩
    obtain ⟨metadata, hRecord, _, hStatus⟩ := hActive
    rw [OsCredentialStore.retrieveSecret, hRecord]
    simp only [hStatus, if_true]
    exact hSecret
  · intro request env hCareful error hError
    exact (handle_settled stateLogbookId request ⟨hRead, hAccounted⟩ hCareful).2 ⟨error, hError⟩

end Runs

section
open Crates

/-- A pairing with device 5 that its peer has agreed to. -/
def completePairing (credentialId : Uuid) : LanRequest × LanEnv :=
  (.complete
    { tokenId := 1, pairingCode := "123456", authCode := none, publicKeyFingerprint := none },
   { now := epoch, credentialId := credentialId,
     generatedCode := "0123456789abcdef0123456789abcdef",
     peer := some { deviceId := 5, displayName := "Peer", answer := .ok () } })

/-- The world after some requests for logbook 1. -/
def afterPairing (requests : List (LanRequest × LanEnv)) : LanWorld :=
  requests.foldl (fun world label => ((label.1.handle 1 label.2).execute world).1) {}

/-- A first pairing stores a credential that its device refers to. -/
theorem lan_credentials_match_paired :
    ∃ file, readTrustFile ((afterPairing [completePairing 101]).trust.contents {}) = .ok file ∧
      (∀ credentialId, (afterPairing [completePairing 101]).credentials.ActiveLan credentialId →
        ∃! device, device ∈ file.trustedDevices ∧ device.RefersTo credentialId) ∧
      ∀ device ∈ file.trustedDevices, ∀ credentialId, device.RefersTo credentialId →
        (afterPairing [completePairing 101]).credentials.ActiveLan credentialId ∧
          ((afterPairing [completePairing 101]).credentials.retrieveSecret
            credentialId).isSome = true := by
  have hEmpty : ∀ file, readTrustFile ((({} : LanWorld).trust).contents {}) = .ok file →
      file = {} := fun file hFile => (Except.ok.inj hFile).symm
  have hNone : ∀ credentialId, ¬ ({} : LanWorld).credentials.ActiveLan credentialId := by
    intro credentialId hActive
    obtain ⟨metadata, hRecord, _⟩ := hActive
    cases hRecord
  have hCareful : (completePairing 101).1.Careful 1 (completePairing 101).2 {} := by
    refine ⟨fun file hFile => ?_, nofun, nofun, fun file hFile hReplaces => ?_⟩
    · rw [hEmpty file hFile]
      exact ⟨rfl, fun device hMem => by cases hMem⟩
    · rw [hEmpty file hFile] at hReplaces
      obtain ⟨_, _, _, _, _, device, hMem, _⟩ := hReplaces
      cases hMem
  have hRun : Run ((lanPairingSystem 1).restrict fun world label =>
      label.1.Careful 1 label.2 world) {} [completePairing 101]
      (afterPairing [completePairing 101]) := Run.single ⟨hCareful, rfl⟩
  exact (lan_credentials_match rfl hNone hRun).1

/-- A second pairing with the same device leaves the credential of the first one
active, and no device refers to it. -/
theorem second_pairing_orphans_credential :
    ∃ labels world, Run (lanPairingSystem 1) {} labels world ∧
      world.credentials.ActiveLan 101 ∧
      ∀ file, readTrustFile (world.trust.contents {}) = .ok file →
        ∀ device ∈ file.trustedDevices, ¬ device.RefersTo 101 := by
  refine ⟨[completePairing 101, completePairing 102],
    afterPairing [completePairing 101, completePairing 102], (Run.single rfl).snoc rfl, ?_, ?_⟩
  · refine ⟨lanMetadata 5 "Peer", ?_, rfl, rfl⟩
    decide +kernel
  · intro file hFile device hMem hRefers
    obtain ⟨hContents, _⟩ := readTrustFile_eq_ok_iff.mp hFile
    have hDevices : ∀ device ∈ (((afterPairing [completePairing 101,
        completePairing 102]).trust.contents {}).getD {}).trustedDevices,
        device.authCredentialId ≠ some 101 := by decide +kernel
    rw [hContents] at hDevices
    exact hDevices device hMem hRefers.2

end

end HamLogger
