import HamLogger.Library.DocumentStore
import HamLogger.Sync.LanReplay

/-! The trust store on disk: the calls that write the trust file and the ones
that only read it, and what each does to the trust in a device. -/
namespace HamLogger

open FileReplace (Cut Disk DocumentStore)
open JsonLanTrustStore (LanCall)

/-- An error of the file system or of the decoder, or one of the store. -/
inductive FileError (ε : Type) where
  | io
  | serde
  | own (error : ε)
  deriving DecidableEq

abbrev TrustFault := Fault (FileError LanTrustError)

structure PairingTokenSummary where
  tokenId : Uuid
  issuerDeviceId : Uuid
  logbookId : Uuid
  issuerDisplayName : String
  createdAt : DateTime
  expiresAt : DateTime
  consumedAt : Option DateTime
  approvedByOperator : Bool

def PairingTokenSummary.ofRecord (record : PairingTokenRecord) : PairingTokenSummary where
  tokenId := record.tokenId
  issuerDeviceId := record.issuerDeviceId
  logbookId := record.logbookId
  issuerDisplayName := record.issuerDisplayName
  createdAt := record.createdAt
  expiresAt := record.expiresAt
  consumedAt := record.consumedAt
  approvedByOperator := record.approvedByOperator

structure LanTrustSnapshot where
  version : UInt32
  pairingTokens : List PairingTokenSummary
  trustedDevices : List TrustedPeerDevice

def LanTrustSnapshot.ofFile (file : LanTrustFile) : LanTrustSnapshot where
  version := file.version
  pairingTokens := file.pairingTokens.map .ofRecord
  trustedDevices := file.trustedDevices

/-- The logbooks of a device that is not revoked. -/
def TrustedPeerDevice.scope (device : TrustedPeerDevice) : List Uuid :=
  if device.revokedAt.isSome then [] else device.logbookIds

namespace LanTrustFile

def trustedPeer (file : LanTrustFile) (deviceId logbookId : Uuid) :
    Outcome LanTrustError TrustedPeerDevice :=
  match file.findDevice deviceId with
  | none => .error (.error (.deviceNotFound deviceId))
  | some device =>
      if device.revokedAt.isSome then .error (.error (.deviceRevoked deviceId))
      else if logbookId ∉ device.logbookIds then
        .error (.error (.wrongLogbook deviceId logbookId))
      else .ok device

def findToken (file : LanTrustFile) (tokenId : Uuid) : Option PairingTokenRecord :=
  file.pairingTokens.find? fun token => token.tokenId = tokenId

def consumeToken (file : LanTrustFile) (tokenId : Uuid) (now : DateTime) : LanTrustFile :=
  { file with
    pairingTokens := updateFirst (fun token => token.tokenId = tokenId)
      (fun token => { token with consumedAt := some now }) file.pairingTokens }

/-- The logbooks that a device may use. -/
def scope (file : LanTrustFile) (deviceId : Uuid) : List Uuid :=
  (file.findDevice deviceId).elim [] TrustedPeerDevice.scope

theorem trustedPeer_succeeds_iff (file : LanTrustFile) (deviceId logbookId : Uuid) :
    (∃ device, file.trustedPeer deviceId logbookId = .ok device) ↔
      logbookId ∈ file.scope deviceId := by
  unfold trustedPeer scope
  cases hFound : file.findDevice deviceId with
  | none => simp
  | some device =>
      rw [Option.elim_some, TrustedPeerDevice.scope]
      cases hRevoked : device.revokedAt.isSome with
      | true => simp [hRevoked]
      | false =>
          by_cases hMem : logbookId ∈ device.logbookIds
          · simp [hRevoked, hMem]
          · simp [hRevoked, hMem]

theorem findDevice_upsertTrustedDevice (file : LanTrustFile) (device : TrustedPeerDevice)
    (deviceId : Uuid) :
    (file.upsertTrustedDevice device).findDevice deviceId =
      if deviceId = device.deviceId then some device else file.findDevice deviceId := by
  unfold upsertTrustedDevice findDevice
  split
  · rename_i hKnown
    obtain ⟨existing, hMem, hSame⟩ := List.any_eq_true.mp hKnown
    have hSome : (file.trustedDevices.find? fun existing =>
        existing.deviceId = device.deviceId).isSome := List.find?_isSome.mpr ⟨existing, hMem, hSame⟩
    obtain ⟨found, hFound⟩ := Option.isSome_iff_exists.mp hSome
    rw [find?_updateFirst TrustedPeerDevice.deviceId rfl, hFound]
    rfl
  · rename_i hUnknown
    have hNone : (file.trustedDevices.find? fun existing =>
        existing.deviceId = device.deviceId) = none := by
      refine List.find?_eq_none.mpr fun existing hMem hSame => hUnknown ?_
      exact List.any_eq_true.mpr ⟨existing, hMem, hSame⟩
    rw [List.find?_append]
    by_cases hSame : deviceId = device.deviceId
    · rw [if_pos hSame, hSame, hNone]
      simp
    · have hApart : ¬ device.deviceId = deviceId := fun hEq => hSame hEq.symm
      rw [if_neg hSame]
      simp [hApart]

theorem findDevice_setDevice {file : LanTrustFile} {target : Uuid} {old device : TrustedPeerDevice}
    (hFound : file.findDevice target = some old) (hDevice : device.deviceId = target)
    (deviceId : Uuid) :
    (file.setDevice target device).findDevice deviceId =
      if deviceId = target then some device else file.findDevice deviceId := by
  unfold findDevice at hFound
  unfold setDevice findDevice
  rw [find?_updateFirst TrustedPeerDevice.deviceId hDevice, hFound]
  rfl

theorem findDevice_setDevice_self {file : LanTrustFile} {target : Uuid}
    {old device : TrustedPeerDevice} (hFound : file.findDevice target = some old)
    (hDevice : device.deviceId = target) :
    (file.setDevice target device).findDevice target ≠ none := by
  rw [findDevice_setDevice hFound hDevice, if_pos rfl]
  simp

theorem deviceId_of_findDevice {file : LanTrustFile} {deviceId : Uuid}
    {device : TrustedPeerDevice} (h : file.findDevice deviceId = some device) :
    device.deviceId = deviceId := by
  simpa using List.find?_some h

theorem scope_upsertTrustedDevice (file : LanTrustFile) (device : TrustedPeerDevice)
    (deviceId : Uuid) :
    (file.upsertTrustedDevice device).scope deviceId =
      if deviceId = device.deviceId then device.scope else file.scope deviceId := by
  rw [scope, findDevice_upsertTrustedDevice]
  by_cases hSame : deviceId = device.deviceId
  · rw [if_pos hSame, if_pos hSame]
    rfl
  · rw [if_neg hSame, if_neg hSame]
    rfl

theorem scope_setDevice {file : LanTrustFile} {target : Uuid} {old device : TrustedPeerDevice}
    (hFound : file.findDevice target = some old) (hDevice : device.deviceId = target)
    (deviceId : Uuid) :
    (file.setDevice target device).scope deviceId =
      if deviceId = target then device.scope else file.scope deviceId := by
  rw [scope, findDevice_setDevice hFound hDevice]
  by_cases hSame : deviceId = target
  · rw [if_pos hSame, if_pos hSame]
    rfl
  · rw [if_neg hSame, if_neg hSame]
    rfl

/-- A change that keeps the scope of the device changes the scope of none. -/
theorem scope_setDevice_of_kept {file : LanTrustFile} {target : Uuid}
    {old device : TrustedPeerDevice} (hFound : file.findDevice target = some old)
    (hDevice : device.deviceId = target) (hScope : device.scope = old.scope) (deviceId : Uuid) :
    (file.setDevice target device).scope deviceId = file.scope deviceId := by
  rw [scope_setDevice hFound hDevice]
  by_cases hSame : deviceId = target
  · rw [if_pos hSame, hSame, scope, hFound]
    exact hScope
  · rw [if_neg hSame]

theorem result_of_saveFile {α : Type} {file next : LanTrustFile} {result saved : α}
    (h : file.saveFile result = .ok (saved, next)) : saved = result := by
  unfold saveFile at h
  split at h
  · cases h
  · cases h
    rfl

@[simp] theorem pairingTokens_setDevice (file : LanTrustFile) (target : Uuid)
    (device : TrustedPeerDevice) :
    (file.setDevice target device).pairingTokens = file.pairingTokens := rfl

@[simp] theorem pairingTokens_upsertTrustedDevice (file : LanTrustFile)
    (device : TrustedPeerDevice) :
    (file.upsertTrustedDevice device).pairingTokens = file.pairingTokens := by
  unfold upsertTrustedDevice
  split <;> rfl

end LanTrustFile

/-- A call of the trust store, with the time of a call that writes. -/
inductive TrustCall where
  | write (call : LanCall) (now : DateTime)
  | trustedPeer (deviceId logbookId : Uuid)
  | snapshot

inductive TrustReply where
  | token (token : IssuedPairingToken)
  | device (device : TrustedPeerDevice)
  | rotation (rotation : LanAuthCredentialRotation)
  | snapshot (snapshot : LanTrustSnapshot)

namespace TrustCall
variable [UuidCrate] [Sha2Crate]

/-- What a call that writes does to the file. -/
def written (file : LanTrustFile) (now : DateTime) :
    LanCall → Outcome LanTrustError (TrustReply × LanTrustFile)
  | .issue issuerDeviceId logbookId issuerDisplayName approvedByOperator tokenId pairingCode =>
      (JsonLanTrustStore.issuePairingToken file issuerDeviceId logbookId issuerDisplayName
        approvedByOperator now tokenId pairingCode).map fun result => (.token result.1, result.2)
  | .accept request =>
      (JsonLanTrustStore.acceptPairingToken file request now).map
        fun result => (.device result.1, result.2)
  | .trust request =>
      (JsonLanTrustStore.trustPeerWithAuthCredential file request now).map
        fun result => (.device result.1, result.2)
  | .rotate deviceId logbookId newAuthCredentialId =>
      (JsonLanTrustStore.rotateAuthCredential file deviceId logbookId newAuthCredentialId now).map
        fun result => (.rotation result.1, result.2)
  | .authorize deviceId logbookId replayNonce =>
      (JsonLanTrustStore.authorizePeer file deviceId logbookId replayNonce now).map
        fun result => (.device result.1, result.2)
  | .revoke deviceId =>
      (JsonLanTrustStore.revokeDevice file deviceId now).map
        fun result => (.device result.1, result.2)

/-- What a call does with the file that was read. The approval of an operator
is asked for before the file is read. -/
def perform : TrustCall → Except TrustFault LanTrustFile →
    Except TrustFault (TrustReply × Option LanTrustFile)
  | .write (.issue _ _ _ false _ _) _, _ => .error (.error (.own .approvalRequired))
  | _, .error fault => .error fault
  | .write call now, .ok file =>
      ((written file now call).mapError FileError.own).map
        fun result => (result.1, some result.2)
  | .trustedPeer deviceId logbookId, .ok file =>
      ((file.trustedPeer deviceId logbookId).mapError FileError.own).map
        fun device => (.device device, none)
  | .snapshot, .ok file => .ok (.snapshot (.ofFile file), none)

end TrustCall

def readTrustFile : Option LanTrustFile → Except TrustFault LanTrustFile
  | none => .error (.error .serde)
  | some file =>
      match file.validate with
      | .error error => .error (.error (.own error))
      | .ok () => .ok file

/-- The trust store as a store of one document. -/
def trustStore [UuidCrate] [Sha2Crate] :
    DocumentStore LanTrustFile TrustCall TrustReply TrustFault where
  empty := {}
  io := .error .io
  read := readTrustFile
  perform := TrustCall.perform

theorem readTrustFile_eq_ok_iff {stored : Option LanTrustFile} {file : LanTrustFile} :
    readTrustFile stored = .ok file ↔ stored = some file ∧ file.validate = .ok () := by
  unfold readTrustFile
  constructor
  · intro h
    cases stored with
    | none => cases h
    | some value =>
        cases hValid : value.validate with
        | error error => simp [hValid] at h
        | ok valid =>
            obtain rfl : value = file := by simpa [hValid] using h
            exact ⟨rfl, hValid⟩
  · rintro ⟨rfl, hValid⟩
    simp [hValid]

/-! What each call that writes saves when it succeeds. -/

namespace TrustCall
variable [UuidCrate] [Sha2Crate]

/-- The record of a token that was issued. -/
def issuedRecord (issuerDeviceId logbookId : Uuid) (issuerDisplayName : String)
    (now expiresAt : DateTime) (tokenId : Uuid) (pairingCode : String) : PairingTokenRecord where
  tokenId := tokenId
  issuerDeviceId := issuerDeviceId
  logbookId := logbookId
  issuerDisplayName := issuerDisplayName
  tokenHash := pairingTokenHash tokenId pairingCode
  createdAt := now
  expiresAt := expiresAt
  consumedAt := none
  approvedByOperator := true

/-- The effect of a call that writes, on the tokens and on the scope of every
device. -/
inductive Effect (file : LanTrustFile) (now : DateTime) :
    LanCall → TrustReply → LanTrustFile → Prop where
  | issued {issuerDeviceId logbookId tokenId : Uuid} {issuerDisplayName pairingCode : String}
      {reply : TrustReply} {expiresAt : DateTime} {next : LanTrustFile}
      (expires : now.addSeconds defaultPairingTokenTtlSeconds = some expiresAt)
      (tokens : next.pairingTokens = file.pairingTokens ++
        [issuedRecord issuerDeviceId logbookId issuerDisplayName now expiresAt tokenId pairingCode])
      (scope : ∀ deviceId, next.scope deviceId = file.scope deviceId) :
      Effect file now
        (.issue issuerDeviceId logbookId issuerDisplayName true tokenId pairingCode) reply next
  | accepted {request : LanPairingAcceptance} {token : PairingTokenRecord}
      {device : TrustedPeerDevice} {next : LanTrustFile}
      (found : file.findToken request.tokenId = some token) (fresh : token.consumedAt = none)
      (inTime : now ≤ token.expiresAt)
      (code : token.tokenHash = pairingTokenHash request.tokenId request.pairingCode)
      (tokens : next.pairingTokens = (file.consumeToken request.tokenId now).pairingTokens)
      (peer : device.deviceId = request.peerDeviceId)
      (granted : device.logbookIds = [token.logbookId])
      (scope : ∀ deviceId, next.scope deviceId =
        if deviceId = request.peerDeviceId then [token.logbookId] else file.scope deviceId) :
      Effect file now (.accept request) (.device device) next
  | trusted {request : LanPeerTrustUpdate} {device : TrustedPeerDevice} {next : LanTrustFile}
      (tokens : next.pairingTokens = file.pairingTokens)
      (peer : device.deviceId = request.peerDeviceId)
      (granted : device.logbookIds = [request.logbookId])
      (scope : ∀ deviceId, next.scope deviceId =
        if deviceId = request.peerDeviceId then [request.logbookId] else file.scope deviceId) :
      Effect file now (.trust request) (.device device) next
  | rotated {deviceId logbookId newAuthCredentialId : Uuid} {reply : TrustReply}
      {next : LanTrustFile} (tokens : next.pairingTokens = file.pairingTokens)
      (scope : ∀ other, next.scope other = file.scope other)
      (found : next.findDevice deviceId ≠ none) :
      Effect file now (.rotate deviceId logbookId newAuthCredentialId) reply next
  | authorized {deviceId logbookId : Uuid} {replayNonce : String} {reply : TrustReply}
      {next : LanTrustFile} (tokens : next.pairingTokens = file.pairingTokens)
      (scope : ∀ other, next.scope other = file.scope other)
      (found : next.findDevice deviceId ≠ none) :
      Effect file now (.authorize deviceId logbookId replayNonce) reply next
  | revoked {deviceId : Uuid} {reply : TrustReply} {next : LanTrustFile}
      (tokens : next.pairingTokens = file.pairingTokens)
      (scope : ∀ other, next.scope other = if other = deviceId then [] else file.scope other)
      (found : next.findDevice deviceId ≠ none) :
      Effect file now (.revoke deviceId) reply next

variable {file next : LanTrustFile} {now : DateTime} {reply : TrustReply}

theorem effect_of_issue {issuerDeviceId logbookId tokenId : Uuid}
    {issuerDisplayName pairingCode : String} {approvedByOperator : Bool}
    (h : written file now (.issue issuerDeviceId logbookId issuerDisplayName approvedByOperator
      tokenId pairingCode) = .ok (reply, next)) :
    next.validate = .ok () ∧
      Effect file now (.issue issuerDeviceId logbookId issuerDisplayName approvedByOperator tokenId
        pairingCode) reply next := by
  obtain ⟨result, hResult, hPair⟩ := (except_map_eq_ok_iff _ _ _).mp h
  cases hPair
  unfold JsonLanTrustStore.issuePairingToken at hResult
  split at hResult
  · cases hResult
  · rename_i hApproved
    obtain rfl : approvedByOperator = true := by simpa using hApproved
    split at hResult
    · cases hResult
    · split at hResult
      · cases hResult
      · rename_i expiresAt hExpires
        obtain ⟨hValid, hNext⟩ := LanTrustFile.saveFile_eq_ok hResult
        rw [hNext]
        exact ⟨hValid, Effect.issued hExpires rfl fun _ => rfl⟩

theorem effect_of_accept {request : LanPairingAcceptance}
    (h : written file now (.accept request) = .ok (reply, next)) :
    next.validate = .ok () ∧ Effect file now (.accept request) reply next := by
  obtain ⟨⟨device, saved⟩, hResult, hPair⟩ := (except_map_eq_ok_iff _ _ _).mp h
  cases hPair
  unfold JsonLanTrustStore.acceptPairingToken at hResult
  split at hResult
  · cases hResult
  · split at hResult
    · cases hResult
    · rename_i token hFound
      split_ifs at hResult with hConsumed hExpired hHash hWrong
      dsimp only at hResult
      obtain ⟨hValid, hNext⟩ := LanTrustFile.saveFile_eq_ok hResult
      have hDevice := LanTrustFile.result_of_saveFile hResult
      rw [hNext, hDevice]
      refine ⟨hValid, Effect.accepted hFound (by simpa using hConsumed) ?_ (not_not.mp hHash)
        (LanTrustFile.pairingTokens_upsertTrustedDevice ..) rfl rfl fun deviceId => ?_⟩
      · exact Int.not_lt.mp hExpired
      · exact LanTrustFile.scope_upsertTrustedDevice _ _ deviceId

theorem effect_of_trust {request : LanPeerTrustUpdate}
    (h : written file now (.trust request) = .ok (reply, next)) :
    next.validate = .ok () ∧ Effect file now (.trust request) reply next := by
  obtain ⟨⟨device, saved⟩, hResult, hPair⟩ := (except_map_eq_ok_iff _ _ _).mp h
  cases hPair
  unfold JsonLanTrustStore.trustPeerWithAuthCredential at hResult
  split at hResult
  · cases hResult
  · dsimp only at hResult
    obtain ⟨hValid, hNext⟩ := LanTrustFile.saveFile_eq_ok hResult
    have hDevice := LanTrustFile.result_of_saveFile hResult
    rw [hNext, hDevice]
    exact ⟨hValid, Effect.trusted (LanTrustFile.pairingTokens_upsertTrustedDevice ..) rfl rfl
      fun deviceId => LanTrustFile.scope_upsertTrustedDevice _ _ deviceId⟩

theorem effect_of_rotate {deviceId logbookId newAuthCredentialId : Uuid}
    (h : written file now (.rotate deviceId logbookId newAuthCredentialId) = .ok (reply, next)) :
    next.validate = .ok () ∧
      Effect file now (.rotate deviceId logbookId newAuthCredentialId) reply next := by
  obtain ⟨result, hResult, hPair⟩ := (except_map_eq_ok_iff _ _ _).mp h
  cases hPair
  unfold JsonLanTrustStore.rotateAuthCredential at hResult
  split at hResult
  · cases hResult
  · split at hResult
    · cases hResult
    · rename_i device hFound
      split_ifs at hResult with hRevoked hWrong hSame
      dsimp only at hResult
      obtain ⟨hValid, hNext⟩ := LanTrustFile.saveFile_eq_ok hResult
      have hDevice := LanTrustFile.deviceId_of_findDevice hFound
      rw [hNext]
      exact ⟨hValid, Effect.rotated rfl
        (LanTrustFile.scope_setDevice_of_kept hFound hDevice rfl)
        (LanTrustFile.findDevice_setDevice_self hFound hDevice)⟩

theorem effect_of_authorize {deviceId logbookId : Uuid} {replayNonce : String}
    (h : written file now (.authorize deviceId logbookId replayNonce) = .ok (reply, next)) :
    next.validate = .ok () ∧
      Effect file now (.authorize deviceId logbookId replayNonce) reply next := by
  obtain ⟨result, hResult, hPair⟩ := (except_map_eq_ok_iff _ _ _).mp h
  cases hPair
  unfold JsonLanTrustStore.authorizePeer at hResult
  split at hResult
  · cases hResult
  · dsimp only at hResult
    split at hResult
    · cases hResult
    · split at hResult
      · cases hResult
      · rename_i device hFound
        split_ifs at hResult with hRevoked hWrong
        split at hResult
        · cases hResult
        · obtain ⟨hValid, hNext⟩ := LanTrustFile.saveFile_eq_ok hResult
          have hKept : file.findDevice deviceId = some device := hFound
          have hDevice := LanTrustFile.deviceId_of_findDevice hKept
          rw [hNext]
          exact ⟨hValid, Effect.authorized rfl
            (LanTrustFile.scope_setDevice_of_kept hKept hDevice rfl)
            (LanTrustFile.findDevice_setDevice_self hKept hDevice)⟩

theorem effect_of_revoke {deviceId : Uuid}
    (h : written file now (.revoke deviceId) = .ok (reply, next)) :
    next.validate = .ok () ∧ Effect file now (.revoke deviceId) reply next := by
  obtain ⟨result, hResult, hPair⟩ := (except_map_eq_ok_iff _ _ _).mp h
  cases hPair
  unfold JsonLanTrustStore.revokeDevice at hResult
  split at hResult
  · cases hResult
  · split at hResult
    · cases hResult
    · rename_i device hFound
      dsimp only at hResult
      obtain ⟨hValid, hNext⟩ := LanTrustFile.saveFile_eq_ok hResult
      have hDevice := LanTrustFile.deviceId_of_findDevice hFound
      rw [hNext]
      exact ⟨hValid, Effect.revoked rfl (LanTrustFile.scope_setDevice hFound hDevice)
        (LanTrustFile.findDevice_setDevice_self hFound hDevice)⟩

theorem effect_of_written {call : LanCall} (h : written file now call = .ok (reply, next)) :
    next.validate = .ok () ∧ Effect file now call reply next := by
  cases call with
  | issue => exact effect_of_issue h
  | accept => exact effect_of_accept h
  | trust => exact effect_of_trust h
  | rotate => exact effect_of_rotate h
  | authorize => exact effect_of_authorize h
  | revoke => exact effect_of_revoke h

end TrustCall

end HamLogger
