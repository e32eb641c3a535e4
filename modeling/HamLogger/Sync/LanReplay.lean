import HamLogger.Core.Crates
import HamLogger.Sync.LanTrust

/-! Replay protection of the trust store over whole runs: the nonce of an
authorized request is refused for as long as its record is kept, whatever
else happens to the store in between. -/
namespace HamLogger

open Transition (Run System)

namespace LanTrustFile

theorem saveFile_eq_ok {α : Type} {file next : LanTrustFile} {result saved : α}
    (h : file.saveFile result = .ok (saved, next)) :
    file.validate = .ok () ∧ next = file := by
  unfold saveFile at h
  split at h
  · cases h
  · rename_i hValid
    cases h
    exact ⟨hValid, rfl⟩

@[simp] theorem replayNonces_upsertTrustedDevice (file : LanTrustFile)
    (device : TrustedPeerDevice) :
    (file.upsertTrustedDevice device).replayNonces = file.replayNonces := by
  unfold upsertTrustedDevice
  split <;> rfl

end LanTrustFile

namespace JsonLanTrustStore

/-- A call of one of the operations that write the trust file. -/
inductive LanCall where
  | issue (issuerDeviceId logbookId : Uuid) (issuerDisplayName : String)
      (approvedByOperator : Bool) (tokenId : Uuid) (pairingCode : String)
  | accept (request : LanPairingAcceptance)
  | trust (request : LanPeerTrustUpdate)
  | rotate (deviceId logbookId newAuthCredentialId : Uuid)
  | authorize (deviceId logbookId : Uuid) (replayNonce : String)
  | revoke (deviceId : Uuid)

/-- The file that a call leaves: the one it has written, or the old one. -/
def fileAfter {α : Type} (file : LanTrustFile) :
    Outcome LanTrustError (α × LanTrustFile) → LanTrustFile
  | .ok (_, next) => next
  | .error _ => file

/-- The trust file and the time of the last call. -/
structure LanState where
  file : LanTrustFile
  clock : DateTime

/-- A call keeps the valid version of the file and every nonce record that
has not expired at its time. -/
structure KeepsNonces (now : DateTime) (file next : LanTrustFile) : Prop where
  version : file.validate = .ok () → next.validate = .ok ()
  records : ∀ record ∈ file.replayNonces, now ≤ record.expiresAt → record ∈ next.replayNonces

theorem KeepsNonces.refl (now : DateTime) (file : LanTrustFile) : KeepsNonces now file file :=
  ⟨id, fun _ hMem _ => hMem⟩

/-- A call that ends by saving a file with the same nonces keeps them. -/
theorem KeepsNonces.of_saveFile {α : Type} (now : DateTime) {file changed : LanTrustFile}
    (result : α) (hSame : changed.replayNonces = file.replayNonces) :
    KeepsNonces now file (fileAfter file (changed.saveFile result)) := by
  cases hSave : changed.saveFile result with
  | error fault => exact KeepsNonces.refl now file
  | ok saved =>
      obtain ⟨device, next⟩ := saved
      obtain ⟨hValid, rfl⟩ := LanTrustFile.saveFile_eq_ok hSave
      exact ⟨fun _ => hValid, fun record hMem _ => hSame ▸ hMem⟩

/-- Pruning drops expired records only. -/
theorem mem_pruneExpiredNonces {file : LanTrustFile} {now : DateTime}
    {record : ReplayNonceRecord} :
    record ∈ (file.pruneExpiredNonces now).replayNonces ↔
      record ∈ file.replayNonces ∧ now ≤ record.expiresAt := by
  simp [LanTrustFile.pruneExpiredNonces]

section Replay
variable [UuidCrate] [Sha2Crate]

def perform (file : LanTrustFile) (now : DateTime) : LanCall → LanTrustFile
  | .issue issuerDeviceId logbookId issuerDisplayName approvedByOperator tokenId pairingCode =>
      fileAfter file (issuePairingToken file issuerDeviceId logbookId issuerDisplayName
        approvedByOperator now tokenId pairingCode)
  | .accept request => fileAfter file (acceptPairingToken file request now)
  | .trust request => fileAfter file (trustPeerWithAuthCredential file request now)
  | .rotate deviceId logbookId newAuthCredentialId =>
      fileAfter file (rotateAuthCredential file deviceId logbookId newAuthCredentialId now)
  | .authorize deviceId logbookId replayNonce =>
      fileAfter file (authorizePeer file deviceId logbookId replayNonce now)
  | .revoke deviceId => fileAfter file (revokeDevice file deviceId now)

/-- A call at a time not before the last one. Where the file system fails,
the call returns an error and the file stays as it was. -/
def lanSystem : System LanState (LanCall × DateTime) where
  step state label next :=
    state.clock ≤ label.2 ∧ next.clock = label.2 ∧
      (next.file = perform state.file label.2 label.1 ∨ next.file = state.file)

/-- An authorization that succeeds records its nonce for the full time. -/
theorem authorizePeer_ok {file next : LanTrustFile} {deviceId logbookId : Uuid}
    {replayNonce : String} {now : DateTime} {device : TrustedPeerDevice}
    (h : authorizePeer file deviceId logbookId replayNonce now = .ok (device, next)) :
    next.validate = .ok () ∧
    (∀ record ∈ (file.pruneExpiredNonces now).replayNonces, record ∈ next.replayNonces) ∧
    ∃ record ∈ next.replayNonces, record.deviceId = deviceId ∧
      record.nonceHash = replayNonceHash deviceId replayNonce ∧
      now.addSeconds defaultReplayNonceTtlSeconds = some record.expiresAt := by
  unfold authorizePeer at h
  split at h
  · cases h
  · dsimp only at h
    split at h
    · cases h
    · split at h
      · cases h
      · split at h
        · cases h
        · split at h
          · cases h
          · split at h
            · cases h
            · rename_i expiresAt hExpires
              obtain ⟨hValid, rfl⟩ := LanTrustFile.saveFile_eq_ok h
              refine ⟨hValid, ?_, ?_⟩
              · intro record hMem
                exact List.mem_append_left _ hMem
              · exact ⟨_, List.mem_append_right _ (List.mem_singleton.mpr rfl), rfl, rfl, hExpires⟩

/-- A nonce whose record has not expired is refused. -/
theorem authorizePeer_replay {file : LanTrustFile} {deviceId : Uuid} {replayNonce : String}
    {now : DateTime} {record : ReplayNonceRecord} (hValid : file.validate = .ok ())
    (hMem : record ∈ file.replayNonces) (hDevice : record.deviceId = deviceId)
    (hHash : record.nonceHash = replayNonceHash deviceId replayNonce)
    (hExpires : now ≤ record.expiresAt) (logbookId : Uuid) :
    authorizePeer file deviceId logbookId replayNonce now =
      .error (.error (.replayDetected deviceId)) := by
  have hKept := mem_pruneExpiredNonces.mpr ⟨hMem, hExpires⟩
  have hSeen : ((file.pruneExpiredNonces now).replayNonces.any fun nonce =>
      nonce.deviceId = deviceId ∧ nonce.nonceHash = replayNonceHash deviceId replayNonce) =
        true := by
    rw [List.any_eq_true]
    exact ⟨record, hKept, by simp [hDevice, hHash]⟩
  simp only [authorizePeer, hValid, hSeen, if_true]

/-- What one call does to the remembered nonces. -/
theorem perform_keeps (file : LanTrustFile) (now : DateTime) (call : LanCall) :
    KeepsNonces now file (perform file now call) := by
  cases call with
  | issue issuerDeviceId logbookId issuerDisplayName approvedByOperator tokenId pairingCode =>
      show KeepsNonces now file (fileAfter file (issuePairingToken file issuerDeviceId logbookId
        issuerDisplayName approvedByOperator now tokenId pairingCode))
      unfold issuePairingToken
      repeat' split
      all_goals first
        | exact KeepsNonces.refl now file
        | exact KeepsNonces.of_saveFile now _ rfl
  | accept request =>
      show KeepsNonces now file (fileAfter file (acceptPairingToken file request now))
      unfold acceptPairingToken
      repeat' split
      all_goals first
        | exact KeepsNonces.refl now file
        | exact KeepsNonces.of_saveFile now _ (LanTrustFile.replayNonces_upsertTrustedDevice ..)
  | trust request =>
      show KeepsNonces now file (fileAfter file (trustPeerWithAuthCredential file request now))
      unfold trustPeerWithAuthCredential
      split
      · exact KeepsNonces.refl now file
      · exact KeepsNonces.of_saveFile now _ (LanTrustFile.replayNonces_upsertTrustedDevice ..)
  | rotate deviceId logbookId newAuthCredentialId =>
      show KeepsNonces now file (fileAfter file (rotateAuthCredential file deviceId logbookId
        newAuthCredentialId now))
      unfold rotateAuthCredential
      repeat' split
      all_goals first
        | exact KeepsNonces.refl now file
        | exact KeepsNonces.of_saveFile now _ rfl
  | authorize deviceId logbookId replayNonce =>
      cases hAuth : authorizePeer file deviceId logbookId replayNonce now with
      | error fault =>
          rw [perform, hAuth]
          exact KeepsNonces.refl now file
      | ok result =>
          obtain ⟨device, next⟩ := result
          obtain ⟨hValid, hKept, _⟩ := authorizePeer_ok hAuth
          rw [perform, hAuth]
          exact ⟨fun _ => hValid, fun record hMem hExpires =>
            hKept record (mem_pruneExpiredNonces.mpr ⟨hMem, hExpires⟩)⟩
  | revoke deviceId =>
      show KeepsNonces now file (fileAfter file (revokeDevice file deviceId now))
      unfold revokeDevice
      repeat' split
      all_goals first
        | exact KeepsNonces.refl now file
        | exact KeepsNonces.of_saveFile now _ rfl

/-- A record survives every run that ends before it expires. -/
theorem record_survives {start finish : LanState} {calls : List (LanCall × DateTime)}
    (run : Run lanSystem start calls finish) {record : ReplayNonceRecord}
    (hValid : start.file.validate = .ok ()) (hMem : record ∈ start.file.replayNonces)
    (hTime : finish.clock ≤ record.expiresAt) :
    finish.file.validate = .ok () ∧ record ∈ finish.file.replayNonces := by
  induction run with
  | nil => exact ⟨hValid, hMem⟩
  | @snoc middle finish labels label prior last ih =>
      obtain ⟨hLater, hClock, hFile⟩ := last
      have hMiddle : middle.clock ≤ record.expiresAt := by
        rw [hClock] at hTime
        exact Int.le_trans hLater hTime
      obtain ⟨hValidMiddle, hMemMiddle⟩ := ih hMiddle
      rcases hFile with hPerformed | hFailed
      · have hKeeps := perform_keeps middle.file label.2 label.1
        rw [hPerformed]
        rw [hClock] at hTime
        exact ⟨hKeeps.version hValidMiddle, hKeeps.records record hMemMiddle hTime⟩
      · rw [hFailed]
        exact ⟨hValidMiddle, hMemMiddle⟩

end Replay

/-- A peer device that is trusted for one logbook. -/
def samplePeer : LanPeerTrustUpdate where
  peerDeviceId := 1
  peerDisplayName := "Field laptop"
  logbookId := 2
  pairingTokenId := none
  publicKeyFingerprint := none
  authCredentialId := 3

end JsonLanTrustStore
end HamLogger
