import HamLogger.Core.Basic
import HamLogger.Library.Transition
import HamLogger.Library.UpdateFirst
import Mathlib.Tactic.SplitIfs

/-! The durable trust store of a LAN peer: pairing tokens, trusted devices,
and the nonces of requests that were authorized. A nonce is remembered for a
limited time only. -/
namespace HamLogger

open Transition (Run System)

def defaultPairingTokenTtlSeconds : Int := 10 * 60

def defaultReplayNonceTtlSeconds : Int := 10 * 60

def lanTrustFileVersion : UInt32 := 1

inductive LanTrustError where
  | unsupportedFileVersion (version : UInt32)
  | approvalRequired
  | pairingTokenNotFound
  | pairingTokenExpired
  | pairingTokenConsumed
  | pairingTokenMismatch
  | deviceNotFound (deviceId : Uuid)
  | deviceRevoked (deviceId : Uuid)
  | wrongLogbook (deviceId logbookId : Uuid)
  | replayDetected (deviceId : Uuid)
  | credentialUnchanged (deviceId : Uuid)
  deriving DecidableEq

def LanTrustError.toString [UuidCrate] : LanTrustError → String
  | .unsupportedFileVersion version =>
      "LAN trust file version " ++ Nat.repr version.toNat ++ " is not supported"
  | .approvalRequired => "operator approval is required before issuing a pairing token"
  | .pairingTokenNotFound => "pairing token was not found"
  | .pairingTokenExpired => "pairing token is expired"
  | .pairingTokenConsumed => "pairing token was already consumed"
  | .pairingTokenMismatch => "pairing token does not match"
  | .deviceNotFound deviceId =>
      "trusted device " ++ UuidCrate.display deviceId ++ " was not found"
  | .deviceRevoked deviceId => "trusted device " ++ UuidCrate.display deviceId ++ " is revoked"
  | .wrongLogbook deviceId logbookId =>
      "trusted device " ++ UuidCrate.display deviceId ++ " is not authorized for logbook " ++
        UuidCrate.display logbookId
  | .replayDetected deviceId =>
      "replay nonce was already used for device " ++ UuidCrate.display deviceId
  | .credentialUnchanged deviceId =>
      "replacement LAN auth credential for trusted device " ++ UuidCrate.display deviceId ++
        " matches the current credential"

structure IssuedPairingToken where
  tokenId : Uuid
  pairingCode : String
  expiresAt : DateTime
  deriving DecidableEq

structure PairingTokenRecord where
  tokenId : Uuid
  issuerDeviceId : Uuid
  logbookId : Uuid
  issuerDisplayName : String
  tokenHash : String
  createdAt : DateTime
  expiresAt : DateTime
  consumedAt : Option DateTime
  approvedByOperator : Bool
  deriving DecidableEq

structure TrustedPeerDevice where
  deviceId : Uuid
  displayName : String
  logbookIds : List Uuid
  trustedAt : DateTime
  revokedAt : Option DateTime
  pairingTokenId : Option Uuid
  publicKeyFingerprint : Option String
  authCredentialId : Option Uuid
  authRotatedAt : Option DateTime
  lastSeenAt : Option DateTime
  deriving DecidableEq

structure ReplayNonceRecord where
  deviceId : Uuid
  nonceHash : String
  seenAt : DateTime
  expiresAt : DateTime
  deriving DecidableEq

/-- The content of the trust file. -/
structure LanTrustFile where
  version : UInt32 := lanTrustFileVersion
  pairingTokens : List PairingTokenRecord := []
  trustedDevices : List TrustedPeerDevice := []
  replayNonces : List ReplayNonceRecord := []
  deriving DecidableEq

structure LanPairingAcceptance where
  tokenId : Uuid
  pairingCode : String
  peerDeviceId : Uuid
  peerDisplayName : String
  requestedLogbooks : List Uuid
  publicKeyFingerprint : Option String
  authCredentialId : Option Uuid

structure LanPeerTrustUpdate where
  peerDeviceId : Uuid
  peerDisplayName : String
  logbookId : Uuid
  pairingTokenId : Option Uuid
  publicKeyFingerprint : Option String
  authCredentialId : Uuid

structure LanAuthCredentialRotation where
  trustedDevice : TrustedPeerDevice
  previousAuthCredentialId : Option Uuid

namespace LanTrustFile

def validate (file : LanTrustFile) : Except LanTrustError Unit :=
  if file.version ≠ lanTrustFileVersion then .error (.unsupportedFileVersion file.version)
  else .ok ()

/-- The last step of every call that writes: the file is checked and replaces
the one on disk. -/
def saveFile {α : Type} (file : LanTrustFile) (result : α) :
    Outcome LanTrustError (α × LanTrustFile) :=
  match file.validate with
  | .error error => .error (.error error)
  | .ok () => .ok (result, file)

def upsertTrustedDevice (file : LanTrustFile) (device : TrustedPeerDevice) : LanTrustFile :=
  if file.trustedDevices.any fun existing => existing.deviceId = device.deviceId then
    { file with
      trustedDevices := updateFirst (fun existing => existing.deviceId = device.deviceId)
        (fun _ => device) file.trustedDevices }
  else { file with trustedDevices := file.trustedDevices ++ [device] }

def pruneExpiredNonces (file : LanTrustFile) (now : DateTime) : LanTrustFile :=
  { file with replayNonces := file.replayNonces.filter fun nonce => now ≤ nonce.expiresAt }

def findDevice (file : LanTrustFile) (deviceId : Uuid) : Option TrustedPeerDevice :=
  file.trustedDevices.find? fun device => device.deviceId = deviceId

def setDevice (file : LanTrustFile) (deviceId : Uuid) (device : TrustedPeerDevice) :
    LanTrustFile :=
  { file with
    trustedDevices := updateFirst (fun existing => existing.deviceId = deviceId)
      (fun _ => device) file.trustedDevices }

end LanTrustFile

section Hashes
variable [UuidCrate] [Sha2Crate]

def hexSha256 (text : String) : String :=
  bytesToHex (Sha2Crate.digest text.toUTF8.toList)

def pairingTokenHash (tokenId : Uuid) (pairingCode : String) : String :=
  hexSha256 (UuidCrate.display tokenId ++ ":" ++ pairingCode)

def replayNonceHash (deviceId : Uuid) (replayNonce : String) : String :=
  hexSha256 (UuidCrate.display deviceId ++ ":" ++ replayNonce)

end Hashes

/-! The operations. Each reads the trust file, and returns either its result
with the file it has written, or a fault with nothing written. -/
namespace JsonLanTrustStore
variable [UuidCrate] [Sha2Crate] (file : LanTrustFile)

/-- The token identifier and the pairing code are random inputs. -/
def issuePairingToken (issuerDeviceId logbookId : Uuid) (issuerDisplayName : String)
    (approvedByOperator : Bool) (now : DateTime) (tokenId : Uuid) (pairingCode : String) :
    Outcome LanTrustError (IssuedPairingToken × LanTrustFile) :=
  if approvedByOperator = false then .error (.error .approvalRequired)
  else match file.validate with
    | .error error => .error (.error error)
    | .ok () =>
        match now.addSeconds defaultPairingTokenTtlSeconds with
        | none => .error .panic
        | some expiresAt =>
            let record : PairingTokenRecord :=
              { tokenId := tokenId, issuerDeviceId := issuerDeviceId, logbookId := logbookId,
                issuerDisplayName := issuerDisplayName,
                tokenHash := pairingTokenHash tokenId pairingCode, createdAt := now,
                expiresAt := expiresAt, consumedAt := none,
                approvedByOperator := approvedByOperator }
            let next : LanTrustFile :=
              { file with pairingTokens := file.pairingTokens ++ [record] }
            next.saveFile
              { tokenId := tokenId, pairingCode := pairingCode, expiresAt := expiresAt }

def acceptPairingToken (request : LanPairingAcceptance) (now : DateTime) :
    Outcome LanTrustError (TrustedPeerDevice × LanTrustFile) :=
  match file.validate with
  | .error error => .error (.error error)
  | .ok () =>
      match file.pairingTokens.find? fun token => token.tokenId = request.tokenId with
      | none => .error (.error .pairingTokenNotFound)
      | some token =>
          if token.consumedAt.isSome then .error (.error .pairingTokenConsumed)
          else if token.expiresAt < now then .error (.error .pairingTokenExpired)
          else if token.tokenHash ≠ pairingTokenHash request.tokenId request.pairingCode then
            .error (.error .pairingTokenMismatch)
          else if token.logbookId ∉ request.requestedLogbooks then
            .error (.error (.wrongLogbook request.peerDeviceId token.logbookId))
          else
            let consumed : LanTrustFile :=
              { file with
                pairingTokens := updateFirst (fun token => token.tokenId = request.tokenId)
                  (fun token => { token with consumedAt := some now }) file.pairingTokens }
            let device : TrustedPeerDevice :=
              { deviceId := request.peerDeviceId, displayName := request.peerDisplayName,
                logbookIds := [token.logbookId], trustedAt := now, revokedAt := none,
                pairingTokenId := some request.tokenId,
                publicKeyFingerprint := request.publicKeyFingerprint,
                authCredentialId := request.authCredentialId, authRotatedAt := none,
                lastSeenAt := none }
            (consumed.upsertTrustedDevice device).saveFile device

def trustPeerWithAuthCredential (request : LanPeerTrustUpdate) (now : DateTime) :
    Outcome LanTrustError (TrustedPeerDevice × LanTrustFile) :=
  match file.validate with
  | .error error => .error (.error error)
  | .ok () =>
      let device : TrustedPeerDevice :=
        { deviceId := request.peerDeviceId, displayName := request.peerDisplayName,
          logbookIds := [request.logbookId], trustedAt := now, revokedAt := none,
          pairingTokenId := request.pairingTokenId,
          publicKeyFingerprint := request.publicKeyFingerprint,
          authCredentialId := some request.authCredentialId, authRotatedAt := none,
          lastSeenAt := none }
      (file.upsertTrustedDevice device).saveFile device

def rotateAuthCredential (deviceId logbookId newAuthCredentialId : Uuid) (now : DateTime) :
    Outcome LanTrustError (LanAuthCredentialRotation × LanTrustFile) :=
  match file.validate with
  | .error error => .error (.error error)
  | .ok () =>
      match file.findDevice deviceId with
      | none => .error (.error (.deviceNotFound deviceId))
      | some device =>
          if device.revokedAt.isSome then .error (.error (.deviceRevoked deviceId))
          else if logbookId ∉ device.logbookIds then
            .error (.error (.wrongLogbook deviceId logbookId))
          else if device.authCredentialId = some newAuthCredentialId then
            .error (.error (.credentialUnchanged deviceId))
          else
            let rotated : TrustedPeerDevice :=
              { device with authCredentialId := some newAuthCredentialId,
                            authRotatedAt := some now }
            (file.setDevice deviceId rotated).saveFile
              { trustedDevice := rotated, previousAuthCredentialId := device.authCredentialId }

/-- The sum of an instant and a duration panics outside the range of the
crate, here before anything is written. -/
def authorizePeer (deviceId logbookId : Uuid) (replayNonce : String) (now : DateTime) :
    Outcome LanTrustError (TrustedPeerDevice × LanTrustFile) :=
  match file.validate with
  | .error error => .error (.error error)
  | .ok () =>
      let pruned := file.pruneExpiredNonces now
      let nonceHash := replayNonceHash deviceId replayNonce
      if pruned.replayNonces.any fun nonce =>
          nonce.deviceId = deviceId ∧ nonce.nonceHash = nonceHash then
        .error (.error (.replayDetected deviceId))
      else match pruned.findDevice deviceId with
        | none => .error (.error (.deviceNotFound deviceId))
        | some device =>
            if device.revokedAt.isSome then .error (.error (.deviceRevoked deviceId))
            else if logbookId ∉ device.logbookIds then
              .error (.error (.wrongLogbook deviceId logbookId))
            else
              let authorized : TrustedPeerDevice := { device with lastSeenAt := some now }
              match now.addSeconds defaultReplayNonceTtlSeconds with
              | none => .error .panic
              | some expiresAt =>
                  let record : ReplayNonceRecord :=
                    { deviceId := deviceId, nonceHash := nonceHash, seenAt := now,
                      expiresAt := expiresAt }
                  let updated := pruned.setDevice deviceId authorized
                  let next : LanTrustFile :=
                    { updated with replayNonces := updated.replayNonces ++ [record] }
                  next.saveFile authorized

def revokeDevice (deviceId : Uuid) (now : DateTime) :
    Outcome LanTrustError (TrustedPeerDevice × LanTrustFile) :=
  match file.validate with
  | .error error => .error (.error error)
  | .ok () =>
      match file.findDevice deviceId with
      | none => .error (.error (.deviceNotFound deviceId))
      | some device =>
          let revoked : TrustedPeerDevice := { device with revokedAt := some now }
          (file.setDevice deviceId revoked).saveFile revoked

end JsonLanTrustStore
end HamLogger
