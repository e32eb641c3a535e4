import HamLogger.Library.KeyMap
import HamLogger.Library.Program
import HamLogger.Sync.TrustStore

/-! The handlers that pair a LAN peer, rotate its authentication credential and
revoke it. The secrets are in the credential store, and the devices that refer
to them in the trust file. -/
namespace HamLogger

open FileReplace (Cut Disk)
open JsonLanTrustStore (LanCall)
open Program

/-! The credential store of the platform. Its map of records is what it works
with; the file that it writes of them is only read at startup. -/

inductive CredentialStatus where
  | active | revoked | missing | invalid
  deriving DecidableEq

structure CredentialMetadata where
  providerId : String
  accountId : String
  label : String
  status : CredentialStatus
  deriving DecidableEq

/-- A fault of the call that stores a credential: nothing is stored, or the
record is there and its file could not be written. -/
inductive CredentialFault where
  | refused | notPersisted
  deriving DecidableEq

structure OsCredentialStore where
  records : KeyMap Uuid CredentialMetadata := ∅
  secrets : KeyMap Uuid String := ∅

namespace OsCredentialStore

def storeCredential (store : OsCredentialStore) (credentialId : Uuid)
    (metadata : CredentialMetadata) (secret : String) : OsCredentialStore where
  records := store.records.insert credentialId { metadata with status := .active }
  secrets := store.secrets.insert credentialId secret

/-- A failure to delete the secret is ignored, and so is one to write the
file. -/
def deleteCredential (store : OsCredentialStore) (credentialId : Uuid) (secretKept : Bool) :
    OsCredentialStore :=
  if (store.records.lookup credentialId).isNone then store
  else
    { records := store.records.erase credentialId
      secrets := if secretKept then store.secrets else store.secrets.erase credentialId }

/-- The secret of an active record. -/
def retrieveSecret (store : OsCredentialStore) (credentialId : Uuid) : Option String :=
  match store.records.lookup credentialId with
  | some metadata =>
      if metadata.status = .active then store.secrets.lookup credentialId else none
  | none => none

end OsCredentialStore

def lanSyncPeerProvider : String := "lan-sync-peer"

structure LanWorld where
  trust : Disk LanTrustFile := {}
  credentials : OsCredentialStore := {}

inductive LanPairingError where
  | permissionDenied
  | invalid (message : String)
  | noPeer
  | transport (message : String)
  | credential
  | trust (fault : TrustFault)
  deriving DecidableEq

/-- The peer that a request selects, and what it answers. -/
structure SelectedPeer where
  deviceId : Uuid
  displayName : String
  answer : Except String Unit

/-- What a handler meets: the permission, the clock, the identifiers it draws,
the peer, and which of its internal steps fail. -/
structure LanEnv where
  permitted : Bool := true
  now : DateTime
  credentialId : Uuid
  generatedCode : String := ""
  peer : Option SelectedPeer := none
  storeFault : Option CredentialFault := none
  secretKept : Bool := false
  cut : Option Cut := none

abbrev LanProgram (α : Type) := Program LanWorld LanPairingError α

structure LanPairingAcceptRequest where
  tokenId : Uuid
  pairingCode : String
  authCode : Option String
  peerDeviceId : Uuid
  peerDisplayName : String
  logbookId : Option Uuid
  publicKeyFingerprint : Option String

structure LanPairingCompleteRequest where
  tokenId : Uuid
  pairingCode : String
  authCode : Option String
  publicKeyFingerprint : Option String

def lanEndpointAuthCode (providedAuthCode : Option String) (pairingCode : String) :
    Except LanPairingError String :=
  match (providedAuthCode.map trim).filter fun code => code ≠ "" with
  | none => .error (.invalid "LAN endpoint auth code is required")
  | some authCode =>
      if authCode = trim pairingCode then
        .error (.invalid "LAN endpoint auth code must be distinct from the pairing code")
      else if authCode.utf8ByteSize < 32 then
        .error (.invalid "LAN auth code is too short for endpoint authentication")
      else .ok authCode

def lanEndpointAuthCodeOrGenerate (providedAuthCode : Option String)
    (pairingCode generated : String) : Except LanPairingError String :=
  match providedAuthCode with
  | some _ => lanEndpointAuthCode providedAuthCode pairingCode
  | none => .ok generated

section Handlers
variable [UuidCrate] [Sha2Crate]

def lanMetadata (peerDeviceId : Uuid) (peerDisplayName : String) : CredentialMetadata where
  providerId := lanSyncPeerProvider
  accountId := UuidCrate.display peerDeviceId
  label := "LAN sync auth for " ++ peerDisplayName
  status := .active

def storeLanAuthCredential (peerDeviceId : Uuid) (peerDisplayName secret : String)
    (env : LanEnv) : LanProgram Uuid :=
  Program.ofFunction fun world =>
    let stored : LanWorld :=
      { world with
        credentials := world.credentials.storeCredential env.credentialId
          (lanMetadata peerDeviceId peerDisplayName) (trim secret) }
    if (trim secret).utf8ByteSize < 32 then
      (world, .error (.invalid "LAN auth code is too short for endpoint authentication"))
    else match env.storeFault with
      | some .refused => (world, .error .credential)
      | some .notPersisted => (stored, .error .credential)
      | none => (stored, .ok env.credentialId)

def deleteLanAuthCredential (credentialId : Uuid) (env : LanEnv) : LanProgram Unit :=
  modify fun world =>
    { world with
      credentials := world.credentials.deleteCredential credentialId env.secretKept }

/-- A call of the trust store, whose save can be cut off. -/
def trustCall (call : TrustCall) (cut : Option Cut) : LanProgram TrustReply :=
  Program.ofFunction fun world =>
    match trustStore.perform call (trustStore.load world.trust) with
    | .error fault => (world, .error (.trust fault))
    | .ok (reply, none) => (world, .ok reply)
    | .ok (reply, some file) =>
        ({ world with trust := world.trust.replace file cut },
          if cut.isSome then .error (.trust (.error .io)) else .ok reply)

/-- A call of the trust store that refers to a new credential, which is deleted
again if the call fails. -/
def trustWith (call : LanCall) (credentialId : Uuid) (env : LanEnv) : LanProgram TrustReply := do
  match ← attempt some (trustCall (.write call env.now) env.cut) with
  | .ok reply => return reply
  | .error error => do
      deleteLanAuthCredential credentialId env
      throw error

/-- What an acceptance asks of the trust store. -/
def acceptCall (stateLogbookId : Uuid) (request : LanPairingAcceptRequest)
    (credentialId : Uuid) : LanCall :=
  .accept
    { tokenId := request.tokenId, pairingCode := trim request.pairingCode,
      peerDeviceId := request.peerDeviceId, peerDisplayName := request.peerDisplayName,
      requestedLogbooks := [request.logbookId.getD stateLogbookId],
      publicKeyFingerprint := request.publicKeyFingerprint,
      authCredentialId := some credentialId }

/-- What a completed pairing asks of the trust store. -/
def completeCall (stateLogbookId : Uuid) (request : LanPairingCompleteRequest)
    (peer : SelectedPeer) (credentialId : Uuid) : LanCall :=
  .trust
    { peerDeviceId := peer.deviceId, peerDisplayName := peer.displayName,
      logbookId := stateLogbookId, pairingTokenId := some request.tokenId,
      publicKeyFingerprint := request.publicKeyFingerprint,
      authCredentialId := credentialId }

def handleLanPairingAccept (stateLogbookId : Uuid) (request : LanPairingAcceptRequest)
    (env : LanEnv) : LanProgram TrustReply := do
  if !env.permitted then throw .permissionDenied
  else if trim request.pairingCode = "" then throw (.invalid "pairing code is required")
  else do
    let authCode ← reading fun _ =>
      lanEndpointAuthCode request.authCode (trim request.pairingCode)
    let credentialId ←
      storeLanAuthCredential request.peerDeviceId request.peerDisplayName authCode env
    trustWith (acceptCall stateLogbookId request credentialId) credentialId env

def handleLanPairingComplete (stateLogbookId : Uuid) (request : LanPairingCompleteRequest)
    (env : LanEnv) : LanProgram TrustReply := do
  if !env.permitted then throw .permissionDenied
  else match env.peer with
    | none => throw .noPeer
    | some peer =>
        if trim request.pairingCode = "" then throw (.invalid "pairing code is required")
        else do
          let authCode ← reading fun _ =>
            lanEndpointAuthCodeOrGenerate request.authCode (trim request.pairingCode)
              env.generatedCode
          reading fun _ => peer.answer.mapError LanPairingError.transport
          let credentialId ←
            storeLanAuthCredential peer.deviceId peer.displayName authCode env
          trustWith (completeCall stateLogbookId request peer credentialId) credentialId env

def handleLanAuthRotate (stateLogbookId deviceId : Uuid) (pairingCode : String) (env : LanEnv) :
    LanProgram TrustReply := do
  if !env.permitted then throw .permissionDenied
  else if trim pairingCode = "" then
    throw (.invalid "replacement LAN auth code is required")
  else do
    match ← trustCall (.trustedPeer deviceId stateLogbookId) none with
    | .device trusted =>
        let credentialId ←
          storeLanAuthCredential trusted.deviceId trusted.displayName (trim pairingCode) env
        match ← trustWith (.rotate trusted.deviceId stateLogbookId credentialId)
            credentialId env with
        | .rotation rotation => do
            if let some previous := rotation.previousAuthCredentialId then
              deleteLanAuthCredential previous env
            return .rotation rotation
        | reply => return reply
    | reply => return reply

def handleLanTrustRevoke (deviceId : Uuid) (env : LanEnv) : LanProgram TrustReply := do
  if !env.permitted then throw .permissionDenied
  else do
    match ← trustCall (.write (.revoke deviceId) env.now) env.cut with
    | .device device => do
        if let some credentialId := device.authCredentialId then
          deleteLanAuthCredential credentialId env
        return .device device
    | reply => return reply

/-- A request to one of the handlers, or a call of the trust store that names no
credential. -/
inductive LanRequest where
  | accept (request : LanPairingAcceptRequest)
  | complete (request : LanPairingCompleteRequest)
  | rotate (deviceId : Uuid) (pairingCode : String)
  | revoke (deviceId : Uuid)
  | issue (issuerDeviceId : Uuid) (issuerDisplayName : String) (approvedByOperator : Bool)
      (tokenId : Uuid) (pairingCode : String)
  | authorize (deviceId logbookId : Uuid) (replayNonce : String)

def LanRequest.handle (stateLogbookId : Uuid) (request : LanRequest) (env : LanEnv) :
    LanProgram TrustReply :=
  match request with
  | .accept request => handleLanPairingAccept stateLogbookId request env
  | .complete request => handleLanPairingComplete stateLogbookId request env
  | .rotate deviceId pairingCode => handleLanAuthRotate stateLogbookId deviceId pairingCode env
  | .revoke deviceId => handleLanTrustRevoke deviceId env
  | .issue issuerDeviceId issuerDisplayName approvedByOperator tokenId pairingCode =>
      trustCall (.write (.issue issuerDeviceId stateLogbookId issuerDisplayName
        approvedByOperator tokenId pairingCode) env.now) env.cut
  | .authorize deviceId logbookId replayNonce =>
      trustCall (.write (.authorize deviceId logbookId replayNonce) env.now) env.cut

end Handlers
end HamLogger
