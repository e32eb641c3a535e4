import HamLogger.Core.Crates
import HamLogger.Library.CallTrace
import HamLogger.Library.Transition
import HamLogger.Sync.LanPairing
import HamLogger.Sync.Pull
import HamLogger.Server.SyncHandlers
import Mathlib.Data.List.Sort

/-! The peers that discovery has found, and the four handlers that work with
one of them: the handshake, the preview of a pull, the pull, and the completion
of a pairing. A handler is modelled by the calls it makes, with any answer. What
the calls do to the credentials, the trust file and the log is modelled where
those are. -/
namespace HamLogger

open CallTrace

/-- An address with a port. -/
inductive SocketAddr where
  | v4 (ip : BitVec 32) (port : UInt16)
  | v6 (ip : BitVec 128) (port : UInt16) (flowInfo scopeId : UInt32)
  deriving DecidableEq

namespace SocketAddr

/-- The same address with another port. -/
def withPort (port : UInt16) : SocketAddr → SocketAddr
  | v4 ip _ => v4 ip port
  | v6 ip _ _ _ => v6 ip port 0 0

/-- Loopback and private addresses come first, public ones last. -/
def lanApiAddressRank : SocketAddr → Nat
  | v4 ip _ =>
      let octets := (ip.toNat / 2 ^ 24, ip.toNat / 2 ^ 16 % 256)
      if octets.1 = 127 then 0
      else if octets.1 = 10 ∨ octets.1 = 172 ∧ 16 ≤ octets.2 ∧ octets.2 ≤ 31 ∨
          octets.1 = 192 ∧ octets.2 = 168 then 1
      else if octets.1 = 169 ∧ octets.2 = 254 then 2
      else 9
  | v6 ip _ _ scopeId =>
      let segment := ip.toNat / 2 ^ 112
      if segment / 2 ^ 9 = 0xfc00 / 2 ^ 9 then 3
      else if segment / 2 ^ 6 = 0xfe80 / 2 ^ 6 ∧ scopeId ≠ 0 then 4
      else if ip = 1 then 5
      else 8

end SocketAddr

inductive PeerConnectionState where
  | discovered | handshaking | connected | unreachable | expired
  deriving DecidableEq

inductive PeerSyncState where
  | unknown | inSync | diverged | localAhead | remoteAhead
  deriving DecidableEq

structure PeerRecord where
  peerId : String
  deviceId : Uuid
  sessionId : Uuid
  displayName : String
  addresses : List SocketAddr
  protocolVersion : UInt16
  capabilities : List String
  firstSeen : DateTime
  lastSeen : DateTime
  connectionState : PeerConnectionState
  syncState : PeerSyncState
  deriving DecidableEq

structure DiscoveryPacket where
  protocolName : String
  protocolVersion : UInt16
  deviceId : Uuid
  sessionId : Uuid
  displayName : String
  capabilities : List String
  localApiPort : Option UInt16

/-- The device and the session of this client. -/
structure LocalPeerIdentity where
  deviceId : Uuid
  sessionId : Uuid
  displayName : String

def protocolName : String := "ke8ygw-logger-sync"

def protocolVersion : UInt16 := 1

def DiscoveryPacket.peerId [UuidCrate] (packet : DiscoveryPacket) : String :=
  UuidCrate.display packet.deviceId ++ ":" ++ UuidCrate.display packet.sessionId

abbrev PeerRegistry := KeyMap String PeerRecord

namespace PeerRegistry

def observe [UuidCrate] (registry : PeerRegistry) (identity : LocalPeerIdentity)
    (packet : DiscoveryPacket) (address : SocketAddr) (now : DateTime) : PeerRegistry :=
  if packet.protocolName ≠ protocolName ∨ packet.protocolVersion ≠ protocolVersion then registry
  else if packet.deviceId = identity.deviceId ∧ packet.sessionId = identity.sessionId then registry
  else
    let address := match packet.localApiPort with
      | some port => address.withPort port
      | none => address
    match registry.lookup packet.peerId with
    | some peer =>
        registry.insert packet.peerId
          { peer with
            addresses :=
              if address ∈ peer.addresses then peer.addresses else peer.addresses ++ [address]
            displayName := packet.displayName
            capabilities := packet.capabilities
            lastSeen := now
            connectionState := .discovered }
    | none =>
        registry.insert packet.peerId
          { peerId := packet.peerId
            deviceId := packet.deviceId
            sessionId := packet.sessionId
            displayName := packet.displayName
            addresses := [address]
            protocolVersion := packet.protocolVersion
            capabilities := packet.capabilities
            firstSeen := now
            lastSeen := now
            connectionState := .discovered
            syncState := .unknown }

/-- Peers that were not seen for a time, in nanoseconds, are marked and stay. -/
def expireStale (registry : PeerRegistry) (now : DateTime) (timeout : Int) : PeerRegistry :=
  registry.mapValues fun peer =>
    if timeout < now.nanos - peer.lastSeen.nanos ∧ peer.connectionState ≠ .expired then
      { peer with connectionState := .expired, syncState := .unknown }
    else peer

/-- What `list` may return: the peers in the order of their names. Those of one
name stand in the order of the hash map. -/
structure Listed (registry : PeerRegistry) (peers : List PeerRecord) : Prop where
  perm : peers.Perm registry.values
  sorted : peers.Pairwise fun first second => first.displayName ≤ second.displayName

end PeerRegistry

def selectedPeerRecord (peers : List PeerRecord) (requested : Option String) :
    Option PeerRecord :=
  (requested.bind fun requested => peers.find? fun peer => peer.peerId = requested).or peers.head?

/-! The handlers. -/

structure HandshakePeerRequest where
  peerId : Option String := none
  replayNonce : Option String := none

structure PairingCompleteRequest extends LanPairingCompleteRequest where
  peerId : Option String

structure HandshakeRequest where
  protocolVersion : UInt16
  deviceId : Uuid
  sessionId : Uuid
  supportedCapabilities : List String
  logbooks : List LogbookHeadSummary

/-- A call of a handler: a request to an address, in the name of a device where
it is signed, or a call of a part of this client. -/
inductive PeerCall where
  | getHead (address : SocketAddr) (deviceId : Uuid)
  | eventsSince (address : SocketAddr) (deviceId : Uuid)
  | pairingAccept (address : SocketAddr) (request : LanPairingAcceptRequest)
  | storeCredential (deviceId : Uuid) (displayName secret : String)
  | deleteCredential (credentialId : Uuid)
  | trust (update : LanPeerTrustUpdate)
  | authorize (deviceId logbookId : Uuid) (replayNonce : String)
  | compareHeads (request : HandshakeRequest)
  | previewPull (peerId : String) (remoteEvents : List CoreEventEnvelope)
  | pullMissing (peerId : String) (remoteEvents : List CoreEventEnvelope)

inductive PeerFailure where
  | permissionDenied
  | invalid (message : String)
  | noPeer
  | transport (message : String)
  | internal (message : String)
  deriving DecidableEq

/-- What a handler meets, and the answers to its calls. -/
structure PeerEnv where
  permitted : Bool := true
  logbookId : Uuid
  identity : LocalPeerIdentity
  generatedCode : String := ""
  /-- A request to a device is signed with its credential, if there is one. -/
  signed : Uuid → Except String Unit
  head : SocketAddr → Except String LogbookHeadSummary
  events : SocketAddr → Except String (Uuid × List CoreEventEnvelope)
  accept : SocketAddr → Except String Unit
  stored : Except String Uuid
  trusted : Except String Unit
  authorized : Except String Unit
  demoRemoteEvents : List CoreEventEnvelope := []

/-- A handler over the calls it has made so far. -/
abbrev PeerProgram (α : Type) := Program (List PeerCall) PeerFailure α

def sortedPeerApiAddresses (peer : PeerRecord) : List SocketAddr :=
  peer.addresses.insertionSort fun first second =>
    first.lanApiAddressRank ≤ second.lanApiAddressRank

/-- Ask one address after the other up to the first answer. -/
def firstAnswer {α : Type} (ask : SocketAddr → PeerProgram (Except String α)) :
    List SocketAddr → Option String → PeerProgram (Except (Option String) α)
  | [], lastError => pure (.error lastError)
  | address :: rest, _ => do
      match ← ask address with
      | .ok value => pure (.ok value)
      | .error error => firstAnswer ask rest (some error)

def noUsableAddresses : String := "LAN peer has no usable API addresses"

def demoPeerDeviceId : Uuid := 0x00000000000040008000000000000000aa

def isDemoPeer (peer : PeerRecord) : Bool :=
  peer.deviceId = demoPeerDeviceId

section Handlers
variable [UuidCrate] (env : PeerEnv)

def fetchLanPeerHead (deviceId : Uuid) (address : SocketAddr) :
    PeerProgram (Except String LogbookHeadSummary) := do
  match env.signed deviceId with
  | .error error => pure (.error error)
  | .ok () =>
      makeCall (.getHead address deviceId)
      pure do
        let response ← env.head address
        if response.logbookId ≠ env.logbookId then
          throw ("LAN peer returned head for logbook " ++ UuidCrate.display response.logbookId ++
            ", expected " ++ UuidCrate.display env.logbookId)
        else return response

def fetchLanPeerEvents (deviceId : Uuid) (address : SocketAddr) :
    PeerProgram (Except String (List CoreEventEnvelope)) := do
  match env.signed deviceId with
  | .error error => pure (.error error)
  | .ok () =>
      makeCall (.eventsSince address deviceId)
      pure do
        let (logbookId, events) ← env.events address
        if logbookId ≠ env.logbookId then
          throw ("LAN peer returned events for logbook " ++ UuidCrate.display logbookId ++
            ", expected " ++ UuidCrate.display env.logbookId)
        else return events

def postLanPeerPairingAccept (request : LanPairingAcceptRequest) (address : SocketAddr) :
    PeerProgram (Except String Unit) := do
  makeCall (.pairingAccept address request)
  pure (env.accept address)

def remoteHeadForPeer (peer : PeerRecord) : PeerProgram (Except String LogbookHeadSummary) := do
  match ← firstAnswer (fetchLanPeerHead env peer.deviceId) (sortedPeerApiAddresses peer) none with
  | .ok head => pure (.ok head)
  | .error lastError =>
      if isDemoPeer peer then
        pure (.ok {
          logbookId := env.logbookId
          headHash := env.demoRemoteEvents.getLast?.map CoreEventEnvelope.eventHash
          eventCount := some env.demoRemoteEvents.length })
      else pure (.error (lastError.getD noUsableAddresses))

def remoteEventsForPeer (peer : PeerRecord) :
    PeerProgram (Except String (List CoreEventEnvelope)) := do
  match ← firstAnswer (fetchLanPeerEvents env peer.deviceId) (sortedPeerApiAddresses peer)
      none with
  | .ok events => pure (.ok events)
  | .error lastError =>
      if isDemoPeer peer then pure (.ok env.demoRemoteEvents)
      else pure (.error (lastError.getD noUsableAddresses))

variable (peers : List PeerRecord)

def handleSyncHandshake (request : HandshakePeerRequest) : PeerProgram Unit := do
  match selectedPeerRecord peers request.peerId with
  | none => throw .noPeer
  | some peer => do
      let result ← remoteHeadForPeer env peer
      let remoteHead ← orFail .transport result
      makeCall (.compareHeads
        { protocolVersion := protocolVersion
          deviceId := peer.deviceId
          sessionId := peer.sessionId
          supportedCapabilities := peer.capabilities
          logbooks := [remoteHead] })

def handleSyncPreviewPull (request : HandshakePeerRequest) : PeerProgram Unit := do
  if !env.permitted then throw .permissionDenied
  else match selectedPeerRecord peers request.peerId with
    | none => throw .noPeer
    | some peer => do
        let result ← remoteEventsForPeer env peer
        let remoteEvents ← orFail .transport result
        makeCall (.previewPull peer.peerId remoteEvents)

def handleSyncPullEvents (request : HandshakePeerRequest) : PeerProgram Unit := do
  if !env.permitted then throw .permissionDenied
  else match selectedPeerRecord peers request.peerId with
    | none => throw .noPeer
    | some peer =>
        match request.replayNonce.filter fun nonce => nonce ≠ "" with
        | none => throw (.invalid "trusted LAN pull requires a replay nonce")
        | some replayNonce => do
            makeCall (.authorize peer.deviceId env.logbookId replayNonce)
            orFail .invalid env.authorized
            let result ← remoteEventsForPeer env peer
            let remoteEvents ← orFail .transport result
            makeCall (.pullMissing peer.peerId remoteEvents)

def handlePairingComplete (request : PairingCompleteRequest) : PeerProgram Unit := do
  if !env.permitted then throw .permissionDenied
  else match selectedPeerRecord peers request.peerId with
    | none => throw .noPeer
    | some peer =>
        let pairingCode := trim request.pairingCode
        if pairingCode = "" then throw (.invalid "pairing code is required")
        else match lanEndpointAuthCodeOrGenerate request.authCode pairingCode env.generatedCode with
          | .error (.invalid message) => throw (.invalid message)
          | .error _ => throw (.invalid "")
          | .ok authCode => do
              let remoteAccept : LanPairingAcceptRequest :=
                { tokenId := request.tokenId
                  pairingCode := pairingCode
                  authCode := some authCode
                  peerDeviceId := env.identity.deviceId
                  peerDisplayName := env.identity.displayName
                  logbookId := some env.logbookId
                  publicKeyFingerprint := request.publicKeyFingerprint }
              let result ← firstAnswer (postLanPeerPairingAccept env remoteAccept)
                (sortedPeerApiAddresses peer) none
              orFail .transport (result.mapError fun lastError => lastError.getD noUsableAddresses)
              makeCall (.storeCredential peer.deviceId peer.displayName authCode)
              let authCredentialId ← orFail .internal env.stored
              makeCall (.trust
                { peerDeviceId := peer.deviceId
                  peerDisplayName := peer.displayName
                  logbookId := env.logbookId
                  pairingTokenId := some request.tokenId
                  publicKeyFingerprint := request.publicKeyFingerprint
                  authCredentialId := authCredentialId })
              match env.trusted with
              | .ok () => pure ()
              | .error error => do
                  makeCall (.deleteCredential authCredentialId)
                  throw (.invalid error)

/-- A request that works with a peer. -/
inductive PeerRequest where
  | handshake (request : HandshakePeerRequest)
  | previewPull (request : HandshakePeerRequest)
  | pullEvents (request : HandshakePeerRequest)
  | pairingComplete (request : PairingCompleteRequest)

def PeerRequest.peerId : PeerRequest → Option String
  | .handshake request | .previewPull request | .pullEvents request => request.peerId
  | .pairingComplete request => request.peerId

def PeerRequest.handle (request : PeerRequest) : PeerProgram Unit :=
  match request with
  | .handshake request => handleSyncHandshake env peers request
  | .previewPull request => handleSyncPreviewPull env peers request
  | .pullEvents request => handleSyncPullEvents env peers request
  | .pairingComplete request => handlePairingComplete env peers request

end Handlers

end HamLogger
