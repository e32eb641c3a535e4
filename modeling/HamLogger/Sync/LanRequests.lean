import HamLogger.Server.SyncHandlers
import HamLogger.Sync.ConflictReview
import HamLogger.Sync.LanPairing
import HamLogger.Sync.QueueStore

/-! What the listener of the desktop client answers to other machines: the
identity probe, the signed reads, and the acceptance of a pairing. -/
namespace HamLogger

open FileReplace (Disk)

/-- HMAC-SHA256 of the hmac crate, with a key of any size. -/
class HmacCrate where
  mac : List UInt8 → List UInt8 → List UInt8

/-- An HTTP request. The parameters are those of the query of the target, and
the body is what decoding it as a pairing returns. -/
structure LanHttpRequest where
  method : String
  target : String
  params : KeyMap String String := ∅
  headers : KeyMap String String := ∅
  body : Option LanPairingAcceptRequest := none

/-- The target up to its query. -/
def LanHttpRequest.path (request : LanHttpRequest) : String :=
  String.ofList (request.target.toList.takeWhile (· ≠ '?'))

/-- What the listener works with. The session is everything that the state
payload copies and that is no record of the log, the queue, the trust store or
the reviews. -/
structure LanClient (Session : Type) where
  logbookId : Uuid
  allowRemoteControlApi : Bool := false
  store : InMemoryLogbookEventStore := {}
  queue : QueueDisk := {}
  reviews : Disk ConflictReviewFile := {}
  lan : LanWorld := {}
  session : Session
  warningCount : Nat := 0

structure SyncStatePayload (Session : Type) where
  session : Session
  localHead : LogbookHeadSummary
  offlineQueue : Outcome OfflineQueueError OfflineQueueSnapshot
  conflictReviews : Except ConflictReviewError ConflictReviewSnapshot
  lanTrust : Except TrustFault LanTrustSnapshot
  warningCount : Nat

inductive LanAuthError where
  | refused (message : String)
  | trust (fault : TrustFault)

/-- An answer. The endpoints of the local control plane are one answer here. -/
inductive LanHttpReply (Session : Type) where
  | rejected (status : Nat) (error : String)
  | unauthorized (error : LanAuthError)
  | state (payload : SyncStatePayload Session)
  | logbooks (logbooks : List LogbookHeadSummary)
  | head (summary : LogbookHeadSummary)
  | events (logbookId : Uuid) (events : List CoreEventEnvelope)
  | metadata (logbookId : Uuid) (events : List EventMetadata)
  | pairing (outcome : Except LanPairingError TrustReply)
  | control

/-! The guard of the listener. -/

def isLanPeerEndpoint (method path : String) : Bool :=
  decide ((method, path) ∈ [("GET", "/api/sync/state"), ("GET", "/api/sync/list-logbooks"),
    ("GET", "/api/sync/get-head"), ("GET", "/api/sync/events-since"),
    ("GET", "/api/sync/event-metadata"), ("POST", "/api/sync/lan/pairing-accept")])

def remoteRequestIsPermitted (allowRemoteControlApi requesterIsLoopback : Bool)
    (method path : String) : Bool :=
  allowRemoteControlApi || requesterIsLoopback || isLanPeerEndpoint method path

/-! The proof of a request. -/

structure LanEndpointAuth where
  deviceId : Uuid
  replayNonce : String
  signature : String

def isAsciiHexDigit (c : Char) : Bool :=
  ('0' ≤ c ∧ c ≤ '9') ∨ ('a' ≤ c ∧ c ≤ 'f') ∨ ('A' ≤ c ∧ c ≤ 'F')

/-- The trimmed value of a header, if it is there and not blank. -/
def visibleHeader (headers : KeyMap String String) (name : String) : Option String :=
  ((headers.lookup name).map trim).filter fun value => value ≠ ""

def lanEndpointAuthFromHeaders [UuidCrate] (headers : KeyMap String String) :
    Except String LanEndpointAuth :=
  match headers.lookup "x-ke8ygw-lan-device-id" with
  | none => .error "trusted LAN request is missing device id"
  | some text =>
      match UuidCrate.parseStr text with
      | none => .error "trusted LAN request device id is invalid"
      | some deviceId =>
          match visibleHeader headers "x-ke8ygw-lan-replay-nonce" with
          | none => .error "trusted LAN request is missing replay nonce"
          | some replayNonce =>
              if 128 < replayNonce.utf8ByteSize then
                .error "trusted LAN request replay nonce is too long"
              else
                match (headers.lookup "x-ke8ygw-lan-signature-version").map trim with
                | none => .error "trusted LAN request is missing signature version"
                | some version =>
                    if version ≠ "hmac-sha256-v1" then
                      .error "trusted LAN request signature version is unsupported"
                    else
                      match visibleHeader headers "x-ke8ygw-lan-signature" with
                      | none => .error "trusted LAN request is missing signature"
                      | some signature =>
                          if signature.utf8ByteSize ≠ 64 ∨
                              signature.toList.all isAsciiHexDigit = false then
                            .error "trusted LAN request signature is malformed"
                          else
                            .ok { deviceId := deviceId
                                  replayNonce := replayNonce
                                  signature := toAsciiLowercase signature }

def lanAuthSignature [UuidCrate] [HmacCrate] (secret : String) (deviceId logbookId : Uuid)
    (method target replayNonce : String) : String :=
  bytesToHex (HmacCrate.mac secret.toUTF8.toList ("\n".intercalate
    ["hmac-sha256-v1", UuidCrate.display deviceId, UuidCrate.display logbookId,
      toAsciiUppercase method, target, replayNonce]).toUTF8.toList)

section Handlers
variable {Session : Type} [UuidCrate] [Sha2Crate] [HmacCrate]

def requireLanEndpointAuth (client : LanClient Session) (request : LanHttpRequest)
    (logbookId : Uuid) (now : DateTime) : LanClient Session × Except LanAuthError Unit :=
  let refused (error : LanAuthError) : LanClient Session × Except LanAuthError Unit :=
    ({ client with warningCount := client.warningCount + 1 }, .error error)
  let loaded := trustStore.load client.lan.trust
  match lanEndpointAuthFromHeaders request.headers with
  | .error error => refused (.refused error)
  | .ok auth =>
      match loaded.bind fun file =>
          (file.trustedPeer auth.deviceId logbookId).mapError FileError.own with
      | .error fault => refused (.trust fault)
      | .ok trusted =>
          match trusted.authCredentialId with
          | none =>
              refused (.refused "trusted LAN device is missing endpoint auth credential")
          | some credentialId =>
              match client.lan.credentials.retrieveSecret credentialId with
              | none => refused (.refused "failed to retrieve LAN endpoint auth credential")
              | some secret =>
                  if lanAuthSignature secret auth.deviceId logbookId request.method
                      request.target auth.replayNonce ≠ auth.signature then
                    refused (.refused "trusted LAN request signature is invalid")
                  else
                    match loaded.bind fun file =>
                        (JsonLanTrustStore.authorizePeer file auth.deviceId logbookId
                          auth.replayNonce now).mapError FileError.own with
                    | .error fault => refused (.trust fault)
                    | .ok (_, file) =>
                        ({ client with
                            lan := { client.lan with
                              trust := client.lan.trust.replace file none } }, .ok ())

def logbookHeadSummary (client : LanClient Session) : LogbookHeadSummary where
  logbookId := client.logbookId
  headHash := client.store.getHead client.logbookId
  eventCount := some (client.store.listEvents client.logbookId).length

def syncStatePayload (client : LanClient Session) (now : DateTime) :
    SyncStatePayload Session where
  session := client.session
  localHead := logbookHeadSummary client
  offlineQueue := (JsonOfflineMutationQueue.loadSnapshot client.queue now).map fun loaded =>
    loaded.1
  conflictReviews := (JsonConflictReviewStore.readFile (client.reviews.contents {})).map
    fun file => snapshotFromReviews file.reviews
  lanTrust := (trustStore.load client.lan.trust).map LanTrustSnapshot.ofFile
  warningCount := client.warningCount

def requestedSyncLogbookId (client : LanClient Session) (request : LanHttpRequest) :
    Except (LanHttpReply Session) Uuid :=
  match (request.params.lookup "logbook_id").filter fun value => value ≠ "" with
  | none => .ok client.logbookId
  | some value =>
      match UuidCrate.parseStr value with
      | none => .error (.rejected 400 "invalid logbook_id")
      | some logbookId =>
          if logbookId ≠ client.logbookId then
            .error (.rejected 403 "requested logbook is not served by this peer")
          else .ok logbookId

/-- An answer that only an authorized request gets. -/
def signedRead (client : LanClient Session) (request : LanHttpRequest) (logbookId : Uuid)
    (now : DateTime) (answer : LanClient Session → LanHttpReply Session) :
    LanClient Session × LanHttpReply Session :=
  match requireLanEndpointAuth client request logbookId now with
  | (later, .error error) => (later, .unauthorized error)
  | (later, .ok ()) => (later, answer later)

/-- A signed read of the logbook that the request names. -/
def signedLogbookRead (client : LanClient Session) (request : LanHttpRequest) (now : DateTime)
    (answer : Uuid → LanClient Session → LanHttpReply Session) :
    LanClient Session × LanHttpReply Session :=
  match requestedSyncLogbookId client request with
  | .error reply => (client, reply)
  | .ok logbookId => signedRead client request logbookId now (answer logbookId)

def handleSyncListLogbooks (client : LanClient Session) (request : LanHttpRequest)
    (now : DateTime) : LanClient Session × LanHttpReply Session :=
  signedRead client request client.logbookId now fun later =>
    .logbooks [logbookHeadSummary later]

def handleSyncGetHead (client : LanClient Session) (request : LanHttpRequest) (now : DateTime) :
    LanClient Session × LanHttpReply Session :=
  signedLogbookRead client request now fun _ later => .head (logbookHeadSummary later)

/-- The events that a request asks for. -/
def eventsAfter (client : LanClient Session) (request : LanHttpRequest) (logbookId : Uuid) :
    List CoreEventEnvelope :=
  client.store.listEventsAfter logbookId
    ((request.params.lookup "after_hash").filter fun value => value ≠ "")

def handleSyncEventsSince (client : LanClient Session) (request : LanHttpRequest)
    (now : DateTime) : LanClient Session × LanHttpReply Session :=
  signedLogbookRead client request now fun logbookId later =>
    .events logbookId (eventsAfter later request logbookId)

def handleSyncEventMetadata (client : LanClient Session) (request : LanHttpRequest)
    (now : DateTime) : LanClient Session × LanHttpReply Session :=
  signedLogbookRead client request now fun logbookId later =>
    .metadata logbookId ((eventsAfter later request logbookId).map metadataForEvent)

/-- The pairing that a request carries. -/
def answerPairingAccept (client : LanClient Session) (request : LanHttpRequest) (env : LanEnv) :
    LanClient Session × LanHttpReply Session :=
  if env.permitted = false then (client, .pairing (.error .permissionDenied))
  else match request.body with
  | none => (client, .rejected 400 "invalid LAN pairing accept JSON")
  | some body =>
      let run := (handleLanPairingAccept client.logbookId body env).execute client.lan
      ({ client with lan := run.1 }, .pairing run.2)

/-- The routes of the listener. -/
def routeRequest (client : LanClient Session) (request : LanHttpRequest) (env : LanEnv) :
    LanClient Session × LanHttpReply Session :=
  if request.method = "GET" then
    if request.path = "/api/sync/state" then (client, .state (syncStatePayload client env.now))
    else if request.path = "/api/sync/list-logbooks" then
      handleSyncListLogbooks client request env.now
    else if request.path = "/api/sync/get-head" then handleSyncGetHead client request env.now
    else if request.path = "/api/sync/events-since" then
      handleSyncEventsSince client request env.now
    else if request.path = "/api/sync/event-metadata" then
      handleSyncEventMetadata client request env.now
    else (client, .control)
  else if request.method = "POST" ∧ request.path = "/api/sync/lan/pairing-accept" then
    answerPairingAccept client request env
  else (client, .control)

def handleClient (client : LanClient Session) (requesterIsLoopback : Bool)
    (request : LanHttpRequest) (env : LanEnv) : LanClient Session × LanHttpReply Session :=
  if remoteRequestIsPermitted client.allowRemoteControlApi requesterIsLoopback request.method
      request.path then
    routeRequest client request env
  else
    ({ client with warningCount := client.warningCount + 1 },
      .rejected 403 "local control endpoints are served to loopback requesters only")

end Handlers
end HamLogger
