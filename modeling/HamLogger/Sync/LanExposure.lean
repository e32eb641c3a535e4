import HamLogger.Core.Crates
import HamLogger.Sync.LanRequests

/-! What a machine that is not paired learns from the listener. The log is
behind the signed reads; the state payload is for everyone and copies the
queue, the reviews and the trust records. -/
namespace HamLogger

open FileReplace (Disk)

section Guard

/-- Other machines reach the probe, the signed reads and the pairing only. -/
theorem isLanPeerEndpoint_iff (method path : String) :
    isLanPeerEndpoint method path = true ↔
      method = "GET" ∧ path ∈ ["/api/sync/state", "/api/sync/list-logbooks", "/api/sync/get-head",
        "/api/sync/events-since", "/api/sync/event-metadata"] ∨
      method = "POST" ∧ path = "/api/sync/lan/pairing-accept" := by
  unfold isLanPeerEndpoint
  simp only [decide_eq_true_eq, List.mem_cons, Prod.mk.injEq, List.not_mem_nil, or_false]
  tauto

end Guard

section Reads
variable {Session : Type} [UuidCrate] [Sha2Crate] [HmacCrate]

/-- An answer from the log, or one of the local control plane. -/
def LanHttpReply.isRead : LanHttpReply Session → Bool
  | .logbooks _ | .head _ | .events _ _ | .metadata _ _ | .control => true
  | .rejected _ _ | .unauthorized _ | .state _ | .pairing _ => false

/-- The proof of the request was accepted for a logbook. -/
def LanAuthorized (client : LanClient Session) (request : LanHttpRequest) (now : DateTime) : Prop :=
  ∃ later logbookId, requireLanEndpointAuth client request logbookId now = (later, .ok ())

variable {client : LanClient Session} {request : LanHttpRequest}

theorem signedRead_read {logbookId : Uuid} {now : DateTime}
    {answer : LanClient Session → LanHttpReply Session}
    (h : (signedRead client request logbookId now answer).2.isRead = true) :
    LanAuthorized client request now := by
  unfold signedRead at h
  rcases hAuth : requireLanEndpointAuth client request logbookId now with ⟨later, error | passed⟩
  · rw [hAuth] at h
    cases h
  · exact ⟨later, logbookId, hAuth⟩

theorem signedLogbookRead_read {now : DateTime}
    {answer : Uuid → LanClient Session → LanHttpReply Session}
    (h : (signedLogbookRead client request now answer).2.isRead = true) :
    LanAuthorized client request now := by
  unfold signedLogbookRead requestedSyncLogbookId at h
  cases hNamed : (request.params.lookup "logbook_id").filter fun value => value ≠ "" with
  | none =>
      rw [hNamed] at h
      exact signedRead_read h
  | some value =>
      rw [hNamed] at h
      dsimp only at h
      cases hParsed : UuidCrate.parseStr value with
      | none =>
          rw [hParsed] at h
          cases h
      | some logbookId =>
          rw [hParsed] at h
          dsimp only at h
          split at h
          · rename_i hReply
            split at hReply
            · cases hReply
              cases h
            · cases hReply
          · exact signedRead_read h

/-- Another machine reads the log only with an accepted proof. -/
theorem handleClient_read {env : LanEnv} (hLocal : client.allowRemoteControlApi = false)
    (h : (handleClient client false request env).2.isRead = true) :
    LanAuthorized client request env.now := by
  unfold handleClient at h
  split at h
  · rename_i hPermitted
    unfold remoteRequestIsPermitted at hPermitted
    rw [hLocal, Bool.false_or, Bool.false_or, isLanPeerEndpoint_iff] at hPermitted
    unfold routeRequest at h
    rcases hPermitted with ⟨hMethod, hPath⟩ | ⟨hMethod, hPath⟩
    · rw [if_pos hMethod] at h
      split at h
      · cases h
      split at h
      · exact signedRead_read h
      split at h
      · exact signedLogbookRead_read h
      split at h
      · exact signedLogbookRead_read h
      split at h
      · exact signedLogbookRead_read h
      · rename_i hState hList hHead hSince hMetadata
        simp [hState, hList, hHead, hSince, hMetadata] at hPath
    · rw [if_neg (by simp [hMethod]), if_pos ⟨hMethod, hPath⟩] at h
      unfold answerPairingAccept at h
      split at h
      · cases h
      split at h
      · cases h
      · cases h
  · cases h

end Reads

/-- What is copied whole can be told apart by its copies. -/
theorem map_eq_map_iff {Failure α β : Type} {copy : α → β} (hCopy : Function.Injective copy)
    {first second : Except Failure α} : first.map copy = second.map copy ↔ first = second := by
  constructor
  · intro h
    cases first with
    | error failure =>
        cases second with
        | error other => exact congrArg Except.error (Except.error.inj h)
        | ok value => cases h
    | ok value =>
        cases second with
        | error other => cases h
        | ok other => exact congrArg Except.ok (hCopy (Except.ok.inj h))
  · exact congrArg _

theorem queue_snapshot_iff {first second : QueueDisk} {now : DateTime} :
    ((JsonOfflineMutationQueue.loadSnapshot first now).map fun loaded => loaded.1) =
        ((JsonOfflineMutationQueue.loadSnapshot second now).map fun loaded => loaded.1) ↔
      (JsonOfflineMutationQueue.loadFile first).map OfflineQueueFile.mutations =
        (JsonOfflineMutationQueue.loadFile second).map OfflineQueueFile.mutations := by
  have hLoaded : ∀ disk : QueueDisk,
      ((JsonOfflineMutationQueue.loadSnapshot disk now).map fun loaded => loaded.1) =
        ((JsonOfflineMutationQueue.loadFile disk).map OfflineQueueFile.mutations).map
          (snapshotFromFile · now) := by
    intro disk
    unfold JsonOfflineMutationQueue.loadSnapshot
    cases JsonOfflineMutationQueue.loadFile disk with
    | error fault => rfl
    | ok file => rfl
  rw [hLoaded, hLoaded]
  apply map_eq_map_iff
  intro left right hSame
  exact congrArg OfflineQueueSnapshot.mutations hSame

theorem reviews_snapshot_iff {first second : Except ConflictReviewError ConflictReviewFile} :
    (first.map fun file => snapshotFromReviews file.reviews) =
        (second.map fun file => snapshotFromReviews file.reviews) ↔
      first.map ConflictReviewFile.reviews = second.map ConflictReviewFile.reviews := by
  have hSplit : ∀ outcome : Except ConflictReviewError ConflictReviewFile,
      (outcome.map fun file => snapshotFromReviews file.reviews) =
        (outcome.map ConflictReviewFile.reviews).map snapshotFromReviews := by
    intro outcome
    cases outcome with
    | error error => rfl
    | ok file => rfl
  rw [hSplit, hSplit]
  apply map_eq_map_iff
  intro left right hSame
  exact congrArg ConflictReviewSnapshot.reviews hSame

section Probe
variable {Session : Type}

/-- A payload without the hash and the count of the head. -/
def SyncStatePayload.withoutHead (payload : SyncStatePayload Session) :
    SyncStatePayload Session :=
  { payload with localHead := { payload.localHead with headHash := none, eventCount := none } }

/-- An answer without the hash and the count of the head in a state payload. -/
def LanHttpReply.withoutHead : LanHttpReply Session → LanHttpReply Session
  | .state payload => .state payload.withoutHead
  | reply => reply

/-- Two clients that differ in the log, the queue, the trust records and the
reviews only. -/
structure SameElsewhere (first second : LanClient Session) : Prop where
  logbookId : first.logbookId = second.logbookId
  allowRemoteControlApi : first.allowRemoteControlApi = second.allowRemoteControlApi
  credentials : first.lan.credentials = second.lan.credentials
  session : first.session = second.session
  warningCount : first.warningCount = second.warningCount

variable [UuidCrate] [Sha2Crate]

/-- The queues list the same mutations, the review stores the same reviews, and
the trust stores the same tokens, but for their hashes, and the same devices. -/
structure SameRecords (first second : LanClient Session) : Prop where
  queue : (JsonOfflineMutationQueue.loadFile first.queue).map OfflineQueueFile.mutations =
    (JsonOfflineMutationQueue.loadFile second.queue).map OfflineQueueFile.mutations
  reviews :
    (JsonConflictReviewStore.readFile (first.reviews.contents {})).map ConflictReviewFile.reviews =
      (JsonConflictReviewStore.readFile (second.reviews.contents {})).map
        ConflictReviewFile.reviews
  tokens : (trustStore.load first.lan.trust).map
      (fun file => file.pairingTokens.map PairingTokenSummary.ofRecord) =
    (trustStore.load second.lan.trust).map
      fun file => file.pairingTokens.map PairingTokenSummary.ofRecord
  devices : (trustStore.load first.lan.trust).map LanTrustFile.trustedDevices =
    (trustStore.load second.lan.trust).map LanTrustFile.trustedDevices

/-- A trust file that was read has the one version there is. -/
theorem version_of_load {disk : Disk LanTrustFile} {file : LanTrustFile}
    (h : trustStore.load disk = .ok file) : file.version = lanTrustFileVersion := by
  have hRead : readTrustFile (disk.contents {}) = .ok file := h
  unfold readTrustFile at hRead
  split at hRead
  · cases hRead
  split at hRead
  · cases hRead
  · rename_i hValid
    cases hRead
    unfold LanTrustFile.validate at hValid
    split at hValid
    · cases hValid
    · rename_i hVersion
      exact not_not.mp hVersion

theorem trust_snapshot_iff {first second : Disk LanTrustFile} :
    (trustStore.load first).map LanTrustSnapshot.ofFile =
        (trustStore.load second).map LanTrustSnapshot.ofFile ↔
      (trustStore.load first).map
          (fun file => file.pairingTokens.map PairingTokenSummary.ofRecord) =
        (trustStore.load second).map
          (fun file => file.pairingTokens.map PairingTokenSummary.ofRecord) ∧
      (trustStore.load first).map LanTrustFile.trustedDevices =
        (trustStore.load second).map LanTrustFile.trustedDevices := by
  cases hFirst : trustStore.load first with
  | error fault =>
      cases hSecond : trustStore.load second with
      | error other => simp [Except.map]
      | ok other => simp [Except.map]
  | ok file =>
      cases hSecond : trustStore.load second with
      | error other => simp [Except.map]
      | ok other =>
          have hVersion := (version_of_load hFirst).trans (version_of_load hSecond).symm
          simp [Except.map, LanTrustSnapshot.ofFile, hVersion]

/-- The probe tells two clients apart exactly by their records. -/
theorem state_response_iff {first second : LanClient Session} (h : SameElsewhere first second)
    (now : DateTime) :
    (syncStatePayload first now).withoutHead = (syncStatePayload second now).withoutHead ↔
      SameRecords first second := by
  have hHead : (logbookHeadSummary first).logbookId = (logbookHeadSummary second).logbookId :=
    h.logbookId
  unfold SyncStatePayload.withoutHead syncStatePayload
  dsimp only
  rw [h.session, h.warningCount, hHead, SyncStatePayload.mk.injEq, queue_snapshot_iff,
    reviews_snapshot_iff, trust_snapshot_iff]
  constructor
  · rintro ⟨_, _, hQueue, hReviews, ⟨hTokens, hDevices⟩, _⟩
    exact ⟨hQueue, hReviews, hTokens, hDevices⟩
  · intro hSame
    exact ⟨rfl, rfl, hSame.queue, hSame.reviews, ⟨hSame.tokens, hSame.devices⟩, rfl⟩

variable [HmacCrate]

theorem handleClient_state (client : LanClient Session) (isLoopback : Bool)
    {request : LanHttpRequest} (env : LanEnv) (hMethod : request.method = "GET")
    (hPath : request.path = "/api/sync/state") :
    handleClient client isLoopback request env =
      (client, .state (syncStatePayload client env.now)) := by
  have hOpen : isLanPeerEndpoint request.method request.path = true := by
    rw [isLanPeerEndpoint_iff, hMethod, hPath]
    simp
  have hPermitted : remoteRequestIsPermitted client.allowRemoteControlApi isLoopback
      request.method request.path = true := by
    unfold remoteRequestIsPermitted
    rw [hOpen, Bool.or_true]
  unfold handleClient routeRequest
  rw [if_pos hPermitted, if_pos hMethod, if_pos hPath]

/-- With remote control not enabled, an unsigned probe from another machine
gets the same answer from two clients exactly where they have the same records,
and no request from there gets an answer from the log or from the control plane
without an accepted proof. -/
theorem lan_peer_exposure :
    (∀ (first second : LanClient Session) (request : LanHttpRequest) (env : LanEnv),
      first.allowRemoteControlApi = false → SameElsewhere first second →
      request.method = "GET" → request.path = "/api/sync/state" →
      ((handleClient first false request env).2.withoutHead =
          (handleClient second false request env).2.withoutHead ↔
        SameRecords first second)) ∧
    ∀ (client : LanClient Session) (request : LanHttpRequest) (env : LanEnv),
      client.allowRemoteControlApi = false →
      (handleClient client false request env).2.isRead = true →
        LanAuthorized client request env.now := by
  refine ⟨?_, fun client request env hLocal hRead => handleClient_read hLocal hRead⟩
  intro first second request env _ hSame hMethod hPath
  rw [handleClient_state first false env hMethod hPath,
    handleClient_state second false env hMethod hPath]
  show LanHttpReply.state _ = .state _ ↔ _
  rw [LanHttpReply.state.injEq]
  exact state_response_iff hSame env.now

end Probe

namespace Crates

/-- HMAC with blocks of 64 bytes. -/
scoped instance hmacCrate : HmacCrate where
  mac key message :=
    let short := if 64 < key.length then sha256 key else key
    let block := short ++ List.replicate (64 - short.length) 0
    sha256 (block.map (fun byte => byte ^^^ 0x5c) ++
      sha256 (block.map (fun byte => byte ^^^ 0x36) ++ message))

def pairedDevice : TrustedPeerDevice where
  deviceId := 4
  displayName := "tablet"
  logbookIds := [1]
  trustedAt := epoch
  revokedAt := none
  pairingTokenId := none
  publicKeyFingerprint := none
  authCredentialId := some 9
  authRotatedAt := none
  lastSeenAt := none

def pairedSecret : String := "0123456789abcdef0123456789abcdef"

/-- A client with one trusted device and nothing else. -/
def pairedClient : LanClient Unit where
  logbookId := 1
  lan :=
    { trust := { file := some (.document { trustedDevices := [pairedDevice] }) }
      credentials := OsCredentialStore.storeCredential {} 9 (lanMetadata 4 "tablet")
        pairedSecret }
  session := ()

/-- The same client with a contact in its queue. -/
def busyClient : LanClient Unit :=
  { pairedClient with
    queue :=
      { file := some (.document
          { mutations := [OfflineMutationEnvelope.new (sampleInput 1 5) 1 epoch 6] }) } }

def lanEnv : LanEnv where
  now := epoch
  credentialId := 10

def stateProbe : LanHttpRequest where
  method := "GET"
  target := "/api/sync/state"

/-- A list of the logbooks, with the proof of the trusted device. -/
def signedListing : LanHttpRequest where
  method := "GET"
  target := "/api/sync/list-logbooks"
  headers := ((((∅ : KeyMap String String).insert
    "x-ke8ygw-lan-device-id" (displayUuid 4)).insert
    "x-ke8ygw-lan-replay-nonce" "nonce").insert
    "x-ke8ygw-lan-signature-version" "hmac-sha256-v1").insert
    "x-ke8ygw-lan-signature"
      (lanAuthSignature pairedSecret 4 1 "GET" "/api/sync/list-logbooks" "nonce")

end Crates

section
open Crates

theorem lan_peer_exposure_paired :
    ((handleClient pairedClient false stateProbe lanEnv).2.withoutHead =
        (handleClient pairedClient false stateProbe lanEnv).2.withoutHead ↔
      SameRecords pairedClient pairedClient) ∧
    LanAuthorized pairedClient signedListing lanEnv.now := by
  have hRead : (handleClient pairedClient false signedListing lanEnv).2.isRead = true := by
    decide +kernel
  obtain ⟨hProbe, hReads⟩ := @lan_peer_exposure Unit _ _ _
  exact ⟨hProbe pairedClient pairedClient stateProbe lanEnv rfl ⟨rfl, rfl, rfl, rfl, rfl⟩ rfl
    (by decide), hReads pairedClient signedListing lanEnv rfl hRead⟩

/-- A machine that is not paired learns of the queued contact. -/
theorem probe_shows_queued_contact :
    SameElsewhere pairedClient busyClient ∧
    (handleClient pairedClient false stateProbe lanEnv).2.withoutHead ≠
      (handleClient busyClient false stateProbe lanEnv).2.withoutHead ∧
    ∃ payload snapshot, (handleClient busyClient false stateProbe lanEnv).2 = .state payload ∧
      payload.offlineQueue = .ok snapshot ∧
      snapshot.mutations = [OfflineMutationEnvelope.new (sampleInput 1 5) 1 epoch 6] := by
  have hElsewhere : SameElsewhere pairedClient busyClient := ⟨rfl, rfl, rfl, rfl, rfl⟩
  have hPath : stateProbe.path = "/api/sync/state" := by decide
  rw [handleClient_state pairedClient false lanEnv rfl hPath,
    handleClient_state busyClient false lanEnv rfl hPath]
  refine ⟨hElsewhere, fun hSame => ?_, _, _, rfl, rfl, rfl⟩
  have hRecords := (state_response_iff hElsewhere lanEnv.now).mp
    (LanHttpReply.state.inj hSame)
  cases Except.ok.inj hRecords.queue

end
end HamLogger
