import HamLogger.Sync.PeerRegistry

/-! Which peer a request acts on. A peer that is named and not in the registry
is replaced by the first one of the list. -/
namespace HamLogger

open CallTrace
open Program
open Transition (Run System)

/-! The registry. -/

inductive DiscoveryStep where
  | observe (identity : LocalPeerIdentity) (packet : DiscoveryPacket) (address : SocketAddr)
      (now : DateTime)
  | expire (now : DateTime) (timeout : Int)
  | request (request : PeerRequest)

/-- Every peer is listed under its own identifier. -/
def PeerRegistry.Keyed (registry : PeerRegistry) : Prop :=
  ∀ key peer, registry.lookup key = some peer → peer.peerId = key

theorem PeerRegistry.keyed_insert {registry : PeerRegistry} (h : registry.Keyed)
    {peer : PeerRecord} {peerId : String} (hPeer : peer.peerId = peerId) :
    PeerRegistry.Keyed (registry.insert peerId peer) := by
  intro key found hLookup
  rw [KeyMap.lookup_insert_eq_ite] at hLookup
  split at hLookup
  · rename_i hKey
    obtain rfl := Option.some.inj hLookup
    rw [hPeer, hKey]
  · exact h key found hLookup

theorem PeerRegistry.keyed_expireStale {registry : PeerRegistry} (h : registry.Keyed)
    (now : DateTime) (timeout : Int) : (registry.expireStale now timeout).Keyed := by
  intro key peer hLookup
  rw [PeerRegistry.expireStale, KeyMap.lookup_mapValues] at hLookup
  obtain ⟨earlier, hEarlier, rfl⟩ := Option.map_eq_some_iff.mp hLookup
  have hId := h key earlier hEarlier
  split <;> exact hId

section Registry
variable [UuidCrate]

/-- Requests leave the registry as it is. -/
def discovery : System PeerRegistry DiscoveryStep where
  step registry label next :=
    match label with
    | .observe identity packet address now => next = registry.observe identity packet address now
    | .expire now timeout => next = registry.expireStale now timeout
    | .request _ => next = registry

theorem PeerRegistry.keyed_observe {registry : PeerRegistry} (h : registry.Keyed)
    (identity : LocalPeerIdentity) (packet : DiscoveryPacket) (address : SocketAddr)
    (now : DateTime) : (registry.observe identity packet address now).Keyed := by
  unfold PeerRegistry.observe
  split
  · exact h
  · split
    · exact h
    · dsimp only
      split
      · rename_i peer hKnown
        exact PeerRegistry.keyed_insert h (h packet.peerId peer hKnown)
      · exact PeerRegistry.keyed_insert h rfl

theorem keyed_of_run {steps : List DiscoveryStep} {registry : PeerRegistry}
    (hRun : Run discovery ∅ steps registry) : registry.Keyed := by
  refine hRun.invariant ?_ fun key peer hLookup => ?_
  · intro before label after hBefore hStep
    cases label with
    | observe identity packet address now =>
        obtain rfl : after = before.observe identity packet address now := hStep
        exact PeerRegistry.keyed_observe hBefore identity packet address now
    | expire now timeout =>
        obtain rfl : after = before.expireStale now timeout := hStep
        exact PeerRegistry.keyed_expireStale hBefore now timeout
    | request request =>
        obtain rfl : after = before := hStep
        exact hBefore
  · rw [AList.lookup_empty] at hLookup
    cases hLookup

end Registry

/-! The choice of the peer. -/

/-- The peer that a request works with is the one of the identifier, or there
is none. -/
def ChoosesNamed (registry : PeerRegistry) (peers : List PeerRecord) (peerId : String) : Prop :=
  ∀ peer, selectedPeerRecord peers (some peerId) = some peer → registry.lookup peerId = some peer

theorem choosesNamed_iff {registry : PeerRegistry} (hKeyed : registry.Keyed)
    {peers : List PeerRecord} (hListed : registry.Listed peers) (peerId : String) :
    ChoosesNamed registry peers peerId ↔
      (∃ peer, registry.lookup peerId = some peer) ∨ ∀ key, registry.lookup key = none := by
  have hMem : ∀ peer, peer ∈ peers ↔ ∃ key, registry.lookup key = some peer := fun peer => by
    rw [hListed.perm.mem_iff, KeyMap.mem_values]
  constructor
  · intro h
    cases hSelected : selectedPeerRecord peers (some peerId) with
    | some peer => exact .inl ⟨peer, h peer hSelected⟩
    | none =>
        refine .inr fun key => ?_
        have hEmpty : peers = [] := by
          have hHead := (Option.or_eq_none_iff.mp hSelected).2
          exact List.head?_eq_none_iff.mp hHead
        cases hLookup : registry.lookup key with
        | none => rfl
        | some peer =>
            have hPeer := (hMem peer).mpr ⟨key, hLookup⟩
            rw [hEmpty] at hPeer
            cases hPeer
  · rintro (⟨named, hNamed⟩ | hEmpty) peer hSelected
    · have hFinds : ∃ found, (peers.find? fun peer => peer.peerId = peerId) = some found := by
        have hSome : (peers.find? fun peer => peer.peerId = peerId).isSome := by
          rw [List.find?_isSome]
          exact ⟨named, (hMem named).mpr ⟨peerId, hNamed⟩, by simp [hKeyed peerId named hNamed]⟩
        exact Option.isSome_iff_exists.mp hSome
      obtain ⟨found, hFound⟩ := hFinds
      have hSame : found = peer := by
        simpa [selectedPeerRecord, hFound] using hSelected
      obtain rfl := hSame
      obtain ⟨key, hKey⟩ := (hMem found).mp (List.mem_of_find?_eq_some hFound)
      have hId : found.peerId = peerId := by simpa using List.find?_some hFound
      rw [← hId, hKeyed key found hKey]
      exact hKey
    · have hNone : peers = [] := by
        refine List.eq_nil_iff_forall_not_mem.mpr fun other hOther => ?_
        obtain ⟨key, hKey⟩ := (hMem other).mp hOther
        rw [hEmpty key] at hKey
        cases hKey
      rw [hNone] at hSelected
      cases hSelected

/-! The calls of a handler. -/

/-- The first answer is one of an address that was asked. -/
theorem makes_firstAnswer {α : Type} {Allowed : PeerCall → Prop}
    {ask : SocketAddr → PeerProgram (Except String α)}
    (Answers : SocketAddr → α → Prop) (addresses : List SocketAddr) (lastError : Option String)
    (h : ∀ address ∈ addresses, Makes Allowed (ask address) fun result =>
      ∀ value, result = .ok value → Answers address value) :
    Makes Allowed (firstAnswer ask addresses lastError) fun result =>
      ∀ value, result = .ok value → ∃ address ∈ addresses, Answers address value := by
  induction addresses generalizing lastError with
  | nil => exact makes_pure fun _ hSame => by cases hSame
  | cons address rest ih =>
      refine makes_bind (h address List.mem_cons_self) fun result hResult => ?_
      cases result with
      | ok value =>
          refine makes_pure fun other hSame => ?_
          obtain rfl := Except.ok.inj hSame
          exact ⟨address, List.mem_cons_self, hResult value rfl⟩
      | error error =>
          have hRest := ih (some error) fun other hMem => h other (List.mem_cons_of_mem _ hMem)
          refine hRest.mono fun answer hAnswer value hValue => ?_
          obtain ⟨other, hMem, hAnswers⟩ := hAnswer value hValue
          exact ⟨other, List.mem_cons_of_mem _ hMem, hAnswers⟩

theorem mem_sortedPeerApiAddresses {peer : PeerRecord} {address : SocketAddr} :
    address ∈ sortedPeerApiAddresses peer ↔ address ∈ peer.addresses :=
  List.mem_insertionSort _

/-- Events that the peer has sent. The demonstration peer has its events in
this client. -/
def SentBy (env : PeerEnv) (peer : PeerRecord) (events : List CoreEventEnvelope) : Prop :=
  (∃ address ∈ peer.addresses, env.events address = .ok (env.logbookId, events)) ∨
    isDemoPeer peer = true ∧ events = env.demoRemoteEvents

/-- A call that acts on a peer: it goes to one of its addresses, is signed for
its device, trusts its device, or works with what the peer has sent. A
credential that is deleted is the one that was stored before. -/
def PeerCall.OnPeer (env : PeerEnv) (peer : PeerRecord) : PeerCall → Prop
  | .getHead address deviceId | .eventsSince address deviceId =>
      address ∈ peer.addresses ∧ deviceId = peer.deviceId
  | .pairingAccept address _ => address ∈ peer.addresses
  | .storeCredential deviceId _ _ | .authorize deviceId _ _ => deviceId = peer.deviceId
  | .deleteCredential credentialId => env.stored = .ok credentialId
  | .trust update => update.peerDeviceId = peer.deviceId
  | .compareHeads request => request.deviceId = peer.deviceId ∧ request.sessionId = peer.sessionId
  | .previewPull peerId events | .pullMissing peerId events =>
      peerId = peer.peerId ∧ SentBy env peer events

section Handlers
variable [UuidCrate] {env : PeerEnv} {peer : PeerRecord}

theorem makes_remoteHeadForPeer :
    Makes (PeerCall.OnPeer env peer) (remoteHeadForPeer env peer) fun _ => True := by
  refine makes_bind (makes_firstAnswer (fun _ _ => True) _ none
    fun address hMem => ?_) fun result _ => ?_
  · unfold fetchLanPeerHead
    split
    · exact makes_pure fun _ _ => trivial
    · refine makes_bind (makes_call ⟨mem_sortedPeerApiAddresses.mp hMem, rfl⟩) fun _ _ => ?_
      exact makes_pure fun _ _ => trivial
  · cases result with
    | ok head => exact makes_pure trivial
    | error lastError =>
        change Makes _ (if isDemoPeer peer then _ else _) _
        split <;> exact makes_pure trivial

theorem makes_remoteEventsForPeer :
    Makes (PeerCall.OnPeer env peer) (remoteEventsForPeer env peer) fun result =>
      ∀ events, result = .ok events → SentBy env peer events := by
  refine makes_bind (makes_firstAnswer
    (fun address events => env.events address = .ok (env.logbookId, events)) _ none
    fun address hMem => ?_) fun result hResult => ?_
  · unfold fetchLanPeerEvents
    split
    · exact makes_pure fun _ hSame => by cases hSame
    · refine makes_bind (makes_call ⟨mem_sortedPeerApiAddresses.mp hMem, rfl⟩) fun _ _ => ?_
      refine makes_pure fun events hSame => ?_
      cases hAnswer : env.events address with
      | error error => simp [hAnswer, bind, Except.bind] at hSame
      | ok answer =>
          obtain ⟨logbookId, sent⟩ := answer
          simp only [hAnswer, bind, Except.bind] at hSame
          split at hSame
          · cases hSame
          · rename_i hLogbook
            obtain rfl := Except.ok.inj hSame
            rw [not_not.mp hLogbook]
  · cases result with
    | ok events =>
        refine makes_pure fun other hSame => ?_
        obtain rfl := Except.ok.inj hSame
        obtain ⟨address, hMem, hAnswer⟩ := hResult events rfl
        exact .inl ⟨address, mem_sortedPeerApiAddresses.mp hMem, hAnswer⟩
    | error lastError =>
        change Makes _ (if isDemoPeer peer then _ else _) _
        split
        · rename_i hDemo
          refine makes_pure fun other hSame => ?_
          obtain rfl := Except.ok.inj hSame
          exact .inr ⟨hDemo, rfl⟩
        · exact makes_pure fun _ hSame => by cases hSame

/-- A handler that has selected a peer works with that peer. -/
theorem makes_handle {peers : List PeerRecord} (request : PeerRequest)
    (hSelected : selectedPeerRecord peers request.peerId = some peer) :
    Makes (PeerCall.OnPeer env peer) (request.handle env peers) fun _ => True := by
  cases request with
  | handshake request =>
      change selectedPeerRecord peers request.peerId = some peer at hSelected
      simp only [PeerRequest.handle, handleSyncHandshake, hSelected]
      refine makes_bind makes_remoteHeadForPeer fun result _ => ?_
      refine makes_bind (makes_orFail result) fun remoteHead _ => ?_
      exact makes_call ⟨rfl, rfl⟩
  | previewPull request =>
      change selectedPeerRecord peers request.peerId = some peer at hSelected
      simp only [PeerRequest.handle, handleSyncPreviewPull, hSelected]
      split
      · exact makes_throw
      · refine makes_bind makes_remoteEventsForPeer fun result hResult => ?_
        refine makes_bind (makes_orFail result) fun remoteEvents hEvents => ?_
        exact makes_call ⟨rfl, hResult remoteEvents hEvents⟩
  | pullEvents request =>
      change selectedPeerRecord peers request.peerId = some peer at hSelected
      simp only [PeerRequest.handle, handleSyncPullEvents, hSelected]
      split
      · exact makes_throw
      · split
        · exact makes_throw
        · refine makes_bind (makes_call rfl) fun _ _ => ?_
          refine makes_bind (makes_orFail env.authorized) fun _ _ => ?_
          refine makes_bind makes_remoteEventsForPeer fun result hResult => ?_
          refine makes_bind (makes_orFail result) fun remoteEvents hEvents => ?_
          exact makes_call ⟨rfl, hResult remoteEvents hEvents⟩
  | pairingComplete request =>
      change selectedPeerRecord peers request.peerId = some peer at hSelected
      simp only [PeerRequest.handle, handlePairingComplete, hSelected]
      split
      · exact makes_throw
      · split
        · exact makes_throw
        · split
          · exact makes_throw
          · exact makes_throw
          · refine makes_bind (makes_firstAnswer (fun _ _ => True) _ none
              fun address hMem => ?_) fun result _ => ?_
            · refine makes_bind (makes_call (mem_sortedPeerApiAddresses.mp hMem)) fun _ _ => ?_
              exact makes_pure fun _ _ => trivial
            · refine makes_bind (makes_orFail _) fun _ _ => ?_
              refine makes_bind (makes_call rfl) fun _ _ => ?_
              refine makes_bind (makes_orFail env.stored) fun authCredentialId hStored => ?_
              refine makes_bind (makes_call rfl) fun _ _ => ?_
              split
              · exact makes_pure trivial
              · exact makes_bind (makes_call hStored) fun _ _ => makes_throw

/-- Without a peer a handler makes no call. -/
theorem calls_of_no_peer {peers : List PeerRecord} (request : PeerRequest)
    (hNone : selectedPeerRecord peers request.peerId = none) :
    ((request.handle env peers).execute []).1 = [] := by
  cases request <;> rename_i request <;>
    change selectedPeerRecord peers request.peerId = none at hNone <;>
    simp only [PeerRequest.handle, handleSyncHandshake, handleSyncPreviewPull,
      handleSyncPullEvents, handlePairingComplete, hNone] <;>
    first
    | rfl
    | split <;> rfl

/-- The calls of a request that names a peer are those of the peer of that
identifier in the registry. -/
def ActsOnNamed (registry : PeerRegistry) (env : PeerEnv) (peerId : String)
    (calls : List PeerCall) : Prop :=
  ∀ made ∈ calls, ∃ peer, registry.lookup peerId = some peer ∧ made.OnPeer env peer

def thisStation : LocalPeerIdentity where
  deviceId := 1
  sessionId := 2
  displayName := "Station A"

/-- A client to which every peer answers with an empty log. -/
def answeringEnv : PeerEnv where
  logbookId := 3
  identity := thisStation
  signed _ := .ok ()
  head _ := .ok { logbookId := 3, headHash := none, eventCount := some 0 }
  events _ := .ok (3, [])
  accept _ := .ok ()
  stored := .ok 9
  trusted := .ok ()
  authorized := .ok ()

/-- A pull is authorized for the selected peer before anything is asked. -/
theorem calls_of_unauthorized {peers : List PeerRecord} {peerId message : String}
    (hSelected : selectedPeerRecord peers (some peerId) = some peer)
    (hPermitted : env.permitted = true) (hAuthorized : env.authorized = .error message) :
    ((PeerRequest.handle env peers
        (.pullEvents { peerId := some peerId, replayNonce := some "1" })).execute []).1 =
      [.authorize peer.deviceId env.logbookId "1"] := by
  have hNonce : ((some "1").filter fun nonce => nonce ≠ "") = some "1" := by decide
  simp only [PeerRequest.handle, handleSyncPullEvents, hPermitted, hSelected, hNonce,
    hAuthorized]
  rfl

end Handlers

/-! A registry with one peer. -/

section
open Crates

def stationPacket : DiscoveryPacket where
  protocolName := protocolName
  protocolVersion := 1
  deviceId := 7
  sessionId := 8
  displayName := "Station B"
  capabilities := []
  localApiPort := none

def stationAddress : SocketAddr := .v4 0xC0A80002 9738

def stationPeer : PeerRecord where
  peerId := stationPacket.peerId
  deviceId := 7
  sessionId := 8
  displayName := "Station B"
  addresses := [stationAddress]
  protocolVersion := 1
  capabilities := []
  firstSeen := epoch
  lastSeen := epoch
  connectionState := .discovered
  syncState := .unknown

def oneStation : PeerRegistry :=
  PeerRegistry.observe ∅ thisStation stationPacket stationAddress epoch

theorem run_oneStation :
    Run discovery ∅ [.observe thisStation stationPacket stationAddress epoch] oneStation :=
  Run.single rfl

theorem listed_oneStation : oneStation.Listed [stationPeer] where
  perm := by
    have hValues : oneStation.values = [stationPeer] := by decide +kernel
    rw [hValues]
  sorted := List.pairwise_singleton _ _

end

end HamLogger
