import HamLogger.Sync.HostedAccountRuns

/-! Whether the record of a hosted account and the secret storage agree over
runs of requests: a signed-in record names the session token of its session,
and no secret is stored that the record does not name. -/
namespace HamLogger.HostedAccountClient

open FileReplace (Cut Disk)
open Program
open Transition (Run System)

section Agreement
variable [UuidCrate]

/-- The session that a body is about. -/
def sessionIdOf (body : Value) : Option Uuid :=
  (body.get "session").bind fun session => uuidField session "session_id"

/-- A response has issued the token for the session. -/
def SessionIssued (exchanges : List AccountExchange) (sessionId : Uuid) (token : String) : Prop :=
  ∃ exchange ∈ exchanges, ∃ response, exchange.response = .ok response ∧
    sessionIdOf (response.body.getD .null) = some sessionId ∧
      (issuedTokens (response.body.getD .null)).1 = some token

/-- A signed-in record names the stored token of its session, and every stored
secret is named by the record. -/
structure SecretsKept (world : AccountWorld) : Prop where
  signedIn : ∀ snapshot, loadFile world.disk = .ok snapshot →
    snapshot.connectionState = .signedIn →
      ∃ id sessionId token, snapshot.sessionTokenCredentialId = some id ∧
        snapshot.sessionId = some sessionId ∧ world.secrets.lookup id = some token ∧
          SessionIssued world.exchanges sessionId token
  named : ∀ id token, world.secrets.lookup id = some token →
    ∃ snapshot, loadFile world.disk = .ok snapshot ∧
      id ∈ snapshot.credentialIds

/-- A record and the secrets in the storage. A session token is that of the
session whether the record is signed in or not. -/
structure Agrees (snapshot : HostedAccountSnapshot) (world : AccountWorld) : Prop where
  signedIn : snapshot.connectionState = .signedIn →
    snapshot.sessionTokenCredentialId.isSome = true
  session : ∀ id, snapshot.sessionTokenCredentialId = some id →
    ∃ sessionId token, snapshot.sessionId = some sessionId ∧
      world.secrets.lookup id = some token ∧ SessionIssued world.exchanges sessionId token
  named : ∀ id token, world.secrets.lookup id = some token → id ∈ snapshot.credentialIds
  separate : ∀ id, snapshot.sessionTokenCredentialId = some id →
    snapshot.refreshTokenCredentialId ≠ some id

def NoSecrets (world : AccountWorld) : Prop := ∀ id, world.secrets.lookup id = none

/-- The record of the file agrees with the storage, which is empty where there
is none that can be read. -/
structure Settled (world : AccountWorld) : Prop where
  agrees : ∀ snapshot, loadFile world.disk = .ok snapshot →
    Agrees snapshot world
  empty : (∀ snapshot, loadFile world.disk ≠ .ok snapshot) → NoSecrets world

theorem Settled.secretsKept {world : AccountWorld} (h : Settled world) : SecretsKept world where
  signedIn snapshot hFile hSigned := by
    have hAgrees := h.agrees snapshot hFile
    obtain ⟨id, hId⟩ := Option.isSome_iff_exists.mp (hAgrees.signedIn hSigned)
    obtain ⟨sessionId, token, hSession, hStored, hIssued⟩ := hAgrees.session id hId
    exact ⟨id, sessionId, token, hId, hSession, hStored, hIssued⟩
  named id token hStored := by
    by_cases hFile : ∃ snapshot, loadFile world.disk = .ok snapshot
    · obtain ⟨snapshot, hFile⟩ := hFile
      exact ⟨snapshot, hFile, (h.agrees snapshot hFile).named id token hStored⟩
    · have hNone := h.empty (fun snapshot hSome => hFile ⟨snapshot, hSome⟩) id
      rw [hNone] at hStored
      cases hStored

theorem SessionIssued.append {exchanges later : List AccountExchange} {sessionId : Uuid}
    {token : String} (h : SessionIssued exchanges sessionId token) :
    SessionIssued (exchanges ++ later) sessionId token := by
  obtain ⟨exchange, hMem, hIssued⟩ := h
  exact ⟨exchange, List.mem_append_left _ hMem, hIssued⟩

theorem agrees_new {world : AccountWorld} (h : NoSecrets world) (config : HostedAccountConfig) :
    Agrees (.new config) world where
  signedIn hSigned := by cases hSigned
  session id hId := by cases hId
  named id token hStored := by
    rw [h id] at hStored
    cases hStored
  separate id hId := by cases hId

/-- More exchanges change nothing about the agreement. -/
theorem Agrees.later {snapshot : HostedAccountSnapshot} {world later : AccountWorld}
    (h : Agrees snapshot world) (hSecrets : later.secrets = world.secrets)
    (hExchanges : ∃ more, later.exchanges = world.exchanges ++ more) : Agrees snapshot later where
  signedIn := h.signedIn
  session id hId := by
    obtain ⟨sessionId, token, hSession, hStored, hIssued⟩ := h.session id hId
    obtain ⟨more, hMore⟩ := hExchanges
    rw [hSecrets, hMore]
    exact ⟨sessionId, token, hSession, hStored, hIssued.append⟩
  named id token hStored := by
    rw [hSecrets] at hStored
    exact h.named id token hStored
  separate := h.separate

theorem Settled.later {world later : AccountWorld} (h : Settled world)
    (hFile : loadFile later.disk = loadFile world.disk)
    (hSecrets : later.secrets = world.secrets)
    (hExchanges : ∃ more, later.exchanges = world.exchanges ++ more) : Settled later where
  agrees snapshot hLoad := by
    rw [hFile] at hLoad
    exact (h.agrees snapshot hLoad).later hSecrets hExchanges
  empty hMissing := by
    rw [hFile] at hMissing
    intro id
    rw [hSecrets]
    exact h.empty hMissing id

/-- Without secrets any record that is new agrees. -/
theorem settled_new {world : AccountWorld} (h : NoSecrets world)
    (hFile : ∀ snapshot, loadFile world.disk = .ok snapshot →
      ∃ config, snapshot = .new config) : Settled world where
  agrees snapshot hLoad := by
    obtain ⟨config, rfl⟩ := hFile snapshot hLoad
    exact agrees_new h config
  empty _ := h

/-! What a call meets. -/

def opensSession : HostedAccountAction → Bool
  | .recoveryComplete _ | .bootstrap _ _ | .login _ _ | .sessionRotate | .session => true
  | _ => false

/-- Once it is accepted, the record gives its session up. -/
def closesSession (action : HostedAccountAction)
    (snapshot : HostedAccountSnapshot) : Bool :=
  match action with
  | .logout | .logoutAll | .deviceRevokeAll | .accountDelete => true
  | .deviceRevoke deviceId => snapshot.deviceId = some deviceId
  | _ => false

/-- The body of an accepted response that opens a session or shows it. -/
def sessionBody (action : HostedAccountAction) :
    Except String HostedAccountHttpResponse → Option Value
  | .ok response =>
      if (200 ≤ response.status ∧ response.status < 300) ∧ opensSession action then
        some (response.body.getD .null)
      else none
  | .error _ => none

/-- The response ends the session of the record. -/
def endsSession (action : HostedAccountAction) (snapshot : HostedAccountSnapshot) :
    Except String HostedAccountHttpResponse → Bool
  | .ok response =>
      if 200 ≤ response.status ∧ response.status < 300 then closesSession action snapshot
      else classifyHostedAccountError (((response.body.getD .null).get "code").bind Value.asStr)
        response.status = .authenticationRequired
  | .error _ => false

/-- What the changes of the secret storage meet, in their order. -/
def changeFaults (action : HostedAccountAction) (env : AccountEnv)
    (snapshot : HostedAccountSnapshot) : List (Option SecretFault) :=
  let tokens := ((sessionBody action env.response).map issuedTokens).getD (none, none)
  (if tokens.1.isSome then [env.writeSession] else []) ++
    (if tokens.2.isSome then [env.writeRefresh] else []) ++
    (if endsSession action snapshot env.response then snapshot.credentialIds.map env.clear else [])

/-- The identifiers that are drawn are new and different. -/
structure FreshDraws (draws : CredentialDraws) (snapshot : HostedAccountSnapshot) : Prop where
  separate : draws.session ≠ draws.refresh
  session : draws.session ∉ snapshot.credentialIds
  refresh : draws.refresh ∉ snapshot.credentialIds

/-- The body issues a token for a session that it names, or none where the
record has a token and the body names no other session. -/
def KeepsSession (snapshot : HostedAccountSnapshot) (body : Value) : Prop :=
  match (issuedTokens body).1 with
  | some _ => (sessionIdOf body).isSome = true
  | none => snapshot.sessionTokenCredentialId.isSome = true ∧
      (sessionIdOf body = none ∨ sessionIdOf body = snapshot.sessionId)

/-- The call fails before it has changed the storage or the record. -/
def StopsEarly (world : AccountWorld) (save : Option Cut) : List (Option SecretFault) → Prop
  | [] => save.isSome = true ∧ (save = some .oldRemoved → NoSecrets world)
  | some fault :: _ => fault.done = false
  | none :: _ => False

/-- Nothing fails once the response is there. -/
structure Completes (action : HostedAccountAction) (env : AccountEnv)
    (snapshot : HostedAccountSnapshot) : Prop where
  faults : ∀ fault ∈ changeFaults action env snapshot, fault = none
  save : env.save = none
  keeps : ∀ body, sessionBody action env.response = some body → KeepsSession snapshot body

/-- The record that a call starts from: that of the file, or a new one. -/
def StartsFrom (world : AccountWorld) (snapshot : HostedAccountSnapshot) : Prop :=
  loadFile world.disk = .ok snapshot ∨
    (∀ found, loadFile world.disk ≠ .ok found) ∧
      ∃ config, snapshot = .new config

/-- The request cannot be planned, or the call changes both the storage and the
record, or none of them. -/
def Orderly (world : AccountWorld) (action : HostedAccountAction) (env : AccountEnv) : Prop :=
  ∀ snapshot, StartsFrom world snapshot →
    (∃ error, planHostedAccountRequest action snapshot = .error error) ∨
      FreshDraws env.draws snapshot ∧
        (StopsEarly world env.save (changeFaults action env snapshot) ∨
          Completes action env snapshot)

end Agreement
end HamLogger.HostedAccountClient
