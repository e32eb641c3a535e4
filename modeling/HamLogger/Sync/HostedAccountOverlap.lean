import HamLogger.Sync.HostedAccountSecretRuns

/-! Requests that are refused while the record has a session. A call keeps the
record that it has read, and saves it whole when the response is there, so that
calls that overlap save over each other. -/
namespace HamLogger.HostedAccountClient

open FileReplace (Disk)
open Program

/-! What a refusal does to the record. -/

/-- The request was refused or did not get through. -/
def Refused (env : AccountEnv) : Prop :=
  ∀ response, env.response = .ok response → ¬ (200 ≤ response.status ∧ response.status < 300)

/-- What a refusal is taken for. -/
def refusal (env : AccountEnv) : HostedAccountOutcome :=
  match env.response with
  | .ok response =>
      classifyHostedAccountError (((response.body.getD .null).get "code").bind Value.asStr)
        response.status
  | .error _ => .transientFailure

/-- The client is signed in with a session. -/
structure SignedInSession (snapshot : HostedAccountSnapshot) : Prop where
  signedIn : snapshot.connectionState = .signedIn
  session : snapshot.sessionId.isSome = true

/-- Two records name the same session and the same credentials. -/
structure SameSession (first second : HostedAccountSnapshot) : Prop where
  sessionId : first.sessionId = second.sessionId
  session : first.sessionTokenCredentialId = second.sessionTokenCredentialId
  refresh : first.refreshTokenCredentialId = second.refreshTokenCredentialId

/-- A result that leaves the session alone: nothing is stored and nothing
cleared. -/
structure LeavesSession (snapshot : HostedAccountSnapshot) (result : HostedAccountResult) :
    Prop where
  same : SameSession result.snapshot snapshot
  state : result.snapshot.connectionState = snapshot.connectionState
  sessionToken : result.sessionToken = none
  refreshToken : result.refreshToken = none
  cleared : result.clearedCredentialIds = []

section Refusals
variable [UuidCrate] {action : HostedAccountAction} {env : AccountEnv}
  {snapshot : HostedAccountSnapshot}

/-- The three things that a refusal can do. -/
inductive RefusalResult (env : AccountEnv) (snapshot : HostedAccountSnapshot)
    (result : HostedAccountResult) : Prop where
  | torn (hOutcome : refusal env = .authenticationRequired)
      (hSession : result.snapshot.sessionId = none)
      (hCleared : result.clearedCredentialIds = snapshot.credentialIds)
  | unverified (hOutcome : refusal env = .emailVerificationRequired)
      (hSame : SameSession result.snapshot snapshot)
      (hState : result.snapshot.connectionState = .pendingEmailVerification)
      (hCleared : result.clearedCredentialIds = [])
  | kept (hAuthentication : refusal env ≠ .authenticationRequired)
      (hEmail : refusal env ≠ .emailVerificationRequired)
      (hSame : SameSession result.snapshot snapshot)
      (hState : result.snapshot.connectionState = snapshot.connectionState)
      (hCleared : result.clearedCredentialIds = [])

theorem refusalResult (h : Refused env) :
    RefusalResult env snapshot (resultOf action env snapshot) := by
  cases hResponse : env.response with
  | error message =>
      have hOutcome : refusal env = .transientFailure := by rw [refusal, hResponse]
      have hResult : resultOf action env snapshot = hostedAccountTransportFailure snapshot := by
        rw [resultOf, hResponse]
      rw [hResult]
      refine .kept ?_ ?_ ⟨rfl, rfl, rfl⟩ rfl rfl <;> rw [hOutcome] <;> decide
  | ok response =>
      have hRefused := h response hResponse
      have hResult : resultOf action env snapshot =
          applyHostedAccountResponse env.draws action response snapshot := by
        rw [resultOf, hResponse]
      have hOutcome : refusal env = classifyHostedAccountError
          (((response.body.getD .null).get "code").bind Value.asStr) response.status := by
        rw [refusal, hResponse]
      rw [hResult]
      unfold applyHostedAccountResponse
      dsimp only
      rw [if_neg hRefused]
      split
      · next hClass => exact .torn (hOutcome.trans hClass) rfl rfl
      · next hClass => exact .unverified (hOutcome.trans hClass) ⟨rfl, rfl, rfl⟩ rfl rfl
      · next hOther hEmail =>
          exact .kept (fun hSame => hOther (hOutcome.symm.trans hSame))
            (fun hSame => hEmail (hOutcome.symm.trans hSame)) ⟨rfl, rfl, rfl⟩ rfl rfl

/-- A refusal issues no tokens. -/
theorem no_tokens_of_refused (h : Refused env) :
    (resultOf action env snapshot).sessionToken = none ∧
      (resultOf action env snapshot).refreshToken = none := by
  have hBody : sessionBody action env.response = none := by
    cases hResponse : env.response with
    | error message => rfl
    | ok response => exact if_neg fun hAccepted => h response hResponse hAccepted.1
  cases response_resultOf action env snapshot with
  | opened body hSome hEnds hOpened => rw [hBody] at hSome; cases hSome
  | ended hNone hEnds hEnded => exact ⟨hEnded.sessionToken, hEnded.refreshToken⟩
  | kept hNone hEnds hKept => exact ⟨hKept.sessionToken, hKept.refreshToken⟩

theorem leavesSession_iff (h : Refused env) (hActive : SignedInSession snapshot) :
    LeavesSession snapshot (resultOf action env snapshot) ↔
      refusal env ≠ .authenticationRequired ∧ refusal env ≠ .emailVerificationRequired := by
  obtain ⟨hSessionToken, hRefreshToken⟩ := @no_tokens_of_refused _ action env snapshot h
  cases @refusalResult _ action env snapshot h with
  | torn hOutcome hSession hCleared =>
      refine ⟨fun hLeaves => ?_, fun hOther => absurd hOutcome hOther.1⟩
      have hSome := hActive.session
      rw [← hLeaves.same.sessionId, hSession] at hSome
      cases hSome
  | unverified hOutcome hSame hState hCleared =>
      refine ⟨fun hLeaves => ?_, fun hOther => absurd hOutcome hOther.2⟩
      have hPending := hState.symm.trans (hLeaves.state.trans hActive.signedIn)
      cases hPending
  | kept hAuthentication hEmail hSame hState hCleared =>
      exact ⟨fun _ => ⟨hAuthentication, hEmail⟩,
        fun _ => ⟨hSame, hState, hSessionToken, hRefreshToken, hCleared⟩⟩

end Refusals

/-! The two steps of a call. -/

section Steps
variable [UuidCrate]

/-- The first step of a call reads the record, plans the request and sends it. -/
def beginCall (action : HostedAccountAction) (config : HostedAccountConfig) (env : AccountEnv) :
    AccountProgram HostedAccountSnapshot := do
  let snapshot ← loadOrInitialize config env
  let plan ← reading fun _ => planHostedAccountRequest action snapshot
  let sessionToken ← readSessionToken plan env
  let body ← requestBody plan env
  modify fun world =>
    { world with
      exchanges := world.exchanges ++
        [{ plan := plan, body := body, sessionToken := sessionToken, response := env.response }] }
  return snapshot

/-- The second step applies the response to the record that was read, and saves
it. -/
def finishCall (action : HostedAccountAction) (env : AccountEnv)
    (snapshot : HostedAccountSnapshot) : AccountProgram HostedAccountResult := do
  let result := resultOf action env snapshot
  storeIssued env.writeSession result.snapshot.sessionTokenCredentialId result.sessionToken
  storeIssued env.writeRefresh result.snapshot.refreshTokenCredentialId result.refreshToken
  clearSecrets env.clear result.clearedCredentialIds
  saveFile result.snapshot env.save
  return result

/-- A call without another one in between. -/
theorem execute_eq (action : HostedAccountAction) (config : HostedAccountConfig)
    (env : AccountEnv) :
    HostedAccountClient.execute action config env =
      beginCall action config env >>= finishCall action env := by
  unfold beginCall
  simp only [bind_assoc, pure_bind]
  rfl

/-- The request of a call is planned from the record that the call has read. -/
theorem planned_of_beginCall {action : HostedAccountAction} {config : HostedAccountConfig}
    {env : AccountEnv} {start began : AccountWorld} {loaded : HostedAccountSnapshot}
    (h : (beginCall action config env).execute start = (began, .ok loaded)) :
    ∃ plan, planHostedAccountRequest action loaded = .ok plan := by
  unfold beginCall at h
  obtain ⟨_, snapshot, _, h⟩ := execute_bind_ok.mp h
  obtain ⟨_, plan, hPlan, h⟩ := execute_bind_ok.mp h
  obtain ⟨_, _, _, h⟩ := execute_bind_ok.mp h
  obtain ⟨_, _, _, h⟩ := execute_bind_ok.mp h
  obtain ⟨_, _, _, h⟩ := execute_bind_ok.mp h
  obtain rfl : snapshot = loaded := Except.ok.inj (congrArg Prod.snd h)
  have hPlanned := congrArg Prod.snd hPlan
  exact ⟨plan, hPlanned⟩

/-- Storage that does what it is asked for. -/
structure StorageWorks (env : AccountEnv) : Prop where
  save : env.save = none
  clear : ∀ id, env.clear id = none

theorem finishCall_refused {action : HostedAccountAction} {env : AccountEnv}
    (h : Refused env) (hStorage : StorageWorks env) (loaded : HostedAccountSnapshot)
    (world : AccountWorld) :
    let result := resultOf action env loaded
    ((finishCall action env loaded).execute world).1 =
      { world with
        secrets :=
          applyChanges (clearingChanges env.clear result.clearedCredentialIds) world.secrets
        disk := world.disk.replace
          { version := hostedAccountFileVersion, snapshot := result.snapshot } none } := by
  intro result
  obtain ⟨hSessionToken, hRefreshToken⟩ := @no_tokens_of_refused _ action env loaded h
  have hNothing : ∀ fault id, storeIssued fault id none = pure () := fun fault id => by
    cases id <;> rfl
  have hFaults : ∀ change ∈ clearingChanges env.clear result.clearedCredentialIds,
      change.1 = none := by
    intro change hMem
    obtain ⟨id, _, rfl⟩ := List.mem_map.mp hMem
    exact hStorage.clear id
  have hEnsures : Ensures (finishCall action env loaded) world fun later _ =>
      later = { world with
        secrets :=
          applyChanges (clearingChanges env.clear result.clearedCredentialIds) world.secrets
        disk := world.disk.replace
          { version := hostedAccountFileVersion, snapshot := result.snapshot } none } := by
    unfold finishCall
    dsimp only
    rw [hSessionToken, hRefreshToken, hNothing, hNothing, pure_bind, pure_bind, clearSecrets_eq,
      hStorage.save]
    refine (runChanges_done hFaults world).bind ?_ ?_
    · rintro later error ⟨hError, _⟩
      cases hError
    rintro later _ ⟨_, rfl⟩
    refine (saveFile_ensures result.snapshot none _).bind ?_ ?_
    · rintro last error rfl
      rfl
    · rintro last _ rfl
      rfl
  exact hEnsures

/-- The session of a record and its stored tokens are as they were. -/
def SessionSurvives (newer : HostedAccountSnapshot) (before after : AccountWorld) : Prop :=
  ∃ found, loadFile after.disk = .ok found ∧ SameSession found newer ∧
    ∀ id ∈ newer.credentialIds, after.secrets.lookup id = before.secrets.lookup id

theorem baseUrl_resultOf_refused {action : HostedAccountAction} {env : AccountEnv}
    (h : Refused env) (snapshot : HostedAccountSnapshot) :
    (resultOf action env snapshot).snapshot.baseUrl = snapshot.baseUrl := by
  cases hResponse : env.response with
  | error message => rw [resultOf, hResponse]; rfl
  | ok response =>
      rw [resultOf, hResponse]
      dsimp only
      unfold applyHostedAccountResponse
      dsimp only
      rw [if_neg (h response hResponse)]
      split <;> rfl

theorem sessionSurvives_iff {action : HostedAccountAction} {env : AccountEnv} {baseUrl : String}
    {loaded newer : HostedAccountSnapshot} (h : Refused env) (hStorage : StorageWorks env)
    (hBase : normalizeBaseUrl loaded.baseUrl = .ok baseUrl) (hActive : SignedInSession newer)
    (world : AccountWorld) :
    SessionSurvives newer world ((finishCall action env loaded).execute world).1 ↔
      refusal env ≠ .authenticationRequired ∧ SameSession loaded newer := by
  rw [finishCall_refused h hStorage loaded world]
  have hLoad := @loadFile_saved world.disk (resultOf action env loaded).snapshot baseUrl
    (schemaVersion_resultOf action env loaded) (by rw [baseUrl_resultOf_refused h, hBase])
  have hKept : SameSession (resultOf action env loaded).snapshot loaded →
      (resultOf action env loaded).clearedCredentialIds = [] →
      (SessionSurvives newer world { world with
        secrets := applyChanges (clearingChanges env.clear
          (resultOf action env loaded).clearedCredentialIds) world.secrets
        disk := world.disk.replace
          { version := hostedAccountFileVersion
            snapshot := (resultOf action env loaded).snapshot } none } ↔
        SameSession loaded newer) := by
    intro hSame hCleared
    constructor
    · rintro ⟨found, hFound, hNewer, _⟩
      obtain rfl := Except.ok.inj (hLoad.symm.trans hFound)
      exact ⟨hSame.sessionId.symm.trans hNewer.sessionId, hSame.session.symm.trans hNewer.session,
        hSame.refresh.symm.trans hNewer.refresh⟩
    · intro hNewer
      refine ⟨_, hLoad, ⟨hSame.sessionId.trans hNewer.sessionId,
        hSame.session.trans hNewer.session, hSame.refresh.trans hNewer.refresh⟩, fun id _ => ?_⟩
      rw [hCleared]
      rfl
  cases @refusalResult _ action env loaded h with
  | torn hOutcome hSession hCleared =>
      refine ⟨?_, fun hOther => absurd hOutcome hOther.1⟩
      rintro ⟨found, hFound, hNewer, _⟩
      obtain rfl := Except.ok.inj (hLoad.symm.trans hFound)
      have hSome := hActive.session
      rw [← hNewer.sessionId, hSession] at hSome
      cases hSome
  | unverified hOutcome hSame hState hCleared =>
      rw [hKept hSame hCleared]
      refine ⟨fun hNewer => ⟨?_, hNewer⟩, fun hBoth => hBoth.2⟩
      rw [hOutcome]
      decide
  | kept hAuthentication hEmail hSame hState hCleared =>
      rw [hKept hSame hCleared]
      exact ⟨fun hNewer => ⟨hAuthentication, hNewer⟩, fun hBoth => hBoth.2⟩

/-- A refusal leaves a session alone if and only if it is not taken for a lost
session or an address that is not verified. A call that is refused after other
calls have changed the record leaves the session that is there if and only if
it is not taken for a lost session, and the call has read that session. -/
theorem refusals_keep_session_iff :
    (∀ (action : HostedAccountAction) (env : AccountEnv) (snapshot : HostedAccountSnapshot),
      action.requiresSession = false → Refused env → SignedInSession snapshot →
        (LeavesSession snapshot (resultOf action env snapshot) ↔
          refusal env ≠ .authenticationRequired ∧ refusal env ≠ .emailVerificationRequired)) ∧
    ∀ (action : HostedAccountAction) (config : HostedAccountConfig) (env : AccountEnv)
      (start began world : AccountWorld) (loaded newer : HostedAccountSnapshot),
      (beginCall action config env).execute start = (began, .ok loaded) →
        loadFile world.disk = .ok newer → SignedInSession newer → Refused env →
          StorageWorks env →
            (SessionSurvives newer world ((finishCall action env loaded).execute world).1 ↔
              refusal env ≠ .authenticationRequired ∧ SameSession loaded newer) := by
  constructor
  · intro action env snapshot _ hRefused hActive
    exact leavesSession_iff hRefused hActive
  · intro action config env start began world loaded newer hBegan _ hActive hRefused hStorage
    obtain ⟨plan, hPlan⟩ := planned_of_beginCall hBegan
    obtain ⟨baseUrl, hBase, _⟩ := (planned hPlan).server
    exact sessionSurvives_iff hRefused hStorage hBase hActive world

end Steps

/-! Two calls that overlap. -/

section
open Crates

/-- A refusal that says that the session is over. -/
def sessionInactive : AccountEnv where
  draws := { session := 3, refresh := 4 }
  response := .ok { status := 401, body := some (.object [("code", .string "session_inactive")]) }

/-- The record of a client that has signed in to a session. -/
def signedInRecord (sessionId : Uuid) : HostedAccountSnapshot where
  baseUrl := "https://a"
  deviceName := defaultHostedAccountDeviceName
  connectionState := .signedIn
  emailVerified := true
  sessionId := some sessionId
  sessionTokenCredentialId := some 1

def newerSession : List (String × Value) :=
  [("session_id", .string (UuidCrate.display 8)), ("token", .string "newer")]

/-- The world after a first login, the same after a call has begun there, and
after a second login in between. -/
def afterLogin : AccountWorld :=
  (AccountCall.execute signIn.1 signIn.2).after (signedInTo tokenOfSession none) {}

def afterBegin : AccountWorld :=
  ((beginCall .session firstServer sessionInactive).execute afterLogin).1

def afterSecondLogin : AccountWorld :=
  (AccountCall.execute signIn.1 signIn.2).after (signedInTo newerSession none) afterBegin

theorem begin_session :
    (beginCall .session firstServer sessionInactive).execute afterLogin =
      (afterBegin, .ok (signedInRecord 7)) := by
  have hLoaded : ((beginCall .session firstServer sessionInactive).execute afterLogin).2.toOption =
      some (signedInRecord 7) := by decide +kernel
  refine Prod.ext rfl ?_
  exact (except_toOption_eq_some_iff _ _).mp hLoaded

theorem load_afterSecondLogin : loadFile afterSecondLogin.disk = .ok (signedInRecord 8) :=
  (except_toOption_eq_some_iff _ _).mp (by decide +kernel)

theorem refused_sessionInactive : Refused sessionInactive := by
  intro response hResponse hAccepted
  obtain rfl := Except.ok.inj hResponse
  exact absurd hAccepted.2 (by decide)

/-- A login that is refused tears the session down, and the refusal of an older
session erases the session of a login in between. -/
theorem refused_call_erases_newer_session :
    (SignedInSession (signedInRecord 7) ∧ Refused sessionInactive ∧
      (resultOf signIn.1 sessionInactive (signedInRecord 7)).snapshot.sessionId = none) ∧
    (beginCall .session firstServer sessionInactive).execute afterLogin =
      (afterBegin, .ok (signedInRecord 7)) ∧
    loadFile afterSecondLogin.disk = .ok (signedInRecord 8) ∧
    afterSecondLogin.secrets.lookup 1 = some "newer" ∧
    ∃ later, later = ((finishCall .session sessionInactive (signedInRecord 7)).execute
        afterSecondLogin).1 ∧
      later.secrets.lookup 1 = none ∧
      ¬ SessionSurvives (signedInRecord 8) afterSecondLogin later := by
  have hNewer : afterSecondLogin.secrets.lookup 1 = some "newer" := by decide +kernel
  have hErased : ((finishCall .session sessionInactive (signedInRecord 7)).execute
      afterSecondLogin).1.secrets.lookup 1 = none := by decide +kernel
  refine ⟨⟨⟨rfl, rfl⟩, refused_sessionInactive, by decide +kernel⟩, begin_session,
    load_afterSecondLogin, hNewer, _, rfl, hErased, ?_⟩
  rintro ⟨found, _, _, hKept⟩
  have hToken := hKept 1 (by decide)
  rw [hErased, hNewer] at hToken
  cases hToken

/-- The theorem applies to the two calls. -/
theorem overlapping_calls_keep_session_iff :
    (LeavesSession (signedInRecord 7) (resultOf signIn.1 sessionInactive (signedInRecord 7)) ↔
      refusal sessionInactive ≠ .authenticationRequired ∧
        refusal sessionInactive ≠ .emailVerificationRequired) ∧
    (SessionSurvives (signedInRecord 8) afterSecondLogin
        ((finishCall .session sessionInactive (signedInRecord 7)).execute afterSecondLogin).1 ↔
      refusal sessionInactive ≠ .authenticationRequired ∧
        SameSession (signedInRecord 7) (signedInRecord 8)) :=
  ⟨refusals_keep_session_iff.1 signIn.1 sessionInactive (signedInRecord 7) rfl
      refused_sessionInactive ⟨rfl, rfl⟩,
    refusals_keep_session_iff.2 .session firstServer sessionInactive afterLogin afterBegin
      afterSecondLogin (signedInRecord 7) (signedInRecord 8) begin_session load_afterSecondLogin
      ⟨rfl, rfl⟩ refused_sessionInactive ⟨rfl, fun _ => rfl⟩⟩

end

end HamLogger.HostedAccountClient
