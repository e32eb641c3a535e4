import HamLogger.Sync.HostedAccountSecrets

/-! Calls that change both the storage and the record, or none of them, keep the
two in agreement. -/
namespace HamLogger.HostedAccountClient

open FileReplace (Cut Disk)
open Program
open Transition (Run System)

abbrev Secrets := KeyMap Uuid String

/-! The changes of the storage as a list. -/

/-- A change of the storage, with what it meets. -/
abbrev SecretChange := Option SecretFault × (Secrets → Secrets)

def runChanges : List SecretChange → AccountProgram Unit
  | [] => pure ()
  | (fault, change) :: rest => do
      changeSecrets fault change
      runChanges rest

def applyChanges (changes : List SecretChange) (secrets : Secrets) : Secrets :=
  changes.foldl (fun secrets change => change.2 secrets) secrets

def issuedChange (fault : Option SecretFault) (id : Option Uuid) (token : Option String) :
    List SecretChange :=
  match id, token with
  | some id, some token => [(fault, fun secrets => secrets.insert id token)]
  | _, _ => []

def clearingChanges (fails : Uuid → Option SecretFault) (ids : List Uuid) : List SecretChange :=
  ids.map fun id => (fails id, fun secrets => secrets.erase id)

/-- The changes after a response. -/
def resultChanges (env : AccountEnv) (result : HostedAccountResult) : List SecretChange :=
  issuedChange env.writeSession result.snapshot.sessionTokenCredentialId result.sessionToken ++
    (issuedChange env.writeRefresh result.snapshot.refreshTokenCredentialId result.refreshToken ++
      clearingChanges env.clear result.clearedCredentialIds)

theorem storeIssued_eq (fault : Option SecretFault) (id : Option Uuid) (token : Option String) :
    storeIssued fault id token = runChanges (issuedChange fault id token) := by
  cases id with
  | none => rfl
  | some id =>
      cases token with
      | none => rfl
      | some token => exact (bind_pure _).symm

theorem clearSecrets_eq (fails : Uuid → Option SecretFault) (ids : List Uuid) :
    clearSecrets fails ids = runChanges (clearingChanges fails ids) := by
  induction ids with
  | nil => rfl
  | cons id rest ih =>
      rw [clearSecrets, ih]
      rfl

theorem runChanges_append {α : Type} (first second : List SecretChange)
    (next : Unit → AccountProgram α) :
    (runChanges first >>= fun _ => runChanges second >>= next) =
      runChanges (first ++ second) >>= next := by
  induction first with
  | nil => exact pure_bind ..
  | cons change rest ih =>
      have hCons : ∀ later, runChanges (change :: later) =
          (changeSecrets change.1 change.2 >>= fun _ => runChanges later) := fun _ => rfl
      rw [List.cons_append, hCons, hCons, bind_assoc, bind_assoc, ih]

/-- A first change that fails without being done changes nothing. -/
theorem runChanges_stopped {fault : SecretFault} (h : fault.done = false)
    (change : Secrets → Secrets) (rest : List SecretChange) (world : AccountWorld) :
    Ensures (runChanges ((some fault, change) :: rest)) world fun later outcome =>
      later = world ∧ ∃ error, outcome = .error error := by
  have hFirst : Ensures (changeSecrets (some fault) change) world fun later outcome =>
      later = world ∧ ∃ error, outcome = .error error := by
    unfold changeSecrets
    dsimp only
    rw [h, if_neg (by decide)]
    exact ⟨rfl, _, rfl⟩
  refine hFirst.bind ?_ ?_
  · rintro later error ⟨hSame, _⟩
    exact ⟨hSame, error, rfl⟩
  · rintro later value ⟨_, error, hError⟩
    cases hError

/-- Changes that all go through. -/
theorem runChanges_done {changes : List SecretChange} (h : ∀ change ∈ changes, change.1 = none)
    (world : AccountWorld) :
    Ensures (runChanges changes) world fun later outcome => outcome = .ok () ∧
      later = { world with secrets := applyChanges changes world.secrets } := by
  induction changes generalizing world with
  | nil => exact ⟨rfl, rfl⟩
  | cons change rest ih =>
      obtain ⟨fault, change⟩ := change
      obtain rfl : fault = none := h _ List.mem_cons_self
      have hRest := ih (fun other hOther => h other (List.mem_cons_of_mem _ hOther))
        { world with secrets := change world.secrets }
      exact hRest

theorem lookup_issuedChange (fault : Option SecretFault) (id : Option Uuid)
    (token : Option String) (secrets : Secrets) (key : Uuid) :
    (applyChanges (issuedChange fault id token) secrets).lookup key =
      if id = some key ∧ token.isSome then token else secrets.lookup key := by
  cases id with
  | none => rfl
  | some id =>
      cases token with
      | none => simp [issuedChange, applyChanges]
      | some token =>
          have hApply : applyChanges (issuedChange fault (some id) (some token)) secrets =
              secrets.insert id token := rfl
          rw [hApply, KeyMap.lookup_insert_eq_ite]
          by_cases hSame : key = id
          · simp [hSame]
          · have hOther : ¬ id = key := fun h => hSame h.symm
            simp [hSame, hOther]

theorem lookup_clearingChanges (fails : Uuid → Option SecretFault) (ids : List Uuid)
    (secrets : Secrets) (key : Uuid) :
    (applyChanges (clearingChanges fails ids) secrets).lookup key =
      if key ∈ ids then none else secrets.lookup key := by
  induction ids generalizing secrets with
  | nil => rfl
  | cons id rest ih =>
      have hCons : applyChanges (clearingChanges fails (id :: rest)) secrets =
          applyChanges (clearingChanges fails rest) (secrets.erase id) := rfl
      rw [hCons, ih]
      by_cases hSame : key = id
      · rw [hSame, AList.lookup_erase]
        simp
      · rw [AList.lookup_erase_ne hSame]
        simp [hSame]

theorem applyChanges_append (first second : List SecretChange) (secrets : Secrets) :
    applyChanges (first ++ second) secrets = applyChanges second (applyChanges first secrets) :=
  List.foldl_append

/-! What a response does to the record. -/

/-- The record gives its session up. -/
structure Ended (snapshot : HostedAccountSnapshot) (result : HostedAccountResult) : Prop where
  signedOut : result.snapshot.connectionState ≠ .signedIn
  session : result.snapshot.sessionTokenCredentialId = none
  refresh : result.snapshot.refreshTokenCredentialId = none
  sessionToken : result.sessionToken = none
  refreshToken : result.refreshToken = none
  cleared : result.clearedCredentialIds = snapshot.credentialIds

/-- The record keeps its session. -/
structure Kept (snapshot : HostedAccountSnapshot) (result : HostedAccountResult) : Prop where
  signedIn : result.snapshot.connectionState = .signedIn → snapshot.connectionState = .signedIn
  session : result.snapshot.sessionTokenCredentialId = snapshot.sessionTokenCredentialId
  refresh : result.snapshot.refreshTokenCredentialId = snapshot.refreshTokenCredentialId
  sessionId : result.snapshot.sessionId = snapshot.sessionId
  sessionToken : result.sessionToken = none
  refreshToken : result.refreshToken = none
  cleared : result.clearedCredentialIds = []

theorem kept_self {snapshot : HostedAccountSnapshot} {result : HostedAccountResult}
    (hSnapshot : result.snapshot =
      { snapshot with schemaVersion := hostedAccountFileVersion })
    (hSession : result.sessionToken = none) (hRefresh : result.refreshToken = none)
    (hCleared : result.clearedCredentialIds = []) : Kept snapshot result where
  signedIn h := by rwa [hSnapshot] at h
  session := by rw [hSnapshot]
  refresh := by rw [hSnapshot]
  sessionId := by rw [hSnapshot]
  sessionToken := hSession
  refreshToken := hRefresh
  cleared := hCleared

theorem eq_or_drawn {old named : Option Uuid} {draw id : Uuid} {issued : Bool}
    (h : named = if issued then some (old.getD draw) else old) (hId : named = some id) :
    old = some id ∨ old = none ∧ id = draw := by
  rw [h] at hId
  cases issued with
  | false => exact Or.inl hId
  | true =>
      cases old with
      | none => exact Or.inr ⟨rfl, (Option.some.inj hId).symm⟩
      | some found => exact Or.inl hId

theorem named_of_old {old named : Option Uuid} {draw id : Uuid} {issued : Bool}
    (h : named = if issued then some (old.getD draw) else old) (hId : old = some id) :
    named = some id := by
  rw [h, hId]
  split
  · rfl
  · rfl

theorem loadFile_saved {disk : Disk HostedAccountFile} {snapshot : HostedAccountSnapshot}
    {baseUrl : String} (hVersion : snapshot.schemaVersion = hostedAccountFileVersion)
    (hBase : normalizeBaseUrl snapshot.baseUrl = .ok baseUrl) :
    loadFile (disk.replace { version := hostedAccountFileVersion, snapshot := snapshot } none) =
      .ok snapshot := by
  have hValid : HostedAccountFile.validate
      { version := hostedAccountFileVersion, snapshot := snapshot } = .ok () := by
    unfold HostedAccountFile.validate
    dsimp only
    rw [if_neg (by simp), hVersion, if_neg (by simp), hBase]
    rfl
  unfold loadFile Disk.replace
  dsimp only
  rw [hValid]
  rfl

/-- The disk after a save. -/
theorem saveFile_ensures (snapshot : HostedAccountSnapshot) (cut : Option Cut)
    (world : AccountWorld) :
    Ensures (saveFile snapshot cut) world fun later _ =>
      later = { world with
        disk := world.disk.replace
          { version := hostedAccountFileVersion, snapshot := snapshot } cut } := by
  unfold saveFile
  apply Ensures.modify_bind
  split
  · exact Ensures.throw rfl
  · exact Ensures.pure rfl

section Results
variable [UuidCrate]

/-- The session of a body enters the record. -/
structure Opened (draws : CredentialDraws) (snapshot : HostedAccountSnapshot) (body : Value)
    (result : HostedAccountResult) : Prop where
  session : result.snapshot.sessionTokenCredentialId =
    if (issuedTokens body).1.isSome then some (snapshot.sessionTokenCredentialId.getD draws.session)
    else snapshot.sessionTokenCredentialId
  refresh : result.snapshot.refreshTokenCredentialId =
    if (issuedTokens body).2.isSome then some (snapshot.refreshTokenCredentialId.getD draws.refresh)
    else snapshot.refreshTokenCredentialId
  sessionId : result.snapshot.sessionId = (sessionIdOf body).or snapshot.sessionId
  sessionToken : result.sessionToken = (issuedTokens body).1
  refreshToken : result.refreshToken = (issuedTokens body).2
  cleared : result.clearedCredentialIds = []

/-- The three things that a response can do. -/
inductive Response (action : HostedAccountAction) (env : AccountEnv)
    (snapshot : HostedAccountSnapshot) (result : HostedAccountResult) : Prop where
  | opened (body : Value) (hBody : sessionBody action env.response = some body)
      (hEnds : endsSession action snapshot env.response = false)
      (h : Opened env.draws snapshot body result)
  | ended (hBody : sessionBody action env.response = none)
      (hEnds : endsSession action snapshot env.response = true) (h : Ended snapshot result)
  | kept (hBody : sessionBody action env.response = none)
      (hEnds : endsSession action snapshot env.response = false) (h : Kept snapshot result)

theorem sessionId_applySession (draws : CredentialDraws) (snapshot : HostedAccountSnapshot)
    (body : Value) : (applySession draws snapshot body).sessionId =
      (sessionIdOf body).or snapshot.sessionId := by
  unfold applySession
  cases body.get "account" with
  | none => rfl
  | some account => rfl

theorem accepted_response {action : HostedAccountAction} {env : AccountEnv}
    {response : HostedAccountHttpResponse} (hResponse : env.response = .ok response)
    (hAccepted : 200 ≤ response.status ∧ response.status < 300)
    (snapshot : HostedAccountSnapshot) :
    Response action env snapshot (acceptedResult env.draws action response.status
      (response.body.getD .null) snapshot) := by
  have hBody : sessionBody action env.response =
      if opensSession action then some (response.body.getD .null) else none := by
    rw [hResponse]
    simp [sessionBody, hAccepted]
  have hEnds : endsSession action snapshot env.response = closesSession action snapshot := by
    rw [hResponse]
    exact if_pos hAccepted
  cases action with
  | register | recoveryStart =>
      exact .kept hBody hEnds
        ⟨fun h => (by first | exact h | cases h), rfl, rfl, rfl, rfl, rfl, rfl⟩
  | deviceList | deviceRegister => exact .kept hBody hEnds (kept_self rfl rfl rfl rfl)
  | verifyEmail =>
      refine .kept hBody hEnds ?_
      unfold acceptedResult
      have hState : ∀ state : HostedAccountConnectionState,
          (if state = .signedIn then HostedAccountConnectionState.signedIn else .signedOut) =
            .signedIn → state = .signedIn := by
        intro state h
        split at h
        · assumption
        · cases h
      cases (response.body.getD .null).get "account" with
      | none => exact ⟨hState _, rfl, rfl, rfl, rfl, rfl, rfl⟩
      | some account => exact ⟨hState _, rfl, rfl, rfl, rfl, rfl, rfl⟩
  | logout | logoutAll | deviceRevokeAll | accountDelete =>
      exact .ended hBody hEnds ⟨fun h => (by cases h), rfl, rfl, rfl, rfl, rfl⟩
  | deviceRevoke deviceId =>
      unfold acceptedResult
      dsimp only
      split
      · next hOwn =>
          exact .ended hBody (hEnds.trans (decide_eq_true hOwn))
            ⟨fun h => (by cases h), rfl, rfl, rfl, rfl, rfl⟩
      · next hOther =>
          exact .kept hBody (hEnds.trans (decide_eq_false hOther)) (kept_self rfl rfl rfl rfl)
  | recoveryComplete | bootstrap | login | sessionRotate | session =>
      exact .opened _ hBody hEnds ⟨session_applySession .., refresh_applySession ..,
        sessionId_applySession env.draws .., rfl, rfl, rfl⟩

theorem response_resultOf (action : HostedAccountAction) (env : AccountEnv)
    (snapshot : HostedAccountSnapshot) :
    Response action env snapshot (resultOf action env snapshot) := by
  unfold resultOf
  cases hResponse : env.response with
  | error message =>
      refine .kept ?_ ?_ (kept_self rfl rfl rfl rfl)
      · rw [hResponse]
        rfl
      · rw [hResponse]
        rfl
  | ok response =>
      dsimp only
      unfold applyHostedAccountResponse
      dsimp only
      split
      · next hAccepted => exact accepted_response hResponse hAccepted snapshot
      · next hRefused =>
          have hBody : sessionBody action env.response = none := by
            rw [hResponse]
            exact if_neg fun h => hRefused h.1
          have hEnds : endsSession action snapshot env.response = decide
              (classifyHostedAccountError (((response.body.getD .null).get "code").bind Value.asStr)
                response.status = .authenticationRequired) := by
            rw [hResponse]
            exact if_neg hRefused
          split
          · next hOutcome =>
              refine .ended hBody (hEnds.trans (decide_eq_true hOutcome))
                ⟨fun h => ?_, rfl, rfl, rfl, rfl, rfl⟩
              dsimp only [endSession] at h
              split at h
              · cases h
              · cases h
          · next hOutcome =>
              refine .kept hBody (hEnds.trans (decide_eq_false fun h => ?_))
                ⟨fun h => (by cases h), rfl, rfl, rfl, rfl, rfl, rfl⟩
              rw [hOutcome] at h
              cases h
          · next hOther _ =>
              exact .kept hBody (hEnds.trans (decide_eq_false hOther)) (kept_self rfl rfl rfl rfl)

theorem schemaVersion_resultOf (action : HostedAccountAction) (env : AccountEnv)
    (snapshot : HostedAccountSnapshot) :
    (resultOf action env snapshot).snapshot.schemaVersion = hostedAccountFileVersion := by
  unfold resultOf
  cases env.response with
  | error message => rfl
  | ok response =>
      dsimp only
      unfold applyHostedAccountResponse
      dsimp only
      split
      · cases action with
        | deviceRevoke deviceId =>
            unfold acceptedResult
            dsimp only
            split
            · rfl
            · rfl
        | _ => rfl
      · split
        · rfl
        · rfl
        · rfl

/-! What a whole call leaves. -/

theorem agrees_kept {snapshot : HostedAccountSnapshot} {world : AccountWorld}
    {result : HostedAccountResult} (hAgrees : Agrees snapshot world) (h : Kept snapshot result) :
    Agrees result.snapshot world where
  signedIn hSigned := by
    rw [h.session]
    exact hAgrees.signedIn (h.signedIn hSigned)
  session id hId := by
    rw [h.session] at hId
    rw [h.sessionId]
    exact hAgrees.session id hId
  named id token hStored := by
    rw [HostedAccountSnapshot.credentialIds, h.session, h.refresh]
    exact hAgrees.named id token hStored
  separate id hId := by
    rw [h.session] at hId
    rw [h.refresh]
    exact hAgrees.separate id hId

/-- All secrets that the record has named are gone. -/
theorem agrees_ended {snapshot : HostedAccountSnapshot} {world : AccountWorld}
    {result : HostedAccountResult} (hAgrees : Agrees snapshot world) (h : Ended snapshot result)
    (env : AccountEnv) :
    Agrees result.snapshot { world with
      secrets := applyChanges (clearingChanges env.clear snapshot.credentialIds)
        world.secrets } where
  signedIn hSigned := absurd hSigned h.signedOut
  session id hId := by
    rw [h.session] at hId
    cases hId
  named id token hStored := by
    have hLookup := lookup_clearingChanges env.clear snapshot.credentialIds world.secrets id
    rw [hStored] at hLookup
    split at hLookup
    · cases hLookup
    · next hOther => exact absurd (hAgrees.named id token hLookup.symm) hOther
  separate id hId := by
    rw [h.session] at hId
    cases hId

/-- The record names the tokens that a body has issued, which are stored. -/
theorem agrees_opened {snapshot : HostedAccountSnapshot} {world : AccountWorld}
    {result : HostedAccountResult} {env : AccountEnv} {body : Value}
    (hAgrees : Agrees snapshot world) (h : Opened env.draws snapshot body result)
    (hFresh : FreshDraws env.draws snapshot) (hKeeps : KeepsSession snapshot body)
    (hIssued : ∀ sessionId token, sessionIdOf body = some sessionId →
      (issuedTokens body).1 = some token → SessionIssued world.exchanges sessionId token) :
    Agrees result.snapshot { world with
      secrets := applyChanges
        (issuedChange env.writeRefresh result.snapshot.refreshTokenCredentialId result.refreshToken)
        (applyChanges (issuedChange env.writeSession result.snapshot.sessionTokenCredentialId
          result.sessionToken) world.secrets) } := by
  have hSeparate : ∀ id, result.snapshot.sessionTokenCredentialId = some id →
      result.snapshot.refreshTokenCredentialId ≠ some id := by
    intro id hSession hRefresh
    have hOldSession : ∀ other, snapshot.sessionTokenCredentialId = some other →
        other ∈ snapshot.credentialIds :=
      fun other hOther => List.mem_append_left _ (Option.mem_toList.mpr hOther)
    have hOldRefresh : ∀ other, snapshot.refreshTokenCredentialId = some other →
        other ∈ snapshot.credentialIds :=
      fun other hOther => List.mem_append_right _ (Option.mem_toList.mpr hOther)
    rcases eq_or_drawn h.session hSession with hOld | ⟨_, hDrawn⟩
    · rcases eq_or_drawn h.refresh hRefresh with hOther | ⟨_, hDrawn⟩
      · exact hAgrees.separate id hOld hOther
      · exact hFresh.refresh (hDrawn ▸ hOldSession id hOld)
    · rcases eq_or_drawn h.refresh hRefresh with hOther | ⟨_, hOther⟩
      · exact hFresh.session (hDrawn ▸ hOldRefresh id hOther)
      · exact hFresh.separate (hDrawn.symm.trans hOther)
  refine ⟨?_, ?_, ?_, hSeparate⟩
  · intro _
    rw [h.session]
    split
    · rfl
    · next hNone =>
        unfold KeepsSession at hKeeps
        rw [Option.not_isSome_iff_eq_none.mp hNone] at hKeeps
        exact hKeeps.1
  · intro id hId
    have hLookup : (applyChanges (issuedChange env.writeRefresh
        result.snapshot.refreshTokenCredentialId result.refreshToken)
        (applyChanges (issuedChange env.writeSession result.snapshot.sessionTokenCredentialId
          result.sessionToken) world.secrets)).lookup id =
        if (issuedTokens body).1.isSome then (issuedTokens body).1
        else world.secrets.lookup id := by
      rw [lookup_issuedChange, if_neg fun hSame => hSeparate id hId hSame.1, lookup_issuedChange,
        h.sessionToken, hId]
      simp
    dsimp only
    rw [hLookup]
    unfold KeepsSession at hKeeps
    cases hToken : (issuedTokens body).1 with
    | some token =>
        rw [hToken] at hKeeps
        obtain ⟨sessionId, hSession⟩ := Option.isSome_iff_exists.mp hKeeps
        refine ⟨sessionId, token, ?_, rfl, hIssued sessionId token hSession hToken⟩
        rw [h.sessionId, hSession]
        rfl
    | none =>
        rw [hToken] at hKeeps
        rw [h.session, hToken] at hId
        obtain ⟨sessionId, token, hSession, hStored, hOld⟩ := hAgrees.session id hId
        refine ⟨sessionId, token, ?_, hStored, hOld⟩
        rw [h.sessionId]
        rcases hKeeps.2 with hNone | hSame
        · rw [hNone]
          exact hSession
        · rw [hSame, hSession]
          rfl
  · intro id token hStored
    dsimp only at hStored
    rw [lookup_issuedChange] at hStored
    split at hStored
    · next hRefresh => exact List.mem_append_right _ (Option.mem_toList.mpr hRefresh.1)
    rw [lookup_issuedChange] at hStored
    split at hStored
    · next hSession => exact List.mem_append_left _ (Option.mem_toList.mpr hSession.1)
    rcases List.mem_append.mp (hAgrees.named id token hStored) with hOld | hOld
    · exact List.mem_append_left _
        (Option.mem_toList.mpr (named_of_old h.session (Option.mem_toList.mp hOld)))
    · exact List.mem_append_right _
        (Option.mem_toList.mpr (named_of_old h.refresh (Option.mem_toList.mp hOld)))

/-- The changes after a response meet what was said before it came. -/
theorem faults_resultChanges {action : HostedAccountAction} {env : AccountEnv}
    {snapshot : HostedAccountSnapshot} {result : HostedAccountResult}
    (h : Response action env snapshot result) :
    (resultChanges env result).map Prod.fst = changeFaults action env snapshot := by
  have hIssued : ∀ (fault : Option SecretFault) (id : Option Uuid) (token : Option String),
      (token.isSome = true → id.isSome = true) →
        (issuedChange fault id token).map Prod.fst = if token.isSome then [fault] else [] := by
    intro fault id token hNamed
    cases token with
    | none => cases id with
      | none => rfl
      | some id => rfl
    | some token =>
        obtain ⟨id, rfl⟩ := Option.isSome_iff_exists.mp (hNamed rfl)
        rfl
  have hNone : ∀ (fault : Option SecretFault) (id : Option Uuid),
      (issuedChange fault id none).map Prod.fst = [] :=
    fun fault id => hIssued fault id none fun hSome => by cases hSome
  have hClearing : ∀ ids, (clearingChanges env.clear ids).map Prod.fst = ids.map env.clear := by
    intro ids
    rw [clearingChanges, List.map_map]
    rfl
  unfold resultChanges changeFaults
  rw [List.map_append, List.map_append, hClearing]
  cases h with
  | opened body hBody hEnds h =>
      rw [hBody, hEnds, h.cleared, hIssued, hIssued, h.sessionToken, h.refreshToken]
      · simp
      · intro hSome
        rw [h.refreshToken] at hSome
        rw [h.refresh, if_pos hSome]
        rfl
      · intro hSome
        rw [h.sessionToken] at hSome
        rw [h.session, if_pos hSome]
        rfl
  | ended hBody hEnds h | kept hBody hEnds h =>
      rw [hBody, hEnds, h.cleared, h.sessionToken, h.refreshToken, hNone, hNone]
      rfl

/-- Changes that all go through leave the record that is saved in agreement. -/
theorem agrees_resultChanges {action : HostedAccountAction} {env : AccountEnv}
    {snapshot : HostedAccountSnapshot} {result : HostedAccountResult} {world : AccountWorld}
    (h : Response action env snapshot result) (hAgrees : Agrees snapshot world)
    (hFresh : FreshDraws env.draws snapshot) (hCompletes : Completes action env snapshot)
    (hIssued : ∀ body, sessionBody action env.response = some body → ∀ sessionId token,
      sessionIdOf body = some sessionId → (issuedTokens body).1 = some token →
        SessionIssued world.exchanges sessionId token) :
    Agrees result.snapshot
      { world with secrets := applyChanges (resultChanges env result) world.secrets } := by
  have hNone : ∀ (fault : Option SecretFault) (id : Option Uuid),
      issuedChange fault id none = [] := by
    intro fault id
    cases id with
    | none => rfl
    | some id => rfl
  unfold resultChanges
  cases h with
  | opened body hBody hEnds h =>
      rw [h.cleared, applyChanges_append, applyChanges_append]
      exact agrees_opened hAgrees h hFresh (hCompletes.keeps body hBody) (hIssued body hBody)
  | ended hBody hEnds h =>
      rw [h.sessionToken, h.refreshToken, h.cleared, hNone, hNone]
      exact agrees_ended hAgrees h env
  | kept hBody hEnds h =>
      rw [h.sessionToken, h.refreshToken, h.cleared, hNone, hNone]
      exact agrees_kept hAgrees h

/-- A save that is cut off leaves the record as it was, or no record. -/
theorem settled_cut {world : AccountWorld} (h : Settled world) (file : HostedAccountFile)
    (cut : Cut) (hRemoved : cut = .oldRemoved → NoSecrets world) :
    Settled { world with disk := world.disk.replace file (some cut) } := by
  by_cases hCut : cut = .oldRemoved
  · refine settled_new (hRemoved hCut) fun snapshot hLoad => ?_
    rw [hCut] at hLoad
    exact absurd hLoad (loadFile_of_missing rfl snapshot)
  · refine h.later ?_ rfl ⟨[], (List.append_nil _).symm⟩
    unfold loadFile
    dsimp only
    rw [Disk.file_replace_of_cut _ _ hCut]

/-- Once the response is there, an orderly call leaves the two in agreement. -/
theorem finish_settled {world : AccountWorld} {snapshot : HostedAccountSnapshot}
    {action : HostedAccountAction} {env : AccountEnv} {result : HostedAccountResult}
    {baseUrl : String} (hSettled : Settled world) (hAgrees : Agrees snapshot world)
    (hResponse : Response action env snapshot result)
    (hVersion : result.snapshot.schemaVersion = hostedAccountFileVersion)
    (hBase : normalizeBaseUrl result.snapshot.baseUrl = .ok baseUrl)
    (hFresh : FreshDraws env.draws snapshot)
    (hOrderly : StopsEarly world env.save (changeFaults action env snapshot) ∨
      Completes action env snapshot)
    (hIssued : ∀ body, sessionBody action env.response = some body → ∀ sessionId token,
      sessionIdOf body = some sessionId → (issuedTokens body).1 = some token →
        SessionIssued world.exchanges sessionId token) :
    Ensures (do
      storeIssued env.writeSession result.snapshot.sessionTokenCredentialId result.sessionToken
      storeIssued env.writeRefresh result.snapshot.refreshTokenCredentialId result.refreshToken
      clearSecrets env.clear result.clearedCredentialIds
      saveFile result.snapshot env.save
      return result) world fun later _ => Settled later := by
  have hAfter := agrees_resultChanges hResponse hAgrees hFresh
  have hFaults := faults_resultChanges hResponse
  rw [storeIssued_eq, storeIssued_eq, clearSecrets_eq, runChanges_append, runChanges_append,
    List.append_assoc]
  rw [← resultChanges]
  generalize resultChanges env result = changes at hAfter hFaults
  rcases hOrderly with hStops | hCompletes
  · rw [← hFaults] at hStops
    match changes, hStops with
    | [], ⟨hSome, hRemoved⟩ =>
        obtain ⟨cut, hCut⟩ := Option.isSome_iff_exists.mp hSome
        have hCutOff := settled_cut hSettled
          { version := hostedAccountFileVersion, snapshot := result.snapshot } cut
          fun hSame => hRemoved (hCut.trans (congrArg some hSame))
        refine Ensures.bind (R := fun later _ => later = world) rfl ?_ ?_
        · rintro later error rfl
          exact hSettled
        rintro later _ rfl
        rw [hCut]
        refine (saveFile_ensures result.snapshot (some cut) later).bind ?_ ?_
        · rintro last error rfl
          exact hCutOff
        · rintro last _ rfl
          exact hCutOff
    | (some fault, change) :: rest, hDone =>
        refine (runChanges_stopped hDone change rest world).bind ?_ ?_
        · rintro later error ⟨rfl, _⟩
          exact hSettled
        · rintro later value ⟨_, error, hError⟩
          cases hError
  · have hAll : ∀ change ∈ changes, change.1 = none := by
      intro change hChange
      refine hCompletes.faults _ ?_
      rw [← hFaults]
      exact List.mem_map_of_mem hChange
    have hSaved := hAfter hCompletes hIssued
    refine (runChanges_done hAll world).bind ?_ ?_
    · rintro later error ⟨hError, _⟩
      cases hError
    rintro later _ ⟨_, rfl⟩
    rw [hCompletes.save]
    refine (saveFile_ensures result.snapshot none _).bind ?_ ?_
    all_goals
      rintro last _ rfl
      have hLoad := @loadFile_saved world.disk result.snapshot baseUrl hVersion hBase
      refine ⟨fun found hFound => ?_, fun hMissing => absurd hLoad (hMissing _)⟩
      obtain rfl := Except.ok.inj (hLoad.symm.trans hFound)
      exact hSaved.later rfl ⟨[], (List.append_nil _).symm⟩

/-- What reading the record leaves. -/
theorem loadOrInitialize_settled {world : AccountWorld} (h : Settled world)
    (config : HostedAccountConfig) (env : AccountEnv) :
    Ensures (loadOrInitialize config env) world fun later outcome =>
      Settled later ∧ later.secrets = world.secrets ∧
        ∀ snapshot, outcome = .ok snapshot → StartsFrom world snapshot ∧ Agrees snapshot later := by
  unfold loadOrInitialize
  apply Ensures.get_bind
  cases hLoad : loadFile world.disk with
  | ok stored =>
      refine Ensures.pure ⟨h, rfl, fun snapshot hSnapshot => ?_⟩
      obtain rfl := Except.ok.inj hSnapshot
      exact ⟨Or.inl hLoad, h.agrees _ hLoad⟩
  | error error =>
      have hMissing : ∀ found, loadFile world.disk ≠ .ok found := by
        intro found hFound
        rw [hLoad] at hFound
        cases hFound
      have hEmpty := h.empty hMissing
      have hQuarantine : Ensures (quarantineFile env) world fun later _ =>
          later.secrets = world.secrets ∧ ∀ found, loadFile later.disk ≠ .ok found := by
        unfold quarantineFile
        apply Ensures.get_bind
        split
        · split
          · exact Ensures.throw ⟨rfl, hMissing⟩
          · exact ⟨rfl, loadFile_of_missing rfl⟩
        · exact Ensures.pure ⟨rfl, hMissing⟩
      have hNoSecrets : ∀ {later : AccountWorld}, later.secrets = world.secrets →
          NoSecrets later := by
        intro later hSecrets id
        rw [hSecrets]
        exact hEmpty id
      refine hQuarantine.bind ?_ ?_
      · rintro later error ⟨hSecrets, hNone⟩
        exact ⟨settled_new (hNoSecrets hSecrets) fun found hFound => absurd hFound (hNone found),
          hSecrets, fun snapshot hOk => by cases hOk⟩
      rintro middle _ ⟨hSecrets, hNone⟩
      unfold startRecord
      apply Ensures.reading_bind
      · intro error _
        exact ⟨settled_new (hNoSecrets hSecrets) fun found hFound => absurd hFound (hNone found),
          hSecrets, fun snapshot hOk => by cases hOk⟩
      intro normalized _
      have hNew : Settled { middle with
          disk := middle.disk.replace
            { version := hostedAccountFileVersion, snapshot := .new normalized }
            env.initialSave } := by
        refine settled_new (hNoSecrets hSecrets) fun found hFound => ?_
        rcases loadFile_replace hFound with hOld | hSame
        · exact absurd hOld (hNone found)
        · exact ⟨normalized, hSame⟩
      refine (saveFile_ensures (.new normalized) env.initialSave middle).bind ?_ ?_
      · rintro last error rfl
        exact ⟨hNew, hSecrets, fun snapshot hOk => by cases hOk⟩
      · rintro last _ rfl
        refine Ensures.pure ⟨hNew, hSecrets, fun snapshot hSnapshot => ?_⟩
        obtain rfl := Except.ok.inj hSnapshot
        refine ⟨Or.inr ⟨hMissing, normalized, rfl⟩, agrees_new ?_ normalized⟩
        exact hNoSecrets hSecrets

/-- An orderly call keeps the record and the storage in agreement. -/
theorem execute_settled {world : AccountWorld} (h : Settled world)
    {action : HostedAccountAction} {env : AccountEnv} (hOrderly : Orderly world action env)
    (config : HostedAccountConfig) :
    Ensures (execute action config env) world fun later _ => Settled later := by
  unfold execute
  refine (loadOrInitialize_settled h config env).bind (fun _ _ hLater => hLater.1) ?_
  intro loaded snapshot hLoaded
  obtain ⟨hSettled, hSecrets, hSnapshot⟩ := hLoaded
  obtain ⟨hStarts, hAgrees⟩ := hSnapshot snapshot rfl
  apply Ensures.reading_bind (fun _ _ => hSettled)
  intro plan hPlan
  have hPlanned := planned hPlan
  obtain ⟨baseUrl, hBase, _⟩ := hPlanned.server
  rcases hOrderly snapshot hStarts with ⟨error, hError⟩ | ⟨hFresh, hRest⟩
  · rw [hPlan] at hError
    cases hError
  refine (readSessionToken_ensures plan env loaded).bind ?_ ?_
  · rintro later error ⟨rfl, _⟩
    exact hSettled
  rintro later sessionToken ⟨rfl, _⟩
  refine (requestBody_ensures env later hPlanned.field hPlanned.body).bind ?_ ?_
  · rintro last error ⟨rfl, _⟩
    exact hSettled
  rintro last body ⟨rfl, _⟩
  apply Ensures.modify_bind
  have hFollows : Follows snapshot
      { plan := plan, body := body, sessionToken := sessionToken, response := env.response }
      (resultOf action env snapshot) := follows_resultOf action env snapshot rfl
  refine finish_settled (hSettled.later rfl rfl ⟨_, rfl⟩) (hAgrees.later rfl ⟨_, rfl⟩)
    (response_resultOf action env snapshot) (schemaVersion_resultOf action env snapshot)
    ((congrArg normalizeBaseUrl hFollows.server).trans hBase) hFresh ?_ ?_
  · refine hRest.imp_left fun hStops => ?_
    generalize changeFaults action env snapshot = faults at hStops
    match faults, hStops with
    | [], ⟨hSome, hRemoved⟩ =>
        refine ⟨hSome, fun hCut id => ?_⟩
        have hNone := hRemoved hCut id
        rw [← hSecrets] at hNone
        exact hNone
    | some fault :: _, hDone => exact hDone
  · intro found hFound sessionId token hSession hToken
    refine ⟨_, List.mem_append_right _ List.mem_cons_self, ?_⟩
    unfold sessionBody at hFound
    split at hFound
    · next response hResponse =>
        split at hFound
        · refine ⟨response, hResponse, ?_⟩
          rw [Option.some.inj hFound]
          exact ⟨hSession, hToken⟩
        · cases hFound
    · cases hFound

/-! Runs of requests. -/

/-- The requests of one client, with what each of them meets. -/
def executeSystem :
    System AccountWorld ((HostedAccountAction × HostedAccountConfig) × AccountEnv) where
  step world label later :=
    later = (AccountCall.execute label.1.1 label.1.2).after label.2 world

/-- Over orderly requests of a client that starts without a record, the record
and the storage agree. -/
theorem orderly_requests_keep_secrets {start world : AccountWorld}
    {labels : List ((HostedAccountAction × HostedAccountConfig) × AccountEnv)}
    (hFile : start.disk.file = none) (hSecrets : start.secrets = ∅)
    (run : Run (executeSystem.restrict fun world label => Orderly world label.1.1 label.2)
      start labels world) : SecretsKept world := by
  have hStep : ∀ state label later, Settled state →
      (executeSystem.restrict fun world label => Orderly world label.1.1 label.2).step
        state label later → Settled later := by
    intro state label later hState hAllowed
    obtain ⟨hOrderly, rfl⟩ := hAllowed
    exact execute_settled hState hOrderly label.1.2
  have hStart : Settled start := by
    refine settled_new (fun id => ?_) fun snapshot hLoad => absurd hLoad
      (loadFile_of_missing hFile snapshot)
    rw [hSecrets]
    exact AList.lookup_empty id
  exact (run.invariant hStep hStart).secretsKept

end Results

section
open Crates

/-- A response that signs a client in with a token of a session. -/
def signedInTo (session : List (String × Value)) (save : Option Cut) : AccountEnv where
  save := save
  draws := { session := 1, refresh := 2 }
  response := .ok { status := 200, body := some (.object [("session", .object session)]) }

def tokenOfSession : List (String × Value) :=
  [("session_id", .string (UuidCrate.display 7)), ("token", .string "secret")]

def signIn : HostedAccountAction × HostedAccountConfig :=
  (.login "me@a.b" none, firstServer)

theorem orderly_requests_keep_secrets_login :
    SecretsKept ((AccountCall.execute signIn.1 signIn.2).after
      (signedInTo tokenOfSession none) {}) := by
  have hOrderly : Orderly {} signIn.1 (signedInTo tokenOfSession none) := by
    intro snapshot hStarts
    rcases hStarts with hFile | ⟨_, config, rfl⟩
    · cases hFile
    refine Or.inr ⟨⟨by decide, by simp [HostedAccountSnapshot.credentialIds,
      HostedAccountSnapshot.new], by simp [HostedAccountSnapshot.credentialIds,
      HostedAccountSnapshot.new]⟩, Or.inr ⟨?_, rfl, ?_⟩⟩
    · have hFaults : changeFaults signIn.1 (signedInTo tokenOfSession none) (.new config) =
          [none] := by rfl
      rw [hFaults]
      exact fun fault hFault => List.mem_singleton.mp hFault
    · intro body hBody
      obtain rfl := Option.some.inj hBody
      have hToken : (issuedTokens (.object [("session", .object tokenOfSession)])).1 =
          some "secret" := by decide +kernel
      have hSession : (sessionIdOf (.object [("session", .object tokenOfSession)])).isSome =
          true := by decide +kernel
      show KeepsSession _ (.object [("session", .object tokenOfSession)])
      unfold KeepsSession
      rw [hToken]
      exact hSession
  have hRun : Run (executeSystem.restrict fun world label => Orderly world label.1.1 label.2) {}
      [(signIn, signedInTo tokenOfSession none)] _ :=
    Run.single (by exact ⟨hOrderly, rfl⟩)
  exact orderly_requests_keep_secrets rfl rfl hRun

/-- A login without a token signs the record in, and a record that cannot be
saved leaves the token behind. -/
theorem login_without_token_signs_in :
    (∃ labels world, Run executeSystem {} labels world ∧
      (∃ snapshot, loadFile world.disk = .ok snapshot ∧ snapshot.connectionState = .signedIn ∧
        snapshot.sessionTokenCredentialId = none) ∧ ¬ SecretsKept world) ∧
    ∃ labels world, Run executeSystem {} labels world ∧
      world.secrets.lookup 1 = some "secret" ∧ ¬ SecretsKept world := by
  constructor
  · let world := (AccountCall.execute signIn.1 signIn.2).after (signedInTo [] none) {}
    have hRecord : ((loadFile world.disk).toOption.map fun snapshot =>
        (snapshot.connectionState, snapshot.sessionTokenCredentialId)) =
          some (.signedIn, none) := by decide +kernel
    obtain ⟨snapshot, hSome, hState⟩ := Option.map_eq_some_iff.mp hRecord
    have hLoad : loadFile world.disk = .ok snapshot := by
      cases hFile : loadFile world.disk with
      | ok found =>
          rw [hFile] at hSome
          exact congrArg Except.ok (Option.some.inj hSome)
      | error error =>
          rw [hFile] at hSome
          cases hSome
    have hSigned := congrArg Prod.fst hState
    have hNone := congrArg Prod.snd hState
    refine ⟨[(signIn, signedInTo [] none)], world, Run.single rfl,
      ⟨snapshot, hLoad, hSigned, hNone⟩, fun hKept => ?_⟩
    obtain ⟨id, _, _, hNamed, _⟩ := hKept.signedIn snapshot hLoad hSigned
    cases hNone.symm.trans hNamed
  · let world := (AccountCall.execute signIn.1 signIn.2).after
      (signedInTo tokenOfSession (some .notStarted)) {}
    have hStored : world.secrets.lookup 1 = some "secret" := by decide +kernel
    have hIds : ((loadFile world.disk).toOption.map HostedAccountSnapshot.credentialIds) =
        some [] := by decide +kernel
    refine ⟨[(signIn, signedInTo tokenOfSession (some .notStarted))], world, Run.single rfl,
      hStored, fun hKept => ?_⟩
    obtain ⟨snapshot, hLoad, hNamed⟩ := hKept.named 1 "secret" hStored
    rw [hLoad] at hIds
    rw [Option.some.inj hIds] at hNamed
    cases hNamed

end
end HamLogger.HostedAccountClient
