import HamLogger.Server.ProviderRuns
import HamLogger.Server.RateLimits

/-! The lifetimes that an administrator sets, and the requests that issue
sessions, tokens and invitations with them. -/
namespace HamLogger

open Program

/-- The lifetimes of a configuration, in seconds. -/
structure Durations where
  session : Int
  refresh : Int
  invitation : Int
  verification : Int
  recovery : Int

def HostingConfig.durations (config : HostingConfig) : Durations where
  session := config.sessionTtlSeconds
  refresh := config.refreshTtlSeconds
  invitation := config.invitationTtlSeconds
  verification := config.verificationTtlSeconds
  recovery := config.recoveryTtlSeconds

/-- What has an end: a session under the hash of its token, and the others under
their identifiers. -/
inductive IssuedKey where
  | session (tokenHash : String)
  | verification (id : Uuid)
  | recovery (id : Uuid)
  | invitation (id : Uuid)

/-- An instant plus a lifetime is an instant after it. -/
def Lasts (now : DateTime) (seconds : Int) : Prop :=
  ∃ later, now.addSeconds seconds = some later ∧ now < later

theorem lasts_of_inRange {now later : DateTime} {seconds : Int} (hPositive : 0 < seconds)
    (h : now.addSeconds seconds = some later) : Lasts now seconds := by
  refine ⟨later, h, ?_⟩
  have hNanos := DateTime.addSeconds_nanos h
  change now.nanos < later.nanos
  omega

def Durations.Positive (durations : Durations) : Prop :=
  0 < durations.session ∧ 0 < durations.refresh ∧ 0 < durations.invitation ∧
    0 < durations.verification ∧ 0 < durations.recovery

section Handlers
variable [UuidCrate]

/-- The ends of what was issued under a key. -/
def ServerState.ends (state : ServerState) : IssuedKey → Option (List DateTime)
  | .session tokenHash => (state.sessionsByToken.lookup tokenHash).map fun session =>
      session.expiresAt.toList ++ session.refreshExpiresAt.toList
  | .verification id => (state.emailVerifications.lookup id).map fun record => [record.expiresAt]
  | .recovery id => (state.recoveryTokens.lookup id).map fun record => [record.expiresAt]
  | .invitation id => (state.invites.lookup id).map fun invite => [invite.expiresAt]

/-- What a handler could do to lifetimes and ends. -/
def ServerState.lifetimes (state : ServerState) :
    Durations × (IssuedKey → Option (List DateTime)) :=
  (state.hostingConfig.durations, state.ends)

/-- A change that issues things with ends after the instant, and leaves the others. -/
structure Issues (now : DateTime) (before after : ServerState) : Prop where
  durations : after.hostingConfig.durations = before.hostingConfig.durations
  ends : ∀ key, after.ends key = before.ends key ∨
    ∃ dates, after.ends key = some dates ∧ dates ≠ [] ∧ ∀ date ∈ dates, now < date

theorem issues_of_same {now : DateTime} {before after : ServerState}
    (h : after.lifetimes = before.lifetimes) : Issues now before after :=
  ⟨(Prod.mk.inj h).1, fun key => .inl (congrFun (Prod.mk.inj h).2 key)⟩

theorem Issues.trans {now : DateTime} {before middle after : ServerState}
    (hFirst : Issues now before middle) (hSecond : Issues now middle after) :
    Issues now before after := by
  refine ⟨hSecond.durations.trans hFirst.durations, fun key => ?_⟩
  rcases hSecond.ends key with hKept | hIssued
  · rcases hFirst.ends key with hOld | ⟨dates, hDates, hNew⟩
    · exact .inl (hKept.trans hOld)
    · exact .inr ⟨dates, hKept.trans hDates, hNew⟩
  · exact .inr hIssued

/-- The request does not panic, and what it issues ends after it. -/
def CompletesAt {α : Type} (now : DateTime) (program : Handler α) (state : ServerState) : Prop :=
  (program.execute state).2 ≠ .error .panic ∧ Issues now state (program.execute state).1

section Rules
variable {α β : Type} {now : DateTime} {state : ServerState}

theorem completes_pure (value : α) : CompletesAt now (pure value) state :=
  ⟨fun h => (by cases h), issues_of_same rfl⟩

theorem completes_reject (error : ApiError) : CompletesAt now (reject error : Handler α) state :=
  ⟨fun h => (by cases h), issues_of_same rfl⟩

theorem completes_bind {first : Handler α} {next : α → Handler β}
    (hFirst : CompletesAt now first state)
    (hNext : ∀ later value, later.hostingConfig.durations = state.hostingConfig.durations →
      CompletesAt now (next value) later) : CompletesAt now (first >>= next) state := by
  unfold CompletesAt at hFirst ⊢
  rw [execute_bind]
  rcases hRun : first.execute state with ⟨later, outcome⟩
  rw [hRun] at hFirst
  cases outcome with
  | error error =>
      refine ⟨fun hPanic => hFirst.1 ?_, hFirst.2⟩
      exact congrArg Except.error (Except.error.inj hPanic)
  | ok value =>
      have hRest := hNext later value hFirst.2.durations
      exact ⟨hRest.1, hFirst.2.trans hRest.2⟩

theorem completes_get_bind {next : ServerState → Handler β}
    (h : CompletesAt now (next state) state) :
    CompletesAt now (get >>= next) state := h

theorem completes_pure_bind {value : α} {next : α → Handler β}
    (h : CompletesAt now (next value) state) : CompletesAt now (pure value >>= next) state := h

/-- A change that touches neither a lifetime nor an end. -/
theorem completes_modify {change : ServerState → ServerState}
    (h : (change state).lifetimes = state.lifetimes) :
    CompletesAt now (modify change : Handler Unit) state :=
  ⟨fun hPanic => (by cases hPanic), issues_of_same h⟩

theorem completes_change {change : ServerState → ServerState}
    (h : Issues now state (change state)) : CompletesAt now (modify change : Handler Unit) state :=
  ⟨fun hPanic => (by cases hPanic), h⟩

theorem completes_set {later : ServerState} (h : Issues now state later) :
    CompletesAt now (set later : Handler Unit) state :=
  ⟨fun hPanic => (by cases hPanic), h⟩

theorem completes_orReject {error : ApiError} {value : Option α} :
    CompletesAt now (orReject error value) state := by
  cases value with
  | none => exact completes_reject error
  | some found => exact completes_pure found

theorem completes_orReject_bind {error : ApiError} {value : Option α} {next : α → Handler β}
    (h : ∀ found, value = some found → CompletesAt now (next found) state) :
    CompletesAt now (orReject error value >>= next) state := by
  cases value with
  | none => exact completes_reject error
  | some found => exact h found rfl

theorem completes_orPanic_bind {value : Option α} {found : α} {next : α → Handler β}
    (hValue : value = some found) (h : CompletesAt now (next found) state) :
    CompletesAt now (orPanic value >>= next) state := by
  subst hValue
  exact h

theorem completes_guard {test : Prop} [Decidable test] {error : ApiError}
    {next : Unit → Handler β} (h : ¬ test → CompletesAt now (next ()) state) :
    CompletesAt now (if test then reject error >>= next else next ()) state := by
  by_cases hTest : test
  · rw [if_pos hTest]
    exact completes_reject error
  · rw [if_neg hTest]
    exact h hTest

theorem completes_parseJson_bind {Input : Type} {body : Except String Input}
    {next : Input → Handler β}
    (h : ∀ input, body = .ok input → CompletesAt now (next input) state) :
    CompletesAt now (parseJson body >>= next) state := by
  cases body with
  | error message => exact completes_reject _
  | ok input => exact h input rfl

theorem completes_savingWith (failure : Option String) :
    CompletesAt now (savingWith failure) state := by
  cases failure with
  | none => exact completes_pure _
  | some message => exact completes_reject _

theorem completes_persistMetadata (context : RequestContext) :
    CompletesAt now (persistMetadata context) state := completes_savingWith _

theorem completes_sendAccountEmail (context : RequestContext) (config : EmailDeliveryConfig) :
    CompletesAt now (HostedServer.sendAccountEmail context config) state := by
  unfold HostedServer.sendAccountEmail
  split
  · exact completes_pure _
  · split
    · exact completes_reject _
    · split
      · exact completes_reject _
      · exact completes_pure _
  · exact completes_reject _

theorem completes_pushAudit (context : RequestContext) (actor : Option LoginSession)
    (action outcome : String) (target : Option String) (details : Fields) :
    CompletesAt now (pushAudit context actor action outcome target details) state :=
  completes_modify rfl

end Rules

/-! The changes that issue something. -/

section Changes
variable {now : DateTime} {state : ServerState}

theorem issues_insertSession {session : LoginSession} {expiresAt refreshExpiresAt : DateTime}
    (hExpires : session.expiresAt = some expiresAt)
    (hRefresh : session.refreshExpiresAt = some refreshExpiresAt)
    (hLater : now < expiresAt) (hRefreshLater : now < refreshExpiresAt) :
    Issues now state { state with sessionsByToken := state.sessionsByToken.insert session } := by
  refine ⟨rfl, fun key => ?_⟩
  cases key with
  | session tokenHash =>
      by_cases hKey : tokenHash = session.tokenHash
      · refine .inr ⟨[expiresAt, refreshExpiresAt], ?_, by simp, ?_⟩
        · simp [ServerState.ends, hKey, hExpires, hRefresh]
        · simpa using ⟨hLater, hRefreshLater⟩
      · left
        simp [ServerState.ends, hKey]
  | _ => exact .inl rfl

theorem issues_insertVerification {record : EmailVerificationRecord}
    (hLater : now < record.expiresAt) :
    Issues now state
      { state with emailVerifications := state.emailVerifications.insert record } := by
  refine ⟨rfl, fun key => ?_⟩
  cases key with
  | verification id =>
      by_cases hKey : id = record.verificationId
      · refine .inr ⟨[record.expiresAt], ?_, by simp, by simpa using hLater⟩
        simp [ServerState.ends, hKey]
      · left
        simp [ServerState.ends, hKey]
  | _ => exact .inl rfl

theorem issues_insertRecovery {record : RecoveryTokenRecord} (hLater : now < record.expiresAt) :
    Issues now state { state with recoveryTokens := state.recoveryTokens.insert record } := by
  refine ⟨rfl, fun key => ?_⟩
  cases key with
  | recovery id =>
      by_cases hKey : id = record.recoveryId
      · refine .inr ⟨[record.expiresAt], ?_, by simp, by simpa using hLater⟩
        simp [ServerState.ends, hKey]
      · left
        simp [ServerState.ends, hKey]
  | _ => exact .inl rfl

theorem issues_insertInvite {invite : ServerInvite} (hLater : now < invite.expiresAt) :
    Issues now state { state with invites := state.invites.insert invite } := by
  refine ⟨rfl, fun key => ?_⟩
  cases key with
  | invitation id =>
      by_cases hKey : id = invite.inviteId
      · refine .inr ⟨[invite.expiresAt], ?_, by simp, by simpa using hLater⟩
        simp [ServerState.ends, hKey]
      · left
        simp [ServerState.ends, hKey]
  | _ => exact .inl rfl

/-- Using up a token for recovery leaves its end. -/
theorem issues_useRecovery (id : Uuid) (instant : DateTime) :
    Issues now state { state with
      recoveryTokens := state.recoveryTokens.modify id
        (fun record => { record with usedAt := some instant }) fun _ => rfl } := by
  refine ⟨rfl, fun key => .inl ?_⟩
  cases key with
  | recovery other =>
      by_cases hSame : other = id
      · subst hSame
        cases hFound : state.recoveryTokens.lookup other <;> simp [ServerState.ends, hFound]
      · simp [ServerState.ends, hSame]
  | _ => rfl

/-- An invitation that changes keeps its end or gets a later one. -/
theorem issues_modifyInvite {id : Uuid} {change : ServerInvite → ServerInvite}
    {hKey : ∀ invite, (change invite).inviteId = invite.inviteId}
    (hEnd : ∀ invite, (change invite).expiresAt = invite.expiresAt ∨
      now < (change invite).expiresAt) :
    Issues now state { state with invites := state.invites.modify id change hKey } := by
  refine ⟨rfl, fun key => ?_⟩
  cases key with
  | invitation other =>
      by_cases hSame : other = id
      · subst hSame
        have hEnds : ServerState.ends { state with
            invites := state.invites.modify other change hKey } (.invitation other) =
            ((state.invites.lookup other).map change).map fun invite => [invite.expiresAt] := by
          simp [ServerState.ends]
        rw [hEnds]
        cases hFound : state.invites.lookup other with
        | none =>
            left
            simp [ServerState.ends, hFound]
        | some invite =>
            rcases hEnd invite with hKept | hLater
            · left
              simp [ServerState.ends, hFound, hKept]
            · exact .inr ⟨[(change invite).expiresAt], rfl, by simp, by simpa using hLater⟩
      · left
        simp [ServerState.ends, hSame]
  | _ => exact .inl rfl

end Changes

theorem completes_createAccountOnly {now : DateTime} {state : ServerState}
    (context : RequestContext) (email : String) (displayName : Option String)
    (verified : Option DateTime) :
    CompletesAt now (createAccountOnly context email displayName verified) state := by
  unfold createAccountOnly
  refine completes_get_bind ?_
  split
  · exact completes_reject _
  · exact completes_bind (completes_set (issues_of_same rfl)) fun _ _ _ => completes_pure _

theorem completes_modifyInvite {now : DateTime} {state : ServerState} {id : Uuid}
    {change : ServerInvite → ServerInvite}
    {hKey : ∀ invite, (change invite).inviteId = invite.inviteId}
    (hEnd : ∀ invite, (change invite).expiresAt = invite.expiresAt ∨
      now < (change invite).expiresAt) :
    CompletesAt now (HostedServer.modifyInvite id change hKey) state := by
  unfold HostedServer.modifyInvite
  exact completes_get_bind (completes_orReject_bind fun _ _ =>
    completes_bind (completes_set (issues_modifyInvite hEnd)) fun _ _ _ => completes_pure _)

theorem completes_checkToken {context : RequestContext} {state : ServerState}
    (usedAt : Option DateTime) (expiresAt : DateTime) :
    CompletesAt context.now (HostedServer.checkToken context usedAt expiresAt) state := by
  unfold HostedServer.checkToken
  refine completes_guard fun _ => ?_
  split
  · exact completes_reject _
  · exact completes_pure _

theorem completes_acceptInvite {now : DateTime} {context : RequestContext} {state : ServerState}
    (account : UserAccount) (invite : ServerInvite) :
    CompletesAt now (HostedServer.acceptInvite context account invite) state := by
  unfold HostedServer.acceptInvite
  refine completes_get_bind (completes_bind (completes_set ?_) fun _ _ _ => completes_pure _)
  have hInvites : Issues now state { state with
      invites := state.invites.modify invite.inviteId
        (fun invite => { invite with acceptedAt := some context.now }) fun _ => rfl } :=
    issues_modifyInvite fun _ => .inl rfl
  exact ⟨rfl, hInvites.ends⟩

/-! The patch. -/

/-- Whatever the outcome, positive lifetimes stay positive. -/
def KeepsPositive {α : Type} (program : Handler α) : Prop :=
  ∀ state : ServerState, state.hostingConfig.durations.Positive →
    (program.execute state).1.hostingConfig.durations.Positive

theorem keepsPositive_bind {α β : Type} {first : Handler α} {next : α → Handler β}
    (hFirst : KeepsPositive first) (hNext : ∀ value, KeepsPositive (next value)) :
    KeepsPositive (first >>= next) := by
  intro state hState
  have hMiddle := hFirst state hState
  rw [execute_bind]
  rcases hRun : first.execute state with ⟨later, outcome⟩
  rw [hRun] at hMiddle
  cases outcome with
  | error error => exact hMiddle
  | ok value => exact hNext value later hMiddle

theorem keepsPositive_modifyConfig {change : HostingConfig → HostingConfig}
    (h : ∀ config, config.durations.Positive → (change config).durations.Positive) :
    KeepsPositive (HostedServer.modifyConfig change) := fun state hState =>
  h state.hostingConfig hState

theorem keepsPositive_patchSeconds {value : Option Int} {fieldName : String}
    {change : Int → HostingConfig → HostingConfig}
    (h : ∀ seconds config, 0 < seconds → config.durations.Positive →
      (change seconds config).durations.Positive) :
    KeepsPositive (HostedServer.patchSeconds value fieldName change) := by
  cases value with
  | none => exact fun _ hState => hState
  | some value =>
      intro state hState
      unfold HostedServer.patchSeconds HostedServer.positiveSeconds
      by_cases hPositive : value ≤ 0
      · simp only [if_pos hPositive]
        exact hState
      · simp only [if_neg hPositive]
        exact h value state.hostingConfig (by omega) hState

/-- A patch sets positive lifetimes only. -/
theorem keepsPositive_patchHostingConfigFor (context : RequestContext) (session : LoginSession)
    (input : HostingConfigPatchRequest) :
    KeepsPositive (HostedServer.patchHostingConfigFor context session input) := by
  unfold HostedServer.patchHostingConfigFor
  refine keepsPositive_bind (keepsPositive_modifyConfig fun _ h => h) fun _ => ?_
  refine keepsPositive_bind (keepsPositive_patchSeconds fun _ _ hNew h => ⟨hNew, h.2⟩) fun _ => ?_
  refine keepsPositive_bind (keepsPositive_patchSeconds fun _ _ hNew h =>
    ⟨h.1, hNew, h.2.2⟩) fun _ => ?_
  refine keepsPositive_bind (keepsPositive_patchSeconds fun _ _ hNew h =>
    ⟨h.1, h.2.1, hNew, h.2.2.2⟩) fun _ => ?_
  refine keepsPositive_bind (keepsPositive_patchSeconds fun _ _ hNew h =>
    ⟨h.1, h.2.1, h.2.2.1, hNew, h.2.2.2.2⟩) fun _ => ?_
  refine keepsPositive_bind (keepsPositive_patchSeconds fun _ _ hNew h =>
    ⟨h.1, h.2.1, h.2.2.1, h.2.2.2.1, hNew⟩) fun _ => ?_
  refine keepsPositive_bind ?_ fun _ => ?_
  · unfold HostedServer.patchLimits
    split
    · exact fun _ h => h
    · split
      · exact fun _ h => h
      · exact keepsPositive_modifyConfig fun _ h => h
  refine keepsPositive_bind (keepsPositive_modifyConfig fun _ h => h) fun _ => ?_
  intro state hState
  have hRest : Keeps ServerState.lifetimes (pushAudit context (some session)
      "admin.hosting.update" "succeeded" none
      [("operation_mode", .string state.hostingConfig.operationMode.name),
        ("registration_mode", .string state.hostingConfig.registrationMode.name)] >>= fun _ =>
      persistMetadata context >>= fun _ => pure state.hostingConfig) :=
    keeps_bind (fun _ => rfl) fun _ => keeps_bind (keeps_persistMetadata context) fun _ =>
      keeps_pure _
  exact Eq.mpr (congrArg Durations.Positive (congrArg Prod.fst (hRest state))) hState

variable [Sha2Crate]

theorem completes_enforceRateLimit {now : DateTime} {state : ServerState}
    (context : RequestContext) (text : String) (limit : Nat) :
    CompletesAt now (enforceRateLimit context text limit) state := by
  constructor
  · obtain ⟨later, hRun, _⟩ := execute_enforceRateLimit context text limit state rfl
    rw [hRun]
    dsimp only
    split <;> exact fun h => (by cases h)
  · refine issues_of_same ?_
    exact HostedServer.leads_enforceRateLimit (fun _ _ => rfl) context text limit state.lifetimes
      state rfl

theorem completes_authorized {now : DateTime} {state : ServerState} (context : RequestContext) :
    CompletesAt now (HostedServer.authorized context) state := by
  unfold HostedServer.authorized
  refine completes_get_bind ?_
  split
  · exact completes_pure _
  · exact completes_reject _

theorem completes_requireInstanceAdmin {now : DateTime} {state : ServerState}
    (context : RequestContext) :
    CompletesAt now (HostedServer.requireInstanceAdmin context) state := by
  unfold HostedServer.requireInstanceAdmin
  refine completes_bind (completes_authorized context) fun later session _ => ?_
  refine completes_get_bind ?_
  split
  · exact completes_pure _
  · exact completes_reject _

theorem completes_issueSessionResponse {context : RequestContext} {state : ServerState}
    (account : UserAccount) (deviceName : Option String) (reuse : Option Uuid)
    (hSession : Lasts context.now state.hostingConfig.sessionTtlSeconds)
    (hRefresh : Lasts context.now state.hostingConfig.refreshTtlSeconds) :
    CompletesAt context.now (issueSessionResponse context account deviceName reuse) state := by
  obtain ⟨expiresAt, hExpires, hLater⟩ := hSession
  obtain ⟨refreshExpiresAt, hRefreshExpires, hRefreshLater⟩ := hRefresh
  unfold issueSessionResponse
  refine completes_bind ?_ fun later device hDurations => ?_
  · cases reuse with
    | none => exact completes_bind (completes_modify rfl) fun _ _ _ => completes_pure _
    | some deviceId => exact completes_get_bind completes_orReject
  · refine completes_get_bind ?_
    have hTtl : later.hostingConfig.sessionTtlSeconds =
        state.hostingConfig.sessionTtlSeconds := congrArg Durations.session hDurations
    have hRefreshTtl : later.hostingConfig.refreshTtlSeconds =
        state.hostingConfig.refreshTtlSeconds := congrArg Durations.refresh hDurations
    refine completes_orPanic_bind (by rw [hTtl, hExpires]) ?_
    refine completes_orPanic_bind (by rw [hRefreshTtl, hRefreshExpires]) ?_
    exact completes_bind
      ⟨fun h => (by cases h), issues_insertSession rfl rfl hLater hRefreshLater⟩
      fun _ _ _ => completes_get_bind (completes_pure _)

/-! The requests. -/

theorem completes_login {context : RequestContext} {state : ServerState}
    (body : Except String LoginRequest)
    (hSession : Lasts context.now state.hostingConfig.sessionTtlSeconds)
    (hRefresh : Lasts context.now state.hostingConfig.refreshTtlSeconds) :
    CompletesAt context.now (HostedServer.login context body) state := by
  unfold HostedServer.login
  refine completes_parseJson_bind fun input _ => completes_orReject_bind fun email _ =>
    completes_get_bind ?_
  refine completes_bind (completes_enforceRateLimit context _ _) fun later _ hDurations => ?_
  refine completes_orReject_bind fun accountId _ => completes_orReject_bind fun account _ =>
    completes_guard fun _ => completes_guard fun _ => ?_
  refine completes_bind (completes_issueSessionResponse account _ none ?_ ?_)
    fun last response _ => ?_
  · rwa [show later.hostingConfig.sessionTtlSeconds = state.hostingConfig.sessionTtlSeconds from
      congrArg Durations.session hDurations]
  · rwa [show later.hostingConfig.refreshTtlSeconds = state.hostingConfig.refreshTtlSeconds from
      congrArg Durations.refresh hDurations]
  · exact completes_bind (completes_pushAudit ..) fun _ _ _ =>
      completes_bind (completes_persistMetadata context) fun _ _ _ => completes_pure _

theorem completes_startRecovery {context : RequestContext} {state : ServerState}
    (body : Except String String)
    (hRecovery : Lasts context.now state.hostingConfig.recoveryTtlSeconds) :
    CompletesAt context.now (HostedServer.startRecovery context body) state := by
  unfold HostedServer.startRecovery
  refine completes_parseJson_bind fun input _ => completes_orReject_bind fun email _ =>
    completes_get_bind ?_
  refine completes_bind (completes_enforceRateLimit context _ _) fun later _ hDurations => ?_
  have hTtl : later.hostingConfig.recoveryTtlSeconds = state.hostingConfig.recoveryTtlSeconds :=
    congrArg Durations.recovery hDurations
  obtain ⟨expiresAt, hExpires, hLater⟩ := hRecovery
  dsimp only
  split
  · exact completes_persistMetadata context
  · rename_i account _
    refine completes_bind ?_ fun last token _ => ?_
    · unfold HostedServer.createRecoveryToken
      refine completes_get_bind (completes_orPanic_bind (by rw [hTtl, hExpires]) ?_)
      exact completes_bind (completes_set (issues_insertRecovery hLater)) fun _ _ _ =>
        completes_pure _
    · exact completes_bind (completes_sendAccountEmail context _) fun _ _ _ =>
        completes_bind (completes_pushAudit ..) fun _ _ _ => completes_persistMetadata context

theorem completes_completeRecovery {context : RequestContext} {state : ServerState}
    (body : Except String RecoveryCompleteRequest)
    (hSession : Lasts context.now state.hostingConfig.sessionTtlSeconds)
    (hRefresh : Lasts context.now state.hostingConfig.refreshTtlSeconds) :
    CompletesAt context.now (HostedServer.completeRecovery context body) state := by
  unfold HostedServer.completeRecovery
  refine completes_parseJson_bind fun input _ => completes_get_bind ?_
  refine completes_orReject_bind fun record _ => ?_
  refine completes_bind (completes_checkToken _ _) fun first _ hFirst => ?_
  refine completes_bind (completes_change (issues_useRecovery _ _)) fun second _ hSecond => ?_
  refine completes_orReject_bind fun account _ => ?_
  have hDurations := hSecond.trans hFirst
  refine completes_bind (completes_issueSessionResponse account _ none ?_ ?_)
    fun last response _ => ?_
  · rwa [show second.hostingConfig.sessionTtlSeconds = state.hostingConfig.sessionTtlSeconds from
      congrArg Durations.session hDurations]
  · rwa [show second.hostingConfig.refreshTtlSeconds = state.hostingConfig.refreshTtlSeconds from
      congrArg Durations.refresh hDurations]
  · exact completes_bind (completes_pushAudit ..) fun _ _ _ =>
      completes_bind (completes_persistMetadata context) fun _ _ _ => completes_pure _

theorem completes_verifyTurnstileToken {now : DateTime} {context : RequestContext}
    {state : ServerState} (token secret : String) :
    CompletesAt now (HostedServer.verifyTurnstileToken context token secret) state := by
  unfold HostedServer.verifyTurnstileToken
  refine completes_get_bind (completes_guard fun _ => ?_)
  split
  · exact completes_reject _
  · exact completes_reject _
  · exact completes_bind (completes_set (issues_of_same rfl)) fun _ _ _ => completes_savingWith _

theorem completes_verifyRegistrationGate {now : DateTime} {context : RequestContext}
    {state : ServerState} (input : RegistrationRequest) :
    CompletesAt now (HostedServer.verifyRegistrationGate context input) state := by
  unfold HostedServer.verifyRegistrationGate
  refine completes_get_bind ?_
  dsimp only
  split
  · exact completes_reject _
  · split
    · exact completes_reject _
    · exact completes_pure _
  · split
    · exact completes_orReject_bind fun _ _ => completes_orReject_bind fun _ _ =>
        completes_verifyTurnstileToken _ _
    · exact completes_pure _

theorem completes_register {context : RequestContext} {state : ServerState}
    (body : Except String RegistrationRequest)
    (hVerification : Lasts context.now state.hostingConfig.verificationTtlSeconds) :
    CompletesAt context.now (HostedServer.register context body) state := by
  unfold HostedServer.register
  refine completes_parseJson_bind fun input _ => completes_orReject_bind fun email _ => ?_
  refine completes_bind (completes_verifyRegistrationGate input) fun opened _ hOpened => ?_
  unfold HostedServer.registerAccount
  refine completes_get_bind ?_
  refine completes_bind (completes_enforceRateLimit context _ _) fun limited _ hLimited => ?_
  refine completes_guard fun _ => ?_
  refine completes_bind ?_ fun invited invite hInvited => ?_
  · cases HostedServer.registrationInvite context input email opened with
    | ok invite => exact completes_pure _
    | error error => exact completes_reject _
  refine completes_bind (completes_createAccountOnly ..) fun created account hCreated => ?_
  have hSoFar := hCreated.trans (hInvited.trans (hLimited.trans hOpened))
  obtain ⟨expiresAt, hExpires, hLater⟩ := hVerification
  -- what follows the choice of the logbooks
  have hRest : ∀ (joined : ServerState) (logbooks : List ApiLogbook),
      joined.hostingConfig.durations = created.hostingConfig.durations →
      CompletesAt context.now (do
        let _ ← HostedServer.createEmailVerification context account
        HostedServer.sendAccountEmail context opened.hostingConfig.email
        pushAudit context none "auth.register" "succeeded"
          (some (UuidCrate.display account.accountId))
        persistMetadata context
        return (account, logbooks)) joined := by
    intro joined logbooks hJoined
    have hTtl : joined.hostingConfig.verificationTtlSeconds =
        state.hostingConfig.verificationTtlSeconds :=
      congrArg Durations.verification (hJoined.trans hSoFar)
    refine completes_bind ?_ fun _ _ _ => ?_
    · unfold HostedServer.createEmailVerification
      refine completes_get_bind (completes_orPanic_bind (by rw [hTtl, hExpires]) ?_)
      exact completes_bind (completes_set (issues_insertVerification hLater)) fun _ _ _ =>
        completes_pure _
    · exact completes_bind (completes_sendAccountEmail context _) fun _ _ _ =>
        completes_bind (completes_pushAudit ..) fun _ _ _ =>
          completes_bind (completes_persistMetadata context) fun _ _ _ => completes_pure _
  cases invite with
  | some invite => exact completes_bind (completes_acceptInvite account invite) hRest
  | none =>
      refine completes_bind ?_ fun made logbook hMade => ?_
      · exact completes_bind (completes_modify rfl) fun _ _ _ => completes_pure _
      · exact completes_bind (completes_pure _) fun joined logbooks hJoined =>
          hRest joined logbooks (hJoined.trans hMade)

theorem completes_limitInvitations {context : RequestContext} {state : ServerState}
    (session : LoginSession) :
    CompletesAt context.now (HostedServer.limitInvitations context session) state :=
  completes_get_bind (completes_enforceRateLimit context _ _)

theorem completes_createInvitation {context : RequestContext} {state : ServerState}
    (body : Except String CreateInvitationRequest)
    (hEnd : ∀ input, body = .ok input → match input.expiresAt with
      | some expiresAt => context.now < expiresAt
      | none => Lasts context.now state.hostingConfig.invitationTtlSeconds) :
    CompletesAt context.now (HostedServer.createInvitation context body) state := by
  unfold HostedServer.createInvitation
  refine completes_bind (completes_requireInstanceAdmin context) fun first session hFirst => ?_
  refine completes_parseJson_bind fun input hBody => ?_
  have hInput := hEnd input hBody
  refine completes_orReject_bind fun email _ => ?_
  refine completes_bind (completes_limitInvitations session) fun second _ hSecond => ?_
  refine completes_get_bind ?_
  refine completes_orReject_bind fun logbook _ => ?_
  obtain ⟨logbookId, address, role, given⟩ := input
  cases given with
  | some expiresAt =>
      have hLater : context.now < expiresAt := hInput
      refine completes_pure_bind ?_
      refine completes_bind (completes_sendAccountEmail context _) fun third _ _ => ?_
      refine completes_bind (completes_change (issues_insertInvite hLater)) fun _ _ _ => ?_
      exact completes_bind (completes_pushAudit ..) fun _ _ _ =>
        completes_bind (completes_persistMetadata context) fun _ _ _ => completes_pure _
  | none =>
      obtain ⟨expiresAt, hExpires, hLater⟩ := hInput
      have hTtl : second.hostingConfig.invitationTtlSeconds =
          state.hostingConfig.invitationTtlSeconds :=
        congrArg Durations.invitation (hSecond.trans hFirst)
      refine completes_orPanic_bind (by rw [hTtl, hExpires]) ?_
      refine completes_bind (completes_sendAccountEmail context _) fun third _ _ => ?_
      refine completes_bind (completes_change (issues_insertInvite hLater)) fun _ _ _ => ?_
      exact completes_bind (completes_pushAudit ..) fun _ _ _ =>
        completes_bind (completes_persistMetadata context) fun _ _ _ => completes_pure _

theorem completes_resendInvitation {context : RequestContext} {state : ServerState}
    (inviteId : String)
    (hInvitation : Lasts context.now state.hostingConfig.invitationTtlSeconds) :
    CompletesAt context.now (HostedServer.resendInvitation context inviteId) state := by
  obtain ⟨expiresAt, hExpires, hLater⟩ := hInvitation
  unfold HostedServer.resendInvitation
  refine completes_bind (completes_requireInstanceAdmin context) fun first session hFirst => ?_
  refine completes_orReject_bind fun id _ => ?_
  refine completes_bind (completes_limitInvitations session) fun second _ hSecond => ?_
  refine completes_get_bind (completes_orReject_bind fun invite _ => completes_guard fun _ => ?_)
  refine completes_bind (completes_modifyInvite fun _ => .inl rfl) fun third _ hThird => ?_
  have hTtl : second.hostingConfig.invitationTtlSeconds =
      state.hostingConfig.invitationTtlSeconds :=
    congrArg Durations.invitation (hSecond.trans hFirst)
  refine completes_orPanic_bind (by rw [hTtl, hExpires]) ?_
  refine completes_bind (completes_modifyInvite fun _ => .inr hLater) fun _ _ _ => ?_
  exact completes_bind (completes_sendAccountEmail context _) fun _ _ _ =>
    completes_bind (completes_pushAudit ..) fun _ _ _ =>
      completes_bind (completes_persistMetadata context) fun _ _ _ => completes_pure _

/-! Runs of requests. -/

/-- The requests that issue something or count against a limit. -/
inductive IssuingRequest where
  | login (body : Except String LoginRequest)
  | startRecovery (body : Except String String)
  | completeRecovery (body : Except String RecoveryCompleteRequest)
  | register (body : Except String RegistrationRequest)
  | createInvitation (body : Except String CreateInvitationRequest)
  | resendInvitation (inviteId : String)
  | limited (identity : RateIdentity)

/-- Run a request, without its answer. -/
def IssuingRequest.run (context : RequestContext) : IssuingRequest → Handler Unit
  | .login body => HostedServer.login context body >>= fun _ => pure ()
  | .startRecovery body => HostedServer.startRecovery context body
  | .completeRecovery body => HostedServer.completeRecovery context body >>= fun _ => pure ()
  | .register body => HostedServer.register context body >>= fun _ => pure ()
  | .createInvitation body => HostedServer.createInvitation context body >>= fun _ => pure ()
  | .resendInvitation inviteId =>
      HostedServer.resendInvitation context inviteId >>= fun _ => pure ()
  | .limited identity => identity.enforce context

/-- The lifetimes a request adds to its instant. -/
def IssuingRequest.lifetimes (durations : Durations) : IssuingRequest → List Int
  | .login _ | .completeRecovery _ => [durations.session, durations.refresh]
  | .startRecovery _ => [durations.recovery]
  | .register _ => [durations.verification]
  | .createInvitation (.ok input) =>
      if input.expiresAt.isSome then [] else [durations.invitation]
  | .createInvitation (.error _) => []
  | .resendInvitation _ => [durations.invitation]
  | .limited _ => []

/-- Every lifetime the request adds stays in the range of instants, and the end
an administrator names for an invitation is still to come. -/
def IssuingRequest.InRange (now : DateTime) (durations : Durations) (request : IssuingRequest) :
    Prop :=
  (∀ seconds ∈ request.lifetimes durations, (now.addSeconds seconds).isSome = true) ∧
  ∀ input expiresAt, request = .createInvitation (.ok input) → input.expiresAt = some expiresAt →
    now < expiresAt

theorem completes_run {context : RequestContext} {state : ServerState} {request : IssuingRequest}
    (hPositive : state.hostingConfig.durations.Positive)
    (hRange : request.InRange context.now state.hostingConfig.durations) :
    CompletesAt context.now (request.run context) state := by
  obtain ⟨hSession, hRefresh, hInvitation, hVerification, hRecovery⟩ := hPositive
  have hLasts : ∀ seconds, 0 < seconds → seconds ∈ request.lifetimes state.hostingConfig.durations →
      Lasts context.now seconds := by
    intro seconds hPos hMem
    obtain ⟨later, hLater⟩ := Option.isSome_iff_exists.mp (hRange.1 seconds hMem)
    exact lasts_of_inRange hPos hLater
  cases request with
  | login body =>
      have hBoth := completes_login body (hLasts _ hSession List.mem_cons_self)
        (hLasts _ hRefresh (List.mem_cons_of_mem _ List.mem_cons_self))
      exact completes_bind hBoth fun _ _ _ => completes_pure _
  | startRecovery body =>
      exact completes_startRecovery body (hLasts _ hRecovery List.mem_cons_self)
  | completeRecovery body =>
      have hBoth := completes_completeRecovery body (hLasts _ hSession List.mem_cons_self)
        (hLasts _ hRefresh (List.mem_cons_of_mem _ List.mem_cons_self))
      exact completes_bind hBoth fun _ _ _ => completes_pure _
  | register body =>
      have hToken := completes_register body (hLasts _ hVerification List.mem_cons_self)
      exact completes_bind hToken fun _ _ _ => completes_pure _
  | createInvitation body =>
      refine completes_bind (completes_createInvitation body ?_) fun _ _ _ => completes_pure _
      rintro input rfl
      split
      · rename_i expiresAt hGiven
        exact hRange.2 input expiresAt rfl hGiven
      · rename_i hNone
        refine hLasts _ hInvitation ?_
        rw [IssuingRequest.lifetimes, hNone]
        exact List.mem_cons_self
  | resendInvitation inviteId =>
      have hInvite := completes_resendInvitation inviteId
        (hLasts _ hInvitation List.mem_cons_self)
      exact completes_bind hInvite fun _ _ _ => completes_pure _
  | limited identity => exact completes_get_bind (completes_enforceRateLimit context _ _)

/-- Requests one after the other all complete. -/
def AllComplete : ServerState → List (RequestContext × IssuingRequest) → Prop
  | _, [] => True
  | state, (context, request) :: rest =>
      CompletesAt context.now (request.run context) state ∧
        AllComplete ((request.run context).execute state).1 rest

theorem allComplete_of_inRange {calls : List (RequestContext × IssuingRequest)}
    {state : ServerState} (hPositive : state.hostingConfig.durations.Positive)
    (hRange : ∀ call ∈ calls, call.2.InRange call.1.now state.hostingConfig.durations) :
    AllComplete state calls := by
  induction calls generalizing state with
  | nil => trivial
  | cons call rest ih =>
      have hFirst := completes_run hPositive (hRange call List.mem_cons_self)
      have hSame := hFirst.2.durations
      refine ⟨hFirst, ih (hSame ▸ hPositive) fun other hOther => ?_⟩
      rw [hSame]
      exact hRange other (List.mem_cons_of_mem _ hOther)

/-- After a patch of the configuration that is accepted, requests complete and
what they issue ends after them, as long as the lifetimes that each adds to its
instant stay in the range of instants. -/
theorem patched_requests_complete {context : RequestContext} {session : LoginSession}
    {input : HostingConfigPatchRequest} {start patched : ServerState} {config : HostingConfig}
    (hStart : start.hostingConfig.durations.Positive)
    (hPatch : (HostedServer.patchHostingConfigFor context session input).execute start =
      (patched, .ok config))
    {calls : List (RequestContext × IssuingRequest)}
    (hRange : ∀ call ∈ calls, call.2.InRange call.1.now patched.hostingConfig.durations) :
    AllComplete patched calls := by
  have hPositive := keepsPositive_patchHostingConfigFor context session input start hStart
  rw [hPatch] at hPositive
  exact allComplete_of_inRange hPositive hRange

end Handlers

section
open Crates

def someUser : UserAccount where
  accountId := 1
  userId := 2
  email := "op@example.test"
  displayName := "op"
  createdAt := epoch
  emailVerifiedAt := some epoch

/-- A server with one account that can log in. -/
def oneUser : ServerState :=
  { firstStart with
    usersByEmail := AList.insert "op@example.test" 1 ∅
    accounts := (∅ : Catalog UserAccount.accountId).insert someUser }

def someSession : LoginSession where
  sessionId := 3
  accountId := 1
  userId := 2
  deviceId := 4
  issuedAt := epoch
  expiresAt := none
  active := true

/-- The server after its administrator has set the lifetime of sessions. -/
def withSessionTtl (seconds : Int) : ServerState :=
  ((HostedServer.patchHostingConfigFor (sampleRequest 0) someSession
    { sessionTtlSeconds := some seconds }).execute oneUser).1

def loginRequest : IssuingRequest :=
  .login (.ok { email := "op@example.test", displayName := none, deviceName := none })

/-- A login with a lifetime of an hour. -/
theorem hour_requests_complete :
    AllComplete (withSessionTtl 3600) [(sampleRequest 0, loginRequest)] := by
  have hPatch : (HostedServer.patchHostingConfigFor (sampleRequest 0) someSession
      { sessionTtlSeconds := some 3600 }).execute oneUser =
        (withSessionTtl 3600, .ok (withSessionTtl 3600).hostingConfig) := rfl
  have hStart : oneUser.hostingConfig.durations.Positive := by
    unfold Durations.Positive
    decide +kernel
  refine patched_requests_complete hStart hPatch fun call hMem => ?_
  obtain rfl := List.mem_singleton.mp hMem
  exact ⟨by decide +kernel, fun _ _ h => (by cases h)⟩

/-- The longest lifetime that fits the setting makes the login panic. -/
theorem login_panics_after_patch :
    ((HostedServer.patchHostingConfigFor (sampleRequest 0) someSession
      { sessionTtlSeconds := some 9223372036854775807 }).execute oneUser).2.toOption.isSome = true ∧
    ((loginRequest.run (sampleRequest 0)).execute (withSessionTtl 9223372036854775807)).2 =
      .error .panic := by
  constructor
  · rfl
  · decide +kernel

end
end HamLogger
