import HamLogger.Library.Catalog
import HamLogger.Library.Program
import HamLogger.Server.Records

/-! The state of the hosted server in memory, and the functions on it that
several requests share. A request reads the clock once here, and draws every
identifier and every secret of its own once. -/
namespace HamLogger

open Program

variable [UuidCrate]

def providerSettingKey (logbookId : Uuid) (providerId : String) : String :=
  UuidCrate.display logbookId ++ "-" ++ providerId

def HostedProviderSetting.key (setting : HostedProviderSetting) : String :=
  providerSettingKey setting.logbookId setting.providerId

def HostedStationProfile.stationProfileId (profile : HostedStationProfile) : Uuid :=
  profile.profile.stationProfileId

def HostedEquipmentProfile.equipmentId (equipment : HostedEquipmentProfile) : Uuid :=
  equipment.equipment.equipmentId

structure ServerState where
  hostingConfig : HostingConfig
  serverAdminUserIds : Catalog (id : Uuid → Uuid) := ∅
  usersByEmail : KeyMap String Uuid := ∅
  accounts : Catalog UserAccount.accountId := ∅
  logbooks : Catalog ApiLogbook.logbookId := ∅
  memberships : List LogbookMembership := []
  sessionsByToken : Catalog LoginSession.tokenHash := ∅
  devices : Catalog DeviceIdentity.deviceId := ∅
  invites : Catalog ServerInvite.inviteId := ∅
  apiTokens : Catalog ApiToken.tokenId := ∅
  emailVerifications : Catalog EmailVerificationRecord.verificationId := ∅
  recoveryTokens : Catalog RecoveryTokenRecord.recoveryId := ∅
  rateLimits : Catalog RateLimitRecord.key := ∅
  turnstileTokenHashes : Catalog (id : String → String) := ∅
  auditLog : List AuditRecord := []
  stationProfiles : Catalog HostedStationProfile.stationProfileId := ∅
  equipmentProfiles : Catalog HostedEquipmentProfile.equipmentId := ∅
  providerSettings : Catalog HostedProviderSetting.key := ∅
  uploadJobs : Catalog HostedUploadJob.uploadId := ∅
  mapSettings : Catalog HostedMapSettings.logbookId := ∅
  backups : Catalog HostedBackupRecord.backupId := ∅
  divergenceReports : Catalog HostedDivergenceReport.reportId := ∅

inductive ApiError where
  | unauthenticated | inactiveSession | sessionExpired | revokedDevice | emailUnverified
  | registrationClosed | tokenExpired | tokenReplayed | turnstileFailed | rateLimited | forbidden
  | notFound
  | invalidUuid (value : String)
  | badRequest (message : String)
  | proposal (message : String)
  | store (message : String)
  deriving DecidableEq

/-- The random identifiers of a request, by what they are drawn for. -/
structure Draws where
  account : Uuid
  user : Uuid
  logbook : Uuid
  device : Uuid
  fingerprint : Uuid
  session : Uuid
  sessionToken : Uuid
  refreshToken : Uuid
  verification : Uuid
  verificationToken : Uuid
  recovery : Uuid
  recoveryToken : Uuid
  invite : Uuid
  inviteToken : Uuid
  audit : Uuid

/-- What a handler sees of a request, and what happens to its calls of the
mail service, of the service that checks challenges and of the metadata store,
which fails with a message. A handler that saves twice saves its limit or its
challenge first. -/
structure RequestContext where
  requestId : String
  client : String
  bearer : Option String
  now : DateTime
  draws : Draws
  webhookFails : Bool := false
  siteverify : Option Bool := none
  firstSaveFails : Option String := none
  saveFails : Option String := none

/-- A request that ends with an answer, an error or a panic. -/
abbrev Handler (α : Type) := Program ServerState (Fault ApiError) α

def reject {α : Type} (error : ApiError) : Handler α := throw (.error error)

def orReject {α : Type} (error : ApiError) : Option α → Handler α
  | some value => pure value
  | none => reject error

/-- Arithmetic on instants panics outside their range. -/
def orPanic {α : Type} : Option α → Handler α
  | some value => pure value
  | none => throw .panic

section Outcomes
variable {α : Type} {state later : ServerState} {result : α}

theorem reject_ok (error : ApiError) :
    (reject error : Handler α).execute state = (later, .ok result) ↔ False := by
  simp [reject]

theorem orReject_ok {error : ApiError} {value : Option α} :
    (orReject error value).execute state = (later, .ok result) ↔
      later = state ∧ value = some result := by
  cases value <;> simp [orReject, reject, eq_comm]

theorem orPanic_ok {value : Option α} :
    (orPanic value).execute state = (later, .ok result) ↔ later = state ∧ value = some result := by
  cases value <;> simp [orPanic, eq_comm]

theorem pure_ok {value : α} :
    (pure value : Handler α).execute state = (later, .ok result) ↔
      later = state ∧ result = value := by
  simp [eq_comm]

theorem get_ok {found : ServerState} :
    (get : Handler ServerState).execute state = (later, .ok found) ↔
      later = state ∧ found = state := by
  simp [eq_comm]

theorem set_ok {written : ServerState} {done : Unit} :
    (set written : Handler Unit).execute state = (later, .ok done) ↔ later = written := by
  simp [eq_comm]

theorem modify_ok {change : ServerState → ServerState} {done : Unit} :
    (modify change : Handler Unit).execute state = (later, .ok done) ↔ later = change state := by
  simp [eq_comm]

end Outcomes

section Views
variable {View α β : Type} {view : ServerState → View} {before : View}
  {Q : View → Except (Fault ApiError) β → Prop}

theorem keeps_reject (error : ApiError) : Keeps view (reject error : Handler α) := keeps_throw _

theorem keeps_orReject (error : ApiError) (value : Option α) :
    Keeps view (orReject error value) := by
  cases value with
  | none => exact keeps_reject error
  | some value => exact keeps_pure value

/-- A check rejects the request, or the program goes on. -/
theorem keeps_guard {test : Prop} [Decidable test] {error : ApiError} {next : Unit → Handler β}
    (h : Keeps view (next ())) :
    Keeps view (if test then reject error >>= next else next ()) := by
  split
  · exact fun _ => rfl
  · exact h

theorem leads_guard {test : Prop} [Decidable test] {error : ApiError} {next : Unit → Handler β}
    (hRejected : test → Q before (.error (.error error)))
    (hNext : ¬ test → Leads view (next ()) before Q) :
    Leads view (if test then reject error >>= next else next ()) before Q := by
  apply leads_ite
  · intro hTest state hState
    rw [← hState] at hRejected
    exact hRejected hTest
  · exact hNext

theorem leads_orReject_bind {error : ApiError} {value : Option α} {next : α → Handler β}
    (hNone : value = none → Q before (.error (.error error)))
    (hSome : ∀ found, value = some found → Leads view (next found) before Q) :
    Leads view (orReject error value >>= next) before Q := by
  cases value with
  | none =>
      intro state hState
      rw [← hState] at hNone
      exact hNone rfl
  | some found => exact hSome found rfl

end Views

/-- The outcome of the body of a request read as JSON. -/
def parseJson {Input : Type} : Except String Input → Handler Input
  | .ok input => pure input
  | .error message => reject (.badRequest message)

theorem keeps_parseJson {View Input : Type} {view : ServerState → View}
    (body : Except String Input) : Keeps view (parseJson body) := by
  cases body with
  | error message => exact keeps_reject _
  | ok input => exact keeps_pure input

def savingWith : Option String → Handler Unit
  | some message => reject (.store message)
  | none => pure ()

theorem savingWith_ok {failure : Option String} {state later : ServerState} {done : Unit} :
    (savingWith failure).execute state = (later, .ok done) ↔ later = state ∧ failure = none := by
  cases failure <;> simp [savingWith, reject, eq_comm]

theorem keeps_savingWith {View : Type} {view : ServerState → View} (failure : Option String) :
    Keeps view (savingWith failure) := by
  cases failure with
  | none => exact keeps_pure _
  | some message => exact keeps_reject _

/-- Save the whole state. -/
def persistMetadata (context : RequestContext) : Handler Unit := savingWith context.saveFails

/-- A mail address in lower case, without the white space around it. -/
def normalizedEmail (email : String) : Option String :=
  let email := toAsciiLowercase (trim email)
  if email.isEmpty ∨ '@' ∉ email.toList ∨ email.toList.any isWhitespace then none else some email

def normalizeEmail (email : String) : Handler String :=
  orReject (.badRequest "valid email is required") (normalizedEmail email)

def sessionTokenHash [Sha2Crate] (token : String) : String :=
  bytesToHex (Sha2Crate.digest token.toUTF8.toList)

def opaqueToken (purpose : String) (subject random : Uuid) : String :=
  "ke8ygw-" ++ purpose ++ "-" ++ UuidCrate.display subject ++ "-" ++ UuidCrate.display random

def sessionCookieHeader (token : String) (expire : Bool) : String :=
  if expire then
    "ke8ygw_session=; HttpOnly; Secure; SameSite=Lax; Path=/; Max-Age=0"
  else "ke8ygw_session=" ++ token ++ "; HttpOnly; Secure; SameSite=Lax; Path=/"

structure LoginResponse where
  account : UserAccount
  session : LoginSession
  device : DeviceIdentity
  logbooks : List ApiLogbook
  refreshToken : String
  sessionCookie : String
  deriving DecidableEq

namespace ServerState

def pushAudit (state : ServerState) (context : RequestContext) (actor : Option LoginSession)
    (action outcome : String) (target : Option String) (details : Fields) : ServerState :=
  let record : AuditRecord :=
    { auditId := context.draws.audit, occurredAt := context.now, requestId := context.requestId,
      actorAccountId := actor.map LoginSession.accountId,
      actorUserId := actor.map LoginSession.userId,
      action := action, outcome := outcome, target := target, details := details }
  { state with auditLog := state.auditLog ++ [record] }

def visibleLogbooks (state : ServerState) (userId : Uuid) : List ApiLogbook :=
  let readable := state.memberships.filter fun membership =>
    membership.userId = userId ∧ membership.role.canRead
  (readable.filterMap fun membership => state.logbooks.lookup membership.logbookId).mergeSort
    fun left right => left.name ≤ right.name

end ServerState

def pushAudit (context : RequestContext) (actor : Option LoginSession) (action outcome : String)
    (target : Option String) (details : Fields := []) : Handler Unit :=
  modify fun state => state.pushAudit context actor action outcome target details

theorem pushAudit_ok {context : RequestContext} {actor : Option LoginSession}
    {action outcome : String} {target : Option String} {details : Fields}
    {state later : ServerState} {done : Unit} :
    (pushAudit context actor action outcome target details).execute state = (later, .ok done) ↔
      later = state.pushAudit context actor action outcome target details :=
  modify_ok

theorem keeps_persistMetadata {View : Type} {view : ServerState → View}
    (context : RequestContext) : Keeps view (persistMetadata context) :=
  keeps_savingWith _

/-- Count a request against its limit. A window that is over starts anew. -/
def enforceRateLimit [Sha2Crate] (context : RequestContext) (key : String) (limit : Nat) :
    Handler Unit := do
  if limit = 0 then
    reject .rateLimited
  let state ← get
  let windowSeconds := max state.hostingConfig.limits.windowSeconds 1
  let category := String.ofList (key.toList.takeWhile fun c => c ≠ ':')
  let key := category ++ ":" ++ sessionTokenHash key
  let record := (state.rateLimits.lookup key).getD
    { key := key, windowStartedAt := context.now, count := 0 }
  let elapsed := (context.now.nanos - record.windowStartedAt.nanos).tdiv 1000000000
  let record := if elapsed ≥ windowSeconds then
      { record with windowStartedAt := context.now, count := 0 }
    else record
  if record.count ≥ limit then
    set { state with rateLimits := state.rateLimits.insert record }
    reject .rateLimited
  else
    set { state with
      rateLimits := state.rateLimits.insert { record with count := record.count + 1 } }

def newAccount (context : RequestContext) (email : String) (displayName : Option String)
    (emailVerifiedAt : Option DateTime) : UserAccount where
  accountId := context.draws.account
  userId := context.draws.user
  email := email
  displayName := displayName.getD email
  createdAt := context.now
  emailVerifiedAt := emailVerifiedAt

def createAccountOnly (context : RequestContext) (email : String) (displayName : Option String)
    (emailVerifiedAt : Option DateTime) : Handler UserAccount := do
  let state ← get
  if (state.usersByEmail.lookup email).isSome then
    reject (.badRequest "account already exists")
  else
    let account := newAccount context email displayName emailVerifiedAt
    set { state with
      usersByEmail := state.usersByEmail.insert email account.accountId
      accounts := state.accounts.insert account }
    return account

theorem createAccountOnly_ok {context : RequestContext} {email : String}
    {displayName : Option String} {emailVerifiedAt : Option DateTime}
    {state later : ServerState} {account : UserAccount} :
    (createAccountOnly context email displayName emailVerifiedAt).execute state =
        (later, .ok account) ↔
      state.usersByEmail.lookup email = none ∧
        account = newAccount context email displayName emailVerifiedAt ∧
        later = { state with
          usersByEmail := state.usersByEmail.insert email account.accountId
          accounts := state.accounts.insert account } := by
  simp only [createAccountOnly, Program.execute_bind_ok, get_ok, Program.execute_ite]
  constructor
  · intro h
    obtain ⟨_, _, ⟨rfl, rfl⟩, h⟩ := h
    split at h
    · exact ((reject_ok _).mp h).elim
    · next hNew =>
        obtain ⟨_, _, hSet, hAccount⟩ := Program.execute_bind_ok.mp h
        obtain ⟨rfl, rfl⟩ := pure_ok.mp hAccount
        exact ⟨Option.not_isSome_iff_eq_none.mp hNew, rfl, set_ok.mp hSet⟩
  · intro h
    obtain ⟨hNew, rfl, rfl⟩ := h
    refine ⟨state, state, ⟨rfl, rfl⟩, ?_⟩
    rw [hNew]
    rfl

def defaultLogbook (context : RequestContext) (account : UserAccount) : ApiLogbook where
  logbookId := context.draws.logbook
  accountId := account.accountId
  name := account.displayName ++ " Logbook"
  description := some "Hosted v1 default logbook"
  stationCallsign := none
  createdAt := context.now
  updatedAt := context.now

def ownerMembership (context : RequestContext) (account : UserAccount) : LogbookMembership where
  accountId := account.accountId
  logbookId := context.draws.logbook
  userId := account.userId
  role := .owner
  createdAt := context.now

def createDefaultLogbookForAccount (context : RequestContext) (account : UserAccount) :
    Handler ApiLogbook := do
  let logbook := defaultLogbook context account
  modify fun state =>
    { state with
      logbooks := state.logbooks.insert logbook
      memberships := state.memberships ++ [ownerMembership context account] }
  return logbook

def createAccountWithLogbook (context : RequestContext) (email : String)
    (displayName : Option String) (emailVerifiedAt : Option DateTime) :
    Handler (UserAccount × ApiLogbook) := do
  let account ← createAccountOnly context email displayName emailVerifiedAt
  let logbook ← createDefaultLogbookForAccount context account
  return (account, logbook)

theorem createAccountWithLogbook_ok {context : RequestContext} {email : String}
    {displayName : Option String} {emailVerifiedAt : Option DateTime}
    {state later : ServerState} {created : UserAccount × ApiLogbook} :
    (createAccountWithLogbook context email displayName emailVerifiedAt).execute state =
        (later, .ok created) ↔
      state.usersByEmail.lookup email = none ∧
        created.1 = newAccount context email displayName emailVerifiedAt ∧
        created.2 = defaultLogbook context created.1 ∧
        later = { state with
          usersByEmail := state.usersByEmail.insert email created.1.accountId
          accounts := state.accounts.insert created.1
          logbooks := state.logbooks.insert created.2
          memberships := state.memberships ++ [ownerMembership context created.1] } := by
  simp only [createAccountWithLogbook, createDefaultLogbookForAccount, Program.execute_bind_ok,
    createAccountOnly_ok, modify_ok, pure_ok]
  constructor
  · intro h
    obtain ⟨_, account, ⟨hNew, rfl, rfl⟩, _, logbook, ⟨_, _, rfl, rfl, rfl⟩, rfl, rfl⟩ := h
    exact ⟨hNew, rfl, rfl, rfl⟩
  · intro h
    obtain ⟨account, logbook⟩ := created
    obtain ⟨hNew, hAccount, hLogbook, rfl⟩ := h
    dsimp only at hAccount hLogbook
    subst hAccount hLogbook
    exact ⟨_, _, ⟨hNew, rfl, rfl⟩, _, _, ⟨_, ⟨⟩, rfl, rfl, rfl⟩, rfl, rfl⟩

def newDevice (context : RequestContext) (account : UserAccount) (deviceName : Option String) :
    DeviceIdentity where
  deviceId := context.draws.device
  accountId := account.accountId
  userId := account.userId
  deviceName := deviceName.getD "Hosted web session"
  fingerprint := "dev-" ++ UuidCrate.display context.draws.fingerprint
  trusted := true
  revoked := false
  registeredAt := context.now
  revokedAt := none

/-- The device of a new session: the one to go on with, or a new one. -/
def sessionDevice (context : RequestContext) (account : UserAccount) (deviceName : Option String) :
    Option Uuid → Handler DeviceIdentity
  | some deviceId => do
      let state ← get
      orReject .revokedDevice <| (state.devices.lookup deviceId).filter fun device =>
        device.accountId = account.accountId ∧ !device.revoked
  | none => do
      let device := newDevice context account deviceName
      modify fun state => { state with devices := state.devices.insert device }
      return device

section SessionDevice
variable {context : RequestContext} {account : UserAccount} {deviceName : Option String}
  {state later : ServerState} {device : DeviceIdentity}

theorem sessionDevice_new_ok :
    (sessionDevice context account deviceName none).execute state = (later, .ok device) ↔
      device = newDevice context account deviceName ∧
        later = { state with devices := state.devices.insert device } := by
  simp only [sessionDevice, Program.execute_bind_ok, modify_ok, pure_ok]
  constructor
  · intro h
    obtain ⟨_, _, rfl, rfl, rfl⟩ := h
    exact ⟨rfl, rfl⟩
  · intro h
    obtain ⟨rfl, rfl⟩ := h
    exact ⟨_, ⟨⟩, rfl, rfl, rfl⟩

end SessionDevice

/-- A session as the server keeps it: the hashes of its tokens only. -/
def LoginSession.stored (session : LoginSession) : LoginSession :=
  { session with token := "", refreshToken := "" }

def newSession [Sha2Crate] (context : RequestContext) (account : UserAccount) (deviceId : Uuid)
    (expiresAt refreshExpiresAt : DateTime) : LoginSession :=
  let token := opaqueToken "session" account.accountId context.draws.sessionToken
  let refreshToken := opaqueToken "refresh" account.accountId context.draws.refreshToken
  { sessionId := context.draws.session, accountId := account.accountId,
    userId := account.userId, deviceId := deviceId, token := token,
    tokenHash := sessionTokenHash token, refreshToken := refreshToken,
    refreshTokenHash := sessionTokenHash refreshToken, issuedAt := context.now,
    expiresAt := some expiresAt, refreshExpiresAt := some refreshExpiresAt, rotatedAt := none,
    active := true }

def issueSessionResponse [Sha2Crate] (context : RequestContext) (account : UserAccount)
    (deviceName : Option String) (reuseDeviceId : Option Uuid) : Handler LoginResponse := do
  let device ← sessionDevice context account deviceName reuseDeviceId
  let state ← get
  let expiresAt ← orPanic (context.now.addSeconds state.hostingConfig.sessionTtlSeconds)
  let refreshExpiresAt ← orPanic (context.now.addSeconds state.hostingConfig.refreshTtlSeconds)
  let session := newSession context account device.deviceId expiresAt refreshExpiresAt
  modify fun state =>
    { state with sessionsByToken := state.sessionsByToken.insert session.stored }
  let state ← get
  return { account := account, session := session, device := device,
           logbooks := state.visibleLogbooks account.userId, refreshToken := session.refreshToken,
           sessionCookie := sessionCookieHeader session.token false }

/-- A session that is issued is kept, with the device that it is for. -/
theorem issueSessionResponse_ok [Sha2Crate] {context : RequestContext} {account : UserAccount}
    {deviceName : Option String} {reuseDeviceId : Option Uuid} {state later : ServerState}
    {response : LoginResponse} :
    (issueSessionResponse context account deviceName reuseDeviceId).execute state =
        (later, .ok response) ↔
      ∃ middle device expiresAt refreshExpiresAt,
        (sessionDevice context account deviceName reuseDeviceId).execute state =
            (middle, .ok device) ∧
          context.now.addSeconds middle.hostingConfig.sessionTtlSeconds = some expiresAt ∧
          context.now.addSeconds middle.hostingConfig.refreshTtlSeconds = some refreshExpiresAt ∧
          later = { middle with
            sessionsByToken := middle.sessionsByToken.insert
              (newSession context account device.deviceId expiresAt refreshExpiresAt).stored } ∧
          response = LoginResponse.mk account
            (newSession context account device.deviceId expiresAt refreshExpiresAt) device
            (later.visibleLogbooks account.userId)
            (opaqueToken "refresh" account.accountId context.draws.refreshToken)
            (sessionCookieHeader
              (opaqueToken "session" account.accountId context.draws.sessionToken) false) := by
  simp only [issueSessionResponse, Program.execute_bind_ok, get_ok, orPanic_ok, modify_ok, pure_ok]
  constructor
  · intro h
    obtain ⟨middle, device, hDevice, _, _, ⟨rfl, rfl⟩, _, expiresAt, ⟨rfl, hExpires⟩, _,
      refreshExpiresAt, ⟨rfl, hRefresh⟩, _, _, rfl, _, _, ⟨rfl, rfl⟩, rfl, rfl⟩ := h
    exact ⟨_, device, expiresAt, refreshExpiresAt, hDevice, hExpires, hRefresh, rfl, rfl⟩
  · intro h
    obtain ⟨middle, device, expiresAt, refreshExpiresAt, hDevice, hExpires, hRefresh, rfl, rfl⟩ := h
    exact ⟨middle, device, hDevice, _, _, ⟨rfl, rfl⟩, _, expiresAt, ⟨rfl, hExpires⟩, _,
      refreshExpiresAt, ⟨rfl, hRefresh⟩, _, ⟨⟩, rfl, _, _, ⟨rfl, rfl⟩, rfl, rfl⟩

/-- Only an active session that has not expired, of a device that is not
revoked and of a verified account, is let through. -/
def authorize [Sha2Crate] (context : RequestContext) (state : ServerState) :
    Except ApiError LoginSession := do
  let some token := context.bearer | throw .unauthenticated
  let some session := state.sessionsByToken.lookup (sessionTokenHash token)
    | throw .unauthenticated
  if !session.active then
    throw .inactiveSession
  if session.expiresAt.any fun expiresAt => expiresAt ≤ context.now then
    throw .sessionExpired
  let some device := state.devices.lookup session.deviceId | throw .unauthenticated
  if device.revoked then
    throw .revokedDevice
  let some account := state.accounts.lookup session.accountId | throw .unauthenticated
  if account.deletedAt.isSome then
    throw .unauthenticated
  if account.emailVerifiedAt.isNone then
    throw .emailUnverified
  return session

end HamLogger
