import HamLogger.Core.Crates
import HamLogger.Server.State

/-! The requests of the hosted server about its configuration, about accounts
and their sessions, and about devices. A request that needs a session has two
parts: it is authorized on the state as it is read, and then it changes the
state as it is written. -/
namespace HamLogger

open Program

/-! Bodies of requests. -/

structure BootstrapAdminRequest where
  email : String
  displayName : Option String
  deviceName : Option String

structure HostingConfigPatchRequest where
  operationMode : Option HostingOperationMode := none
  registrationMode : Option RegistrationMode := none
  sessionTtlSeconds : Option Int := none
  refreshTtlSeconds : Option Int := none
  invitationTtlSeconds : Option Int := none
  verificationTtlSeconds : Option Int := none
  recoveryTtlSeconds : Option Int := none
  limits : Option HostedLimitConfig := none
  email : Option EmailDeliveryConfig := none
  turnstile : Option TurnstileConfig := none

structure CreateInvitationRequest where
  logbookId : Uuid
  email : String
  role : LogbookRole
  expiresAt : Option DateTime

structure RegistrationRequest where
  email : String
  displayName : Option String
  deviceName : Option String
  invitationToken : Option String := none
  turnstileToken : Option String := none
  turnstileRemoteIp : Option String := none

structure RecoveryCompleteRequest where
  token : String
  deviceName : Option String

structure LoginRequest where
  email : String
  displayName : Option String
  deviceName : Option String

structure RegisterDeviceRequest where
  deviceName : String
  fingerprint : Option String

def HostingOperationMode.name : HostingOperationMode → String
  | .personalHosted => "personal_hosted"
  | .publicHosted => "public_hosted"
  | .selfHosted => "self_hosted"

def RegistrationMode.name : RegistrationMode → String
  | .inviteOnly => "invite_only"
  | .open => "open"
  | .disabled => "disabled"

/-- A text that is there and not blank. -/
def nonBlankText (text : Option String) : Option String :=
  text.filter fun value => !(trim value).isEmpty

namespace HostedServer
variable [UuidCrate]

/-! The configuration. -/

def modifyConfig (change : HostingConfig → HostingConfig) : Handler Unit :=
  modify fun state => { state with hostingConfig := change state.hostingConfig }

def positiveSeconds (value : Int) (fieldName : String) : Handler Int :=
  if value ≤ 0 then reject (.badRequest (fieldName ++ " must be positive")) else pure value

/-- Set a duration of the configuration if the patch gives one. -/
def patchSeconds (value : Option Int) (fieldName : String)
    (change : Int → HostingConfig → HostingConfig) : Handler Unit :=
  match value with
  | none => pure ()
  | some value => do
      let seconds ← positiveSeconds value fieldName
      modifyConfig (change seconds)

def patchLimits : Option HostedLimitConfig → Handler Unit
  | none => pure ()
  | some limits =>
      if limits.windowSeconds ≤ 0 then
        reject (.badRequest "limits.window_seconds must be positive")
      else modifyConfig fun config => { config with limits := limits }

/-- The fields of the configuration are set one by one, each after its check. -/
def patchHostingConfigFor (context : RequestContext) (session : LoginSession)
    (input : HostingConfigPatchRequest) : Handler HostingConfig := do
  modifyConfig fun config =>
    { config with
      operationMode := input.operationMode.getD config.operationMode
      registrationMode := input.registrationMode.getD config.registrationMode }
  patchSeconds input.sessionTtlSeconds "session_ttl_seconds" fun seconds config =>
    { config with sessionTtlSeconds := seconds }
  patchSeconds input.refreshTtlSeconds "refresh_ttl_seconds" fun seconds config =>
    { config with refreshTtlSeconds := seconds }
  patchSeconds input.invitationTtlSeconds "invitation_ttl_seconds" fun seconds config =>
    { config with invitationTtlSeconds := seconds }
  patchSeconds input.verificationTtlSeconds "verification_ttl_seconds" fun seconds config =>
    { config with verificationTtlSeconds := seconds }
  patchSeconds input.recoveryTtlSeconds "recovery_ttl_seconds" fun seconds config =>
    { config with recoveryTtlSeconds := seconds }
  patchLimits input.limits
  modifyConfig fun config =>
    { config with
      email := input.email.getD config.email
      turnstile := input.turnstile.getD config.turnstile
      updatedAt := context.now }
  let state ← get
  pushAudit context (some session) "admin.hosting.update" "succeeded" none
    [("operation_mode", .string state.hostingConfig.operationMode.name),
      ("registration_mode", .string state.hostingConfig.registrationMode.name)]
  persistMetadata context
  return state.hostingConfig

/-! Mail. -/

/-- Sending mail fails where it is disabled or where the webhook does. -/
def sendAccountEmail (context : RequestContext) (config : EmailDeliveryConfig) : Handler Unit :=
  match config.mode with
  | .test => pure ()
  | .webhook =>
      match config.webhookUrl with
      | none => reject (.badRequest "email webhook URL is required")
      | some _ => if context.webhookFails then reject (.store "email delivery failed") else pure ()
  | .disabled => reject (.badRequest "email delivery is disabled")

def ofExcept {α : Type} : Except ApiError α → Handler α
  | .ok value => pure value
  | .error error => reject error

theorem keeps_ofExcept {View α : Type} {view : ServerState → View}
    (outcome : Except ApiError α) : Keeps view (ofExcept outcome) := by
  cases outcome with
  | ok value => exact keeps_pure value
  | error error => exact keeps_reject error

theorem leads_ofExcept_bind {View α β : Type} {view : ServerState → View} {before : View}
    {Q : View → Except (Fault ApiError) β → Prop} {outcome : Except ApiError α}
    {next : α → Handler β}
    (hError : ∀ error, outcome = .error error → Q before (.error (.error error)))
    (hOk : ∀ value, outcome = .ok value → Leads view (next value) before Q) :
    Leads view (ofExcept outcome >>= next) before Q := by
  cases outcome with
  | ok value => exact hOk value rfl
  | error error =>
      intro state hState
      subst hState
      exact hError error rfl

variable [Sha2Crate]

/-- The first part of a request that needs a session. -/
def authorized (context : RequestContext) : Handler LoginSession := do
  let state ← get
  match authorize context state with
  | .ok session => pure session
  | .error error => reject error

theorem keeps_authorized {View : Type} {view : ServerState → View} (context : RequestContext) :
    Keeps view (authorized context) := by
  apply keeps_get_bind
  intro state
  cases authorize context state with
  | ok session => exact keeps_pure session
  | error error => exact keeps_reject error

def requireInstanceAdmin (context : RequestContext) : Handler LoginSession := do
  let session ← authorized context
  let state ← get
  if state.serverAdminUserIds.contains session.userId then
    pure session
  else
    reject .forbidden

def parseUuid (text : String) : Handler Uuid :=
  orReject (.invalidUuid text) (UuidCrate.parseStr text)

/-- The account of the first administrator. -/
def createFirstAdmin (context : RequestContext) (email : String)
    (input : BootstrapAdminRequest) : Handler LoginResponse := do
  let (account, _) ← createAccountWithLogbook context email input.displayName (some context.now)
  modify fun state =>
    { state with serverAdminUserIds := state.serverAdminUserIds.insert account.userId }
  modifyConfig fun config =>
    { config with bootstrapAdminCompleted := true, updatedAt := context.now }
  let response ← issueSessionResponse context account input.deviceName none
  pushAudit context (some response.session) "admin.bootstrap" "succeeded"
    (some (UuidCrate.display account.accountId))
  persistMetadata context
  return response

/-- The first administrator of a server that has no account. -/
def bootstrapAdmin (context : RequestContext) (body : Except String BootstrapAdminRequest) :
    Handler LoginResponse := do
  let input ← parseJson body
  let email ← normalizeEmail input.email
  let state ← get
  if state.hostingConfig.bootstrapAdminCompleted ∨ ¬ state.serverAdminUserIds.isEmpty ∨
      ¬ state.accounts.isEmpty then
    pushAudit context none "admin.bootstrap" "denied" none
    persistMetadata context
    reject .forbidden
  else
    createFirstAdmin context email input

def patchHostingConfig (context : RequestContext)
    (body : Except String HostingConfigPatchRequest) : Handler HostingConfig := do
  let session ← requireInstanceAdmin context
  let input ← parseJson body
  patchHostingConfigFor context session input

/-! Invitations. -/

/-- The limit on invitations, which sending one anew counts for as well. -/
def limitInvitations (context : RequestContext) (session : LoginSession) : Handler Unit := do
  let state ← get
  enforceRateLimit context
    ("invitation:" ++ UuidCrate.display session.accountId ++ ":" ++ context.client)
    state.hostingConfig.limits.invitationsPerWindow

def createInvitation (context : RequestContext) (body : Except String CreateInvitationRequest) :
    Handler (ServerInvite × String) := do
  let session ← requireInstanceAdmin context
  let input ← parseJson body
  let email ← normalizeEmail input.email
  limitInvitations context session
  let state ← get
  let logbook ← orReject .notFound (state.logbooks.lookup input.logbookId)
  let token := opaqueToken "invite" logbook.logbookId context.draws.inviteToken
  let expiresAt ← match input.expiresAt with
    | some expiresAt => pure expiresAt
    | none => orPanic (context.now.addSeconds state.hostingConfig.invitationTtlSeconds)
  let invite : ServerInvite :=
    { inviteId := context.draws.invite, accountId := logbook.accountId,
      logbookId := logbook.logbookId, invitedEmail := email, role := input.role,
      tokenHash := sessionTokenHash token, createdByUserId := some session.userId,
      createdAt := some context.now, expiresAt := expiresAt, acceptedAt := none,
      lastSentAt := some context.now }
  sendAccountEmail context state.hostingConfig.email
  modify fun state => { state with invites := state.invites.insert invite }
  pushAudit context (some session) "admin.invitation.create" "succeeded"
    (some (UuidCrate.display invite.inviteId))
  persistMetadata context
  return (invite, token)

/-- Change an invitation, which the state must have. -/
def modifyInvite (inviteId : Uuid) (change : ServerInvite → ServerInvite)
    (hKey : ∀ invite, (change invite).inviteId = invite.inviteId) : Handler ServerInvite := do
  let state ← get
  let invite ← orReject .notFound (state.invites.lookup inviteId)
  set { state with invites := state.invites.modify inviteId change hKey }
  return change invite

def resendInvitation (context : RequestContext) (inviteId : String) :
    Handler (ServerInvite × String) := do
  let session ← requireInstanceAdmin context
  let inviteId ← parseUuid inviteId
  limitInvitations context session
  let state ← get
  let token := opaqueToken "invite" inviteId context.draws.inviteToken
  let email := state.hostingConfig.email
  let invite ← orReject .notFound (state.invites.lookup inviteId)
  if invite.acceptedAt.isSome ∨ invite.revokedAt.isSome then
    reject .tokenExpired
  let _ ← modifyInvite inviteId
    (fun invite => { invite with tokenHash := sessionTokenHash token }) fun _ => rfl
  let expiresAt ← orPanic (context.now.addSeconds state.hostingConfig.invitationTtlSeconds)
  let invite ← modifyInvite inviteId
    (fun invite =>
      { invite with
        expiresAt := expiresAt
        lastSentAt := some context.now
        resendCount := min (invite.resendCount + 1) 4294967295 })
    fun _ => rfl
  sendAccountEmail context email
  pushAudit context (some session) "admin.invitation.resend" "succeeded"
    (some (UuidCrate.display inviteId))
  persistMetadata context
  return (invite, token)

/-- A body that cannot be read counts as one without an instant. -/
def expireInvitation (context : RequestContext) (inviteId : String)
    (body : Except String (Option DateTime)) : Handler ServerInvite := do
  let session ← requireInstanceAdmin context
  let inviteId ← parseUuid inviteId
  let expiresAt := (body.toOption.bind id).getD context.now
  let invite ← modifyInvite inviteId (fun invite => { invite with expiresAt := expiresAt })
    fun _ => rfl
  pushAudit context (some session) "admin.invitation.expire" "succeeded"
    (some (UuidCrate.display inviteId))
  persistMetadata context
  return invite

def revokeInvitation (context : RequestContext) (inviteId : String) : Handler ServerInvite := do
  let session ← requireInstanceAdmin context
  let inviteId ← parseUuid inviteId
  let invite ← modifyInvite inviteId
    (fun invite => { invite with revokedAt := some context.now }) fun _ => rfl
  pushAudit context (some session) "admin.invitation.revoke" "succeeded"
    (some (UuidCrate.display inviteId))
  persistMetadata context
  return invite

/-! Registration and recovery. -/

/-- What the service that checks a challenge says: nothing where the call
fails. Three secrets are set aside for tests. -/
def challengePasses (context : RequestContext) (secret : String) : Except ApiError Bool :=
  if secret = "1x0000000000000000000000000000000AA" then .ok true
  else if secret = "2x0000000000000000000000000000000AA" then .ok false
  else if secret = "3x0000000000000000000000000000000AA" then .error .tokenReplayed
  else match context.siteverify with
    | some success => .ok success
    | none => .error .turnstileFailed

/-- A challenge is used up, and the state is saved with it, before the
registration goes on. -/
def verifyTurnstileToken (context : RequestContext) (token secret : String) : Handler Unit := do
  let tokenHash := sessionTokenHash token
  let state ← get
  if state.turnstileTokenHashes.contains tokenHash then
    reject .tokenReplayed
  match challengePasses context secret with
  | .error error => reject error
  | .ok false => reject .turnstileFailed
  | .ok true =>
      set { state with turnstileTokenHashes := state.turnstileTokenHashes.insert tokenHash }
      savingWith context.firstSaveFails

def verifyRegistrationGate (context : RequestContext) (input : RegistrationRequest) :
    Handler Unit := do
  let state ← get
  let config := state.hostingConfig
  match config.registrationMode with
  | .disabled => reject .registrationClosed
  | .inviteOnly =>
      match nonBlankText input.invitationToken with
      | none => reject .registrationClosed
      | some _ => pure ()
  | .open =>
      if config.turnstile.enabledForOpenRegistration then
        let token ← orReject .turnstileFailed (nonBlankText input.turnstileToken)
        let secret ← orReject .turnstileFailed (nonBlankText config.turnstile.secretKey)
        verifyTurnstileToken context token secret

/-- The invitation that a registration needs where it is by invitation only. -/
def registrationInvite (context : RequestContext) (input : RegistrationRequest) (email : String)
    (state : ServerState) : Except ApiError (Option ServerInvite) :=
  match state.hostingConfig.registrationMode with
  | .open => .ok none
  | .disabled => .error .registrationClosed
  | .inviteOnly => do
      let some token := nonBlankText input.invitationToken | throw .registrationClosed
      let some invite := state.invites.values.find? fun invite =>
          invite.tokenHash = sessionTokenHash token
        | throw .tokenExpired
      if invite.invitedEmail ≠ email ∨ invite.revokedAt.isSome then
        throw .tokenExpired
      if invite.acceptedAt.isSome then
        throw .tokenReplayed
      if invite.expiresAt ≤ context.now then
        throw .tokenExpired
      return some invite

/-- A new account joins the logbook of its invitation. -/
def acceptInvite (context : RequestContext) (account : UserAccount) (invite : ServerInvite) :
    Handler (List ApiLogbook) := do
  let membership : LogbookMembership :=
    { accountId := invite.accountId, logbookId := invite.logbookId, userId := account.userId,
      role := invite.role, createdAt := context.now }
  let state ← get
  set { state with
    invites := state.invites.modify invite.inviteId
      (fun invite => { invite with acceptedAt := some context.now }) fun _ => rfl
    memberships := state.memberships ++ [membership] }
  return (state.logbooks.lookup invite.logbookId).toList

def createEmailVerification (context : RequestContext) (account : UserAccount) :
    Handler String := do
  let state ← get
  let token := opaqueToken "verify" account.accountId context.draws.verificationToken
  let expiresAt ← orPanic (context.now.addSeconds state.hostingConfig.verificationTtlSeconds)
  let record : EmailVerificationRecord :=
    { verificationId := context.draws.verification, accountId := account.accountId,
      userId := account.userId, email := account.email, tokenHash := sessionTokenHash token,
      createdAt := context.now, expiresAt := expiresAt, usedAt := none }
  set { state with emailVerifications := state.emailVerifications.insert record }
  return token

/-- The part of a registration under the lock for writing. -/
def registerAccount (context : RequestContext) (input : RegistrationRequest) (email : String) :
    Handler (UserAccount × List ApiLogbook) := do
  let state ← get
  enforceRateLimit context ("registration:" ++ email ++ ":" ++ context.client)
    state.hostingConfig.limits.registrationsPerWindow
  if (state.usersByEmail.lookup email).isSome then
    reject (.badRequest "account already exists")
  let invite ← ofExcept (registrationInvite context input email state)
  let account ← createAccountOnly context email input.displayName none
  let logbooks ← match invite with
    | some invite => acceptInvite context account invite
    | none => do
        let logbook ← createDefaultLogbookForAccount context account
        pure [logbook]
  let _ ← createEmailVerification context account
  sendAccountEmail context state.hostingConfig.email
  pushAudit context none "auth.register" "succeeded"
    (some (UuidCrate.display account.accountId))
  persistMetadata context
  return (account, logbooks)

def register (context : RequestContext) (body : Except String RegistrationRequest) :
    Handler (UserAccount × List ApiLogbook) := do
  let input ← parseJson body
  let email ← normalizeEmail input.email
  verifyRegistrationGate context input
  registerAccount context input email

/-- Use up a token that was sent by mail, unless it is used or over. -/
def checkToken (context : RequestContext) (usedAt : Option DateTime) (expiresAt : DateTime) :
    Handler Unit := do
  if usedAt.isSome then
    reject .tokenReplayed
  if expiresAt ≤ context.now then
    reject .tokenExpired

def verifyEmail (context : RequestContext) (body : Except String String) :
    Handler UserAccount := do
  let token ← parseJson body
  let state ← get
  enforceRateLimit context ("verification:" ++ context.client)
    state.hostingConfig.limits.verificationsPerWindow
  let record ← orReject .tokenExpired <| state.emailVerifications.values.find? fun record =>
    record.tokenHash = sessionTokenHash token
  checkToken context record.usedAt record.expiresAt
  modify fun state =>
    { state with
      emailVerifications := state.emailVerifications.modify record.verificationId
        (fun record => { record with usedAt := some context.now }) fun _ => rfl }
  let account ← orReject .tokenExpired (state.accounts.lookup record.accountId)
  let account : UserAccount := { account with emailVerifiedAt := some context.now }
  modify fun state => { state with accounts := state.accounts.insert account }
  pushAudit context none "auth.email.verify" "succeeded"
    (some (UuidCrate.display account.accountId))
  persistMetadata context
  return account

def createRecoveryToken (context : RequestContext) (account : UserAccount) : Handler String := do
  let state ← get
  let token := opaqueToken "recovery" account.accountId context.draws.recoveryToken
  let expiresAt ← orPanic (context.now.addSeconds state.hostingConfig.recoveryTtlSeconds)
  let record : RecoveryTokenRecord :=
    { recoveryId := context.draws.recovery, accountId := account.accountId,
      userId := account.userId, email := account.email, tokenHash := sessionTokenHash token,
      createdAt := context.now, expiresAt := expiresAt, usedAt := none }
  set { state with recoveryTokens := state.recoveryTokens.insert record }
  return token

/-- An account that can be recovered: verified and not deleted. -/
def recoverable (account : UserAccount) : Bool :=
  account.deletedAt.isNone && account.emailVerifiedAt.isSome

def startRecovery (context : RequestContext) (body : Except String String) : Handler Unit := do
  let input ← parseJson body
  let email ← normalizeEmail input
  let state ← get
  enforceRateLimit context ("recovery:" ++ email ++ ":" ++ context.client)
    state.hostingConfig.limits.recoveryPerWindow
  let account := ((state.usersByEmail.lookup email).bind state.accounts.lookup).filter recoverable
  match account with
  | none => pure ()
  | some account => do
      let _ ← createRecoveryToken context account
      sendAccountEmail context state.hostingConfig.email
      pushAudit context none "auth.recovery.start" "succeeded"
        (some (UuidCrate.display account.accountId))
  persistMetadata context

def completeRecovery (context : RequestContext) (body : Except String RecoveryCompleteRequest) :
    Handler LoginResponse := do
  let input ← parseJson body
  let state ← get
  let record ← orReject .tokenExpired <| state.recoveryTokens.values.find? fun record =>
    record.tokenHash = sessionTokenHash input.token
  checkToken context record.usedAt record.expiresAt
  modify fun state =>
    { state with
      recoveryTokens := state.recoveryTokens.modify record.recoveryId
        (fun record => { record with usedAt := some context.now }) fun _ => rfl }
  let account ← orReject .tokenExpired <|
    (state.accounts.lookup record.accountId).filter recoverable
  let response ← issueSessionResponse context account input.deviceName none
  pushAudit context (some response.session) "auth.recovery.complete" "succeeded"
    (some (UuidCrate.display account.accountId))
  persistMetadata context
  return response

/-! Sessions. -/

def login (context : RequestContext) (body : Except String LoginRequest) :
    Handler LoginResponse := do
  let input ← parseJson body
  let email ← normalizeEmail input.email
  let state ← get
  enforceRateLimit context ("login:" ++ email ++ ":" ++ context.client)
    state.hostingConfig.limits.loginsPerWindow
  let accountId ← orReject .unauthenticated (state.usersByEmail.lookup email)
  let account ← orReject .unauthenticated (state.accounts.lookup accountId)
  if account.deletedAt.isSome then
    reject .unauthenticated
  if account.emailVerifiedAt.isNone then
    reject .emailUnverified
  let response ← issueSessionResponse context account input.deviceName none
  pushAudit context (some response.session) "auth.login" "succeeded"
    (some (UuidCrate.display account.accountId))
  persistMetadata context
  return response

def logout (context : RequestContext) : Handler Unit := do
  let token ← orReject .unauthenticated context.bearer
  let state ← get
  let session ← orReject .unauthenticated
    (state.sessionsByToken.lookup (sessionTokenHash token))
  let session : LoginSession := { session with active := false }
  set { state with sessionsByToken := state.sessionsByToken.insert session }
  pushAudit context (some session) "auth.logout" "succeeded"
    (some (UuidCrate.display session.sessionId))
  persistMetadata context

/-- End the sessions that a test picks. -/
def endSessions (picks : LoginSession → Bool) : Handler Unit :=
  modify fun state =>
    { state with
      sessionsByToken := state.sessionsByToken.mapValues
        (fun session => if picks session then { session with active := false } else session)
        fun session => by split <;> rfl }

def revokeDevices (picks : DeviceIdentity → Bool) (revoked : DeviceIdentity → Option DateTime) :
    Handler Unit :=
  modify fun state =>
    { state with
      devices := state.devices.mapValues
        (fun device =>
          if picks device then { device with revoked := true, revokedAt := revoked device }
          else device)
        fun device => by split <;> rfl }

def logoutAllFor (context : RequestContext) (session : LoginSession) : Handler Unit := do
  endSessions fun other => other.accountId = session.accountId
  pushAudit context (some session) "auth.logout_all" "succeeded"
    (some (UuidCrate.display session.accountId))
  persistMetadata context

def logoutAll (context : RequestContext) : Handler Unit := do
  let session ← authorized context
  logoutAllFor context session

/-- The refresh token that the body of a rotation gives. -/
def refreshTokenOf (body : Except String (Option String)) : Handler String := do
  let refreshToken ← parseJson body
  orReject .tokenExpired (nonBlankText refreshToken)

/-- The part of a rotation under the lock for writing. It looks the session up
again, but not whether it is still active. -/
def rotateSessionFor (context : RequestContext) (session : LoginSession) (refreshToken : String) :
    Handler LoginResponse := do
  let state ← get
  let stored ← orReject .unauthenticated (state.sessionsByToken.lookup session.tokenHash)
  if stored.refreshTokenHash ≠ sessionTokenHash refreshToken then
    reject .tokenExpired
  if stored.refreshExpiresAt.any fun expiresAt => expiresAt ≤ context.now then
    reject .tokenExpired
  let ended : LoginSession := { stored with active := false, rotatedAt := some context.now }
  set { state with sessionsByToken := state.sessionsByToken.insert ended }
  let account ← orReject .unauthenticated (state.accounts.lookup session.accountId)
  let response ← issueSessionResponse context account none (some session.deviceId)
  pushAudit context (some response.session) "auth.session.rotate" "succeeded"
    (some (UuidCrate.display session.sessionId))
  persistMetadata context
  return response

def rotateSession (context : RequestContext) (body : Except String (Option String)) :
    Handler LoginResponse := do
  let session ← authorized context
  let refreshToken ← refreshTokenOf body
  rotateSessionFor context session refreshToken

def deleteAccountFor (context : RequestContext) (session : LoginSession) : Handler Unit := do
  let state ← get
  let account ← orReject .unauthenticated (state.accounts.lookup session.accountId)
  set { state with
    accounts := state.accounts.insert { account with deletedAt := some context.now } }
  endSessions fun other => other.accountId = session.accountId
  revokeDevices (fun device => device.accountId = session.accountId)
    fun device => some (device.revokedAt.getD context.now)
  modify fun state =>
    { state with serverAdminUserIds := state.serverAdminUserIds.erase session.userId }
  pushAudit context (some session) "auth.account.delete" "succeeded"
    (some (UuidCrate.display session.accountId))
  persistMetadata context

def deleteAccount (context : RequestContext) (confirm : Except String Bool) : Handler Unit := do
  let session ← authorized context
  let confirmed ← parseJson confirm
  if !confirmed then
    reject (.badRequest "confirm must be true")
  deleteAccountFor context session

/-! Devices. -/

def registerDevice (context : RequestContext) (body : Except String RegisterDeviceRequest) :
    Handler DeviceIdentity := do
  let session ← authorized context
  let input ← parseJson body
  let device : DeviceIdentity :=
    { deviceId := context.draws.device, accountId := session.accountId, userId := session.userId,
      deviceName := input.deviceName,
      fingerprint := input.fingerprint.getD
        ("dev-" ++ UuidCrate.display context.draws.fingerprint),
      trusted := false, revoked := false, registeredAt := context.now, revokedAt := none }
  modify fun state => { state with devices := state.devices.insert device }
  pushAudit context (some session) "device.register" "succeeded"
    (some (UuidCrate.display device.deviceId))
  persistMetadata context
  return device

def revokeAllDevicesFor (context : RequestContext) (session : LoginSession) : Handler Unit := do
  revokeDevices (fun device => device.accountId = session.accountId ∧ !device.revoked)
    fun _ => some context.now
  endSessions fun other => other.accountId = session.accountId
  pushAudit context (some session) "device.revoke_all" "succeeded"
    (some (UuidCrate.display session.accountId))
  persistMetadata context

def revokeAllDevices (context : RequestContext) : Handler Unit := do
  let session ← authorized context
  revokeAllDevicesFor context session

/-- Only an owner of some logbook revokes a device, and only one of the same
account. -/
def revokeDeviceFor (context : RequestContext) (session : LoginSession) (deviceId : Uuid) :
    Handler Unit := do
  let state ← get
  let device ← orReject .notFound (state.devices.lookup deviceId)
  if device.accountId ≠ session.accountId then
    reject .forbidden
  let hasOwnerRole := state.memberships.any fun membership =>
    membership.userId = session.userId ∧ membership.role = .owner
  if !hasOwnerRole then
    reject .forbidden
  revokeDevices (fun device => device.deviceId = deviceId) fun _ => some context.now
  endSessions fun other => other.deviceId = deviceId
  pushAudit context (some session) "device.revoke" "succeeded"
    (some (UuidCrate.display deviceId))
  persistMetadata context

def revokeDevice (context : RequestContext) (deviceId : String) : Handler Unit := do
  let deviceId ← parseUuid deviceId
  let session ← authorized context
  revokeDeviceFor context session deviceId

end HostedServer

section
open Crates

/-- Identifiers as a request might draw them, counted from a number. -/
def sampleDraws (first : Nat) : Draws :=
  let draw (index : Nat) : Uuid := BitVec.ofNat 128 (first + index)
  { account := draw 0, user := draw 1, logbook := draw 2, device := draw 3, fingerprint := draw 4,
    session := draw 5, sessionToken := draw 6, refreshToken := draw 7, verification := draw 8,
    verificationToken := draw 9, recovery := draw 10, recoveryToken := draw 11,
    invite := draw 12, inviteToken := draw 13, audit := draw 14 }

def sampleRequest (first : Nat) : RequestContext where
  requestId := "request"
  client := "local"
  bearer := none
  now := epoch
  draws := sampleDraws first

/-- A server that starts for the first time. -/
def firstStart : ServerState where
  hostingConfig := HostingConfig.fromEnv (fun _ => none) epoch

def sampleBootstrap (email : String) : BootstrapAdminRequest where
  email := email
  displayName := none
  deviceName := none

/-- The server after its administrator was made. -/
def afterBootstrap : ServerState :=
  ((HostedServer.bootstrapAdmin (sampleRequest 100)
    (.ok (sampleBootstrap "admin@example.test"))).execute firstStart).1

end
end HamLogger
