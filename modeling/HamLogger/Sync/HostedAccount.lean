import HamLogger.Core.Projection
import HamLogger.Library.FileReplace
import HamLogger.Library.KeyMap
import HamLogger.Library.Program

/-! The client of a hosted account: the durable record without secrets, the
plan of a request, what a response changes, and the calls that configure the
client and carry a request out. -/
namespace HamLogger

open FileReplace (Cut Disk)
open Program

def hostedAccountFileVersion : UInt32 := 1

def defaultHostedAccountDeviceName : String := "KE8YGW Logger Device"

inductive HostedAccountError where
  | io
  | serde
  | unsupportedFileVersion (version : UInt32)
  | invalidBaseUrl (message : String)
  | invalidEmail
  | missingField (field : String)
  | fieldTooLong (field : String) (max : Nat)
  | sessionRequired
  | refreshTokenRequired
  | secretStorage (message : String)
  deriving DecidableEq

/-! Normalization. -/

/-- `char::is_control`. -/
def isControl (c : Char) : Bool :=
  c.toNat < 0x20 || (0x7F ≤ c.toNat && c.toNat ≤ 0x9F)

/-- The text without its trailing slashes. -/
def trimEndSlashes (text : List Char) : List Char :=
  (text.reverse.dropWhile (· = '/')).reverse

/-- What comes after the first two slashes. -/
def afterSlashes : List Char → Option (List Char)
  | '/' :: '/' :: rest => some rest
  | _ :: rest => afterSlashes rest
  | [] => none

def normalizeBaseUrl (baseUrl : String) : Except HostedAccountError String :=
  let trimmed := trimEndSlashes (trim baseUrl).toList
  let text := String.ofList trimmed
  let authority := (afterSlashes trimmed).getD trimmed
  if trimmed = [] then .error (.invalidBaseUrl "base URL is required")
  else if 2048 < text.utf8ByteSize then .error (.invalidBaseUrl "base URL is too long")
  else if !"http://".toList.isPrefixOf trimmed && !"https://".toList.isPrefixOf trimmed then
    .error (.invalidBaseUrl "base URL must start with http:// or https://")
  else if trimmed.any fun c => isWhitespace c || isControl c then
    .error (.invalidBaseUrl "base URL must not contain whitespace or control characters")
  else if authority = [] ∨ authority.head? = some '/' then
    .error (.invalidBaseUrl "base URL must include a host")
  else .ok text

def normalizeDeviceName (deviceName : String) : Except HostedAccountError String :=
  let trimmed := trim deviceName
  if trimmed = "" then .ok defaultHostedAccountDeviceName
  else if 128 < trimmed.utf8ByteSize || trimmed.toList.any isControl then
    .error (.fieldTooLong "device_name" 128)
  else .ok trimmed

/-- The text between two marks, before the first one and after the last one. -/
def splitOnChar (mark : Char) : List Char → List (List Char)
  | [] => [[]]
  | c :: rest =>
      match splitOnChar mark rest with
      | [] => [[c]]
      | part :: parts => if c = mark then [] :: part :: parts else (c :: part) :: parts

def normalizeHostedEmail (email : String) : Except HostedAccountError String :=
  let trimmed := toAsciiLowercase (trim email)
  if trimmed = "" ∨ 320 < trimmed.utf8ByteSize then .error .invalidEmail
  else if trimmed.toList.any fun c => isWhitespace c || isControl c then .error .invalidEmail
  else match splitOnChar '@' trimmed.toList with
    | [name, domain] =>
        if name = [] ∨ domain = [] ∨ '.' ∉ domain then .error .invalidEmail else .ok trimmed
    | _ => .error .invalidEmail

def requireToken (value field : String) : Except HostedAccountError String :=
  let trimmed := trim value
  if trimmed = "" then .error (.missingField field)
  else if 1024 < trimmed.utf8ByteSize then .error (.fieldTooLong field 1024)
  else .ok trimmed

/-- The text of a field without the blanks around it, if any text is left. -/
def nonEmptyString (value : Option Value) : Option String :=
  ((value.bind Value.asStr).map trim).filter fun text => text ≠ ""

/-- A field that is only sent with a text. -/
def insertOptionalString (body : Fields) (key : String) (value : Option String) (max : Nat) :
    Except HostedAccountError Fields :=
  match (value.map trim).filter fun text => text ≠ "" with
  | none => .ok body
  | some text =>
      if max < text.utf8ByteSize then .error (.fieldTooLong key max)
      else .ok (Fields.insert body key (.string text))

/-! The durable record. -/

structure HostedAccountConfig where
  baseUrl : String
  deviceName : String
  deriving DecidableEq

def HostedAccountConfig.normalized (config : HostedAccountConfig) :
    Except HostedAccountError HostedAccountConfig := do
  let baseUrl ← normalizeBaseUrl config.baseUrl
  let deviceName ← normalizeDeviceName config.deviceName
  return { baseUrl := baseUrl, deviceName := deviceName }

inductive HostedAccountConnectionState where
  | signedOut | pendingEmailVerification | signedIn | sessionExpired | deviceRevoked
  deriving DecidableEq

inductive HostedAccountOutcome where
  | accepted | authenticationRequired | emailVerificationRequired | registrationClosed
  | tokenExpired | tokenReplayed | humanVerificationFailed | rateLimited | validationFailed
  | transientFailure | permanentFailure
  deriving DecidableEq

/-- The record without what is only shown: times, devices, logbooks and the
last message. -/
structure HostedAccountSnapshot where
  schemaVersion : UInt32 := hostedAccountFileVersion
  baseUrl : String
  deviceName : String
  connectionState : HostedAccountConnectionState := .signedOut
  accountId : Option Uuid := none
  userId : Option Uuid := none
  email : Option String := none
  displayName : Option String := none
  emailVerified : Bool := false
  sessionId : Option Uuid := none
  sessionTokenCredentialId : Option Uuid := none
  refreshTokenCredentialId : Option Uuid := none
  deviceId : Option Uuid := none
  pendingEmailVerificationFor : Option String := none
  pendingRecoveryFor : Option String := none
  deriving DecidableEq

namespace HostedAccountSnapshot

def new (config : HostedAccountConfig) : HostedAccountSnapshot where
  baseUrl := config.baseUrl
  deviceName := config.deviceName

def clearIdentity (snapshot : HostedAccountSnapshot) : HostedAccountSnapshot :=
  { snapshot with
    accountId := none, userId := none, email := none, displayName := none,
    emailVerified := false }

def clearSession (snapshot : HostedAccountSnapshot) : HostedAccountSnapshot :=
  { snapshot with
    sessionId := none, sessionTokenCredentialId := none, refreshTokenCredentialId := none,
    deviceId := none }

/-- The credentials that the record names. -/
def credentialIds (snapshot : HostedAccountSnapshot) : List Uuid :=
  snapshot.sessionTokenCredentialId.toList ++ snapshot.refreshTokenCredentialId.toList

end HostedAccountSnapshot

structure HostedAccountFile where
  version : UInt32
  snapshot : HostedAccountSnapshot
  deriving DecidableEq

def HostedAccountFile.validate (file : HostedAccountFile) : Except HostedAccountError Unit := do
  if file.version ≠ hostedAccountFileVersion then
    throw (.unsupportedFileVersion file.version)
  if file.snapshot.schemaVersion ≠ hostedAccountFileVersion then
    throw (.unsupportedFileVersion file.snapshot.schemaVersion)
  let _ ← normalizeBaseUrl file.snapshot.baseUrl

/-! Requests. -/

inductive HostedAccountAction where
  | register (email : String) (displayName invitationToken turnstileToken : Option String)
  | verifyEmail (token : String)
  | recoveryStart (email : String)
  | recoveryComplete (token : String)
  | bootstrap (email : String) (displayName : Option String)
  | login (email : String) (displayName : Option String)
  | session
  | sessionRotate
  | logout
  | logoutAll
  | accountDelete
  | deviceList
  | deviceRegister (deviceName : String)
  | deviceRevoke (deviceId : Uuid)
  | deviceRevokeAll
  deriving DecidableEq

namespace HostedAccountAction

def requiresSession : HostedAccountAction → Bool
  | .session | .sessionRotate | .logout | .logoutAll | .accountDelete | .deviceList
  | .deviceRegister _ | .deviceRevoke _ | .deviceRevokeAll => true
  | _ => false

variable [UuidCrate]

/-- The method, the path and the body of the request. -/
def request (action : HostedAccountAction) (deviceName : String) :
    Except HostedAccountError (String × String × Option Value) :=
  match action with
  | .register email displayName invitationToken turnstileToken => do
      let email ← normalizeHostedEmail email
      let body : Fields := [("device_name", .string deviceName), ("email", .string email)]
      let body ← insertOptionalString body "display_name" displayName 200
      let body ← insertOptionalString body "invitation_token" invitationToken 1024
      let body ← insertOptionalString body "turnstile_token" turnstileToken 1024
      return ("POST", "/api/v1/auth/register", some (.object body))
  | .verifyEmail token => do
      let token ← requireToken token "token"
      return ("POST", "/api/v1/auth/verify-email", some (.object [("token", .string token)]))
  | .recoveryStart email => do
      let email ← normalizeHostedEmail email
      return ("POST", "/api/v1/auth/recovery/start", some (.object [("email", .string email)]))
  | .recoveryComplete token => do
      let token ← requireToken token "token"
      return ("POST", "/api/v1/auth/recovery/complete",
        some (.object [("device_name", .string deviceName), ("token", .string token)]))
  | .bootstrap email displayName => do
      let email ← normalizeHostedEmail email
      let body : Fields := [("device_name", .string deviceName), ("email", .string email)]
      let body ← insertOptionalString body "display_name" displayName 200
      return ("POST", "/api/v1/admin/bootstrap", some (.object body))
  | .login email displayName => do
      let email ← normalizeHostedEmail email
      let body : Fields := [("device_name", .string deviceName), ("email", .string email)]
      let body ← insertOptionalString body "display_name" displayName 200
      return ("POST", "/api/v1/auth/login", some (.object body))
  | .session => .ok ("GET", "/api/v1/auth/session", none)
  | .sessionRotate => .ok ("POST", "/api/v1/auth/session/rotate", some (.object []))
  | .logout => .ok ("POST", "/api/v1/auth/logout", some (.object []))
  | .logoutAll => .ok ("POST", "/api/v1/auth/logout-all", some (.object []))
  | .accountDelete =>
      .ok ("POST", "/api/v1/auth/account/delete", some (.object [("confirm", .bool true)]))
  | .deviceList => .ok ("GET", "/api/v1/devices", none)
  | .deviceRegister deviceName => do
      let deviceName ← normalizeDeviceName deviceName
      return ("POST", "/api/v1/devices", some (.object [("device_name", .string deviceName)]))
  | .deviceRevoke deviceId =>
      .ok ("POST", "/api/v1/devices/" ++ UuidCrate.display deviceId ++ "/revoke",
        some (.object []))
  | .deviceRevokeAll => .ok ("POST", "/api/v1/devices/revoke-all", some (.object []))

end HostedAccountAction

/-- What the transport is asked to carry out. -/
structure HostedAccountRequestPlan where
  method : String
  path : String
  url : String
  body : Option Value
  requiresSessionToken : Bool
  sessionTokenCredentialId : Option Uuid
  requiresRefreshToken : Bool
  refreshTokenCredentialId : Option Uuid
  refreshTokenBodyField : Option String
  deriving DecidableEq

/-- The body with the refresh token in its field. -/
def HostedAccountRequestPlan.bodyWithRefreshToken (plan : HostedAccountRequestPlan)
    (refreshToken : String) : Value :=
  let body := plan.body.getD (.object [])
  match plan.refreshTokenBodyField with
  | none => body
  | some field =>
      match body with
      | .object fields => .object (Fields.insert fields field (.string refreshToken))
      | other => other

def planHostedAccountRequest [UuidCrate] (action : HostedAccountAction)
    (snapshot : HostedAccountSnapshot) : Except HostedAccountError HostedAccountRequestPlan := do
  let baseUrl ← normalizeBaseUrl snapshot.baseUrl
  let deviceName ← normalizeDeviceName snapshot.deviceName
  if action.requiresSession && snapshot.sessionTokenCredentialId.isNone then
    .error .sessionRequired
  else do
    let (method, path, body) ← action.request deviceName
    let requiresRefreshToken : Bool := action = .sessionRotate
    if requiresRefreshToken && snapshot.refreshTokenCredentialId.isNone then
      .error .refreshTokenRequired
    else
      return { method := method, path := path, url := baseUrl ++ path, body := body
               requiresSessionToken := action.requiresSession
               sessionTokenCredentialId :=
                 if action.requiresSession then snapshot.sessionTokenCredentialId else none
               requiresRefreshToken := requiresRefreshToken
               refreshTokenCredentialId :=
                 if requiresRefreshToken then snapshot.refreshTokenCredentialId else none
               refreshTokenBodyField :=
                 if requiresRefreshToken then some "refresh_token" else none }

/-! Responses. -/

structure HostedAccountHttpResponse where
  status : UInt16
  body : Option Value
  deriving DecidableEq

/-- The result of a call, with the tokens that the response has issued. Its
message and what follows from its outcome are left out. -/
structure HostedAccountResult where
  outcome : HostedAccountOutcome
  status : UInt16
  errorCode : Option String
  snapshot : HostedAccountSnapshot
  clearedCredentialIds : List Uuid
  sessionToken : Option String
  refreshToken : Option String
  deriving DecidableEq

/-- The code of an error decides, and the status where it has none that is
known. -/
def classifyHostedAccountError (code : Option String) (status : UInt16) :
    HostedAccountOutcome :=
  if code ∈ ["missing_token", "invalid_token", "session_inactive", "session_expired",
      "device_revoked"].map some then .authenticationRequired
  else if code = some "email_unverified" then .emailVerificationRequired
  else if code = some "registration_closed" then .registrationClosed
  else if code = some "token_expired" then .tokenExpired
  else if code = some "token_replayed" then .tokenReplayed
  else if code = some "turnstile_failed" then .humanVerificationFailed
  else if code = some "rate_limited" then .rateLimited
  else if code ∈ ["bad_request", "validation_failed", "invalid_json", "invalid_uuid",
      "missing_field", "unsupported_media_type", "payload_too_large",
      "proposal_rejected"].map some then .validationFailed
  else if code ∈ ["store_unavailable", "internal_error"].map some then .transientFailure
  else if code ∈ ["forbidden", "not_found"].map some then .permanentFailure
  else if status = 401 then .authenticationRequired
  else if status = 403 ∨ status = 404 then .permanentFailure
  else if status = 429 then .rateLimited
  else if 500 ≤ status ∧ status < 600 then .transientFailure
  else if 400 ≤ status ∧ status < 500 then .validationFailed
  else .permanentFailure

/-- The tokens that a body issues for a session. -/
def issuedTokens (body : Value) : Option String × Option String :=
  (nonEmptyString ((body.get "session").bind fun session => session.get "token"),
    nonEmptyString (body.get "refresh_token"))

/-- The identifiers that are drawn for credentials. -/
structure CredentialDraws where
  session : Uuid
  refresh : Uuid

section Responses
variable [UuidCrate]

def applyAccount (snapshot : HostedAccountSnapshot) (account : Value) : HostedAccountSnapshot :=
  { snapshot with
    accountId := (uuidField account "account_id").or snapshot.accountId
    userId := (uuidField account "user_id").or snapshot.userId
    email := ((account.get "email").bind Value.asStr).or snapshot.email
    displayName := ((account.get "display_name").bind Value.asStr).or snapshot.displayName
    emailVerified := ((account.get "email_verified_at").map fun value =>
      decide (value ≠ .null)).getD snapshot.emailVerified }

/-- What the session of a body says about itself and its device. -/
def applySessionIds (snapshot : HostedAccountSnapshot) (body : Value) : HostedAccountSnapshot :=
  let session := body.get "session"
  let device := body.get "device"
  { snapshot with
    sessionId := (session.bind fun value => uuidField value "session_id").or snapshot.sessionId
    deviceId := (device.bind fun value => uuidField value "device_id").or
      ((session.bind fun value => uuidField value "device_id").or snapshot.deviceId) }

/-- The record names a credential for each token that a body issues, the one it
names already if it names one. -/
def applySession (draws : CredentialDraws) (snapshot : HostedAccountSnapshot) (body : Value) :
    HostedAccountSnapshot :=
  let tokens := issuedTokens body
  let snapshot := match body.get "account" with
    | some account => applyAccount snapshot account
    | none => snapshot
  let snapshot := applySessionIds snapshot body
  { snapshot with
    sessionTokenCredentialId :=
      if tokens.1.isSome then some (snapshot.sessionTokenCredentialId.getD draws.session)
      else snapshot.sessionTokenCredentialId
    refreshTokenCredentialId :=
      if tokens.2.isSome then some (snapshot.refreshTokenCredentialId.getD draws.refresh)
      else snapshot.refreshTokenCredentialId
    connectionState := .signedIn
    emailVerified := true
    pendingEmailVerificationFor := none }

/-- A response ends the session that the record names. -/
def endSession (snapshot : HostedAccountSnapshot) (state : HostedAccountConnectionState) :
    HostedAccountSnapshot :=
  { snapshot.clearSession with connectionState := state }

def acceptedResult (draws : CredentialDraws) (action : HostedAccountAction) (status : UInt16)
    (body : Value) (snapshot : HostedAccountSnapshot) : HostedAccountResult :=
  let finish (later : HostedAccountSnapshot) : HostedAccountResult :=
    { outcome := .accepted, status := status, errorCode := none,
      snapshot := { later with schemaVersion := hostedAccountFileVersion },
      clearedCredentialIds := [], sessionToken := none, refreshToken := none }
  let tokens := issuedTokens body
  match action with
  | .register email _ _ _ =>
      let normalized := (((body.get "account").bind fun account =>
        account.get "email").bind Value.asStr).or (normalizeHostedEmail email).toOption
      finish { snapshot with
        pendingEmailVerificationFor := normalized, email := normalized, emailVerified := false,
        connectionState := .pendingEmailVerification }
  | .verifyEmail _ =>
      let snapshot := match body.get "account" with
        | some account => applyAccount snapshot account
        | none => snapshot
      finish { snapshot with
        emailVerified := true, pendingEmailVerificationFor := none,
        connectionState :=
          if snapshot.connectionState = .signedIn then .signedIn else .signedOut }
  | .recoveryStart email =>
      finish { snapshot with pendingRecoveryFor := (normalizeHostedEmail email).toOption }
  | .recoveryComplete _ | .bootstrap _ _ | .login _ _ | .sessionRotate =>
      { finish { applySession draws snapshot body with pendingRecoveryFor := none } with
        sessionToken := tokens.1, refreshToken := tokens.2 }
  | .session =>
      { finish (applySession draws snapshot body) with
        sessionToken := tokens.1, refreshToken := tokens.2 }
  | .logout | .logoutAll | .deviceRevokeAll =>
      { finish (endSession snapshot .signedOut) with
        clearedCredentialIds := snapshot.credentialIds }
  | .accountDelete =>
      { finish { (endSession snapshot .signedOut).clearIdentity with
          pendingEmailVerificationFor := none, pendingRecoveryFor := none } with
        clearedCredentialIds := snapshot.credentialIds }
  | .deviceList | .deviceRegister _ => finish snapshot
  | .deviceRevoke deviceId =>
      if snapshot.deviceId = some deviceId then
        { finish (endSession snapshot .deviceRevoked) with
          clearedCredentialIds := snapshot.credentialIds }
      else finish snapshot

def applyHostedAccountResponse (draws : CredentialDraws) (action : HostedAccountAction)
    (response : HostedAccountHttpResponse) (snapshot : HostedAccountSnapshot) :
    HostedAccountResult :=
  let body := response.body.getD .null
  if 200 ≤ response.status ∧ response.status < 300 then
    acceptedResult draws action response.status body snapshot
  else
    let errorCode := (body.get "code").bind Value.asStr
    let outcome := classifyHostedAccountError errorCode response.status
    let finish (later : HostedAccountSnapshot) (cleared : List Uuid) : HostedAccountResult :=
      { outcome := outcome, status := response.status, errorCode := errorCode,
        snapshot := { later with schemaVersion := hostedAccountFileVersion },
        clearedCredentialIds := cleared, sessionToken := none, refreshToken := none }
    match outcome with
    | .authenticationRequired =>
        finish (endSession snapshot (if errorCode = some "device_revoked" then .deviceRevoked
          else .sessionExpired)) snapshot.credentialIds
    | .emailVerificationRequired =>
        finish { snapshot with
          emailVerified := false, connectionState := .pendingEmailVerification } []
    | _ => finish snapshot []

end Responses

def hostedAccountTransportFailure (snapshot : HostedAccountSnapshot) : HostedAccountResult where
  outcome := .transientFailure
  status := 0
  errorCode := some "transport_failure"
  snapshot := { snapshot with schemaVersion := hostedAccountFileVersion }
  clearedCredentialIds := []
  sessionToken := none
  refreshToken := none

/-! The client. -/

/-- What one request carried, and what came back for it. -/
structure AccountExchange where
  plan : HostedAccountRequestPlan
  body : Option Value
  sessionToken : Option String
  response : Except String HostedAccountHttpResponse

/-- The record on the disk, the secret storage of the platform, and the
requests that the transport has carried so far. -/
structure AccountWorld where
  disk : Disk HostedAccountFile := {}
  secrets : KeyMap Uuid String := ∅
  exchanges : List AccountExchange := []

abbrev AccountProgram (α : Type) := Program AccountWorld HostedAccountError α

/-- A call of the secret storage that fails, before or after it has done what it
was asked for. -/
structure SecretFault where
  message : String
  done : Bool

/-- What a call meets: which of its writes are cut off, which calls of the
secret storage fail, the identifiers it draws, and the response. -/
structure AccountEnv where
  quarantineFails : Bool := false
  initialSave : Option Cut := none
  save : Option Cut := none
  readSession : Option String := none
  readRefresh : Option String := none
  writeSession : Option SecretFault := none
  writeRefresh : Option SecretFault := none
  clear : Uuid → Option SecretFault := fun _ => none
  draws : CredentialDraws
  response : Except String HostedAccountHttpResponse

namespace HostedAccountClient

/-- The record of a file that can be read and passes its check. -/
def loadFile (disk : Disk HostedAccountFile) : Except HostedAccountError HostedAccountSnapshot :=
  match disk.file with
  | none => .error .io
  | some (.document file) => do
      file.validate
      return file.snapshot
  | some _ => .error .serde

def saveFile (snapshot : HostedAccountSnapshot) (cut : Option Cut) : AccountProgram Unit := do
  let file : HostedAccountFile :=
    { version := hostedAccountFileVersion, snapshot := snapshot }
  modify fun world => { world with disk := world.disk.replace file cut }
  if cut.isSome then throw .io

/-- Move the file of the record aside, if there is one. -/
def quarantineFile (env : AccountEnv) : AccountProgram Unit := do
  let world ← get
  if world.disk.file.isSome then
    if env.quarantineFails then throw .io
    else set { world with
      disk := { world.disk with
        file := none, quarantined := world.disk.file.toList ++ world.disk.quarantined } }

def startRecord (config : HostedAccountConfig) (env : AccountEnv) :
    AccountProgram HostedAccountSnapshot := do
  let normalized ← reading fun _ => config.normalized
  saveFile (.new normalized) env.initialSave
  return .new normalized

/-- A missing record starts anew, and one that cannot be read does once it was
moved aside. -/
def loadOrInitialize (config : HostedAccountConfig) (env : AccountEnv) :
    AccountProgram HostedAccountSnapshot := do
  let world ← get
  match loadFile world.disk with
  | .ok snapshot => return snapshot
  | .error _ =>
      quarantineFile env
      startRecord config env

/-- Another server and another device label for the record as it is. -/
def configure (config : HostedAccountConfig) (env : AccountEnv) :
    AccountProgram HostedAccountSnapshot := do
  let normalized ← reading fun _ => config.normalized
  let snapshot ← loadOrInitialize normalized env
  let snapshot : HostedAccountSnapshot :=
    { snapshot with baseUrl := normalized.baseUrl, deviceName := normalized.deviceName }
  saveFile snapshot env.save
  return snapshot

def readSecret (fails : Option String) (credentialId : Uuid) : AccountProgram (Option String) :=
  reading fun world =>
    match fails with
    | some message => .error (.secretStorage message)
    | none => .ok (world.secrets.lookup credentialId)

/-- Change the secret storage, unless the call fails before it has. -/
def changeSecrets (fault : Option SecretFault) (change : KeyMap Uuid String → KeyMap Uuid String) :
    AccountProgram Unit := do
  match fault with
  | none => modify fun world => { world with secrets := change world.secrets }
  | some fault =>
      if fault.done then
        modify fun world => { world with secrets := change world.secrets }
      throw (.secretStorage fault.message)

def readSessionToken (plan : HostedAccountRequestPlan) (env : AccountEnv) :
    AccountProgram (Option String) := do
  match plan.sessionTokenCredentialId with
  | none => return none
  | some credentialId =>
      let token ← readSecret env.readSession credentialId
      if plan.requiresSessionToken && token.isNone then throw .sessionRequired
      return token

def requestBody (plan : HostedAccountRequestPlan) (env : AccountEnv) :
    AccountProgram (Option Value) := do
  if plan.requiresRefreshToken then
    match plan.refreshTokenCredentialId with
    | none => throw .refreshTokenRequired
    | some credentialId =>
        match ← readSecret env.readRefresh credentialId with
        | none => throw .refreshTokenRequired
        | some token => return some (plan.bodyWithRefreshToken token)
  else return plan.body

def storeIssued (fault : Option SecretFault) (credentialId : Option Uuid) (token : Option String) :
    AccountProgram Unit := do
  match credentialId, token with
  | some credentialId, some token =>
      changeSecrets fault fun secrets => secrets.insert credentialId token
  | _, _ => return

def clearSecrets (fails : Uuid → Option SecretFault) : List Uuid → AccountProgram Unit
  | [] => pure ()
  | credentialId :: rest => do
      changeSecrets (fails credentialId) fun secrets => secrets.erase credentialId
      clearSecrets fails rest

variable [UuidCrate]

def resultOf (action : HostedAccountAction) (env : AccountEnv)
    (snapshot : HostedAccountSnapshot) : HostedAccountResult :=
  match env.response with
  | .ok response => applyHostedAccountResponse env.draws action response snapshot
  | .error _ => hostedAccountTransportFailure snapshot

def execute (action : HostedAccountAction) (config : HostedAccountConfig) (env : AccountEnv) :
    AccountProgram HostedAccountResult := do
  let snapshot ← loadOrInitialize config env
  let plan ← reading fun _ => planHostedAccountRequest action snapshot
  let sessionToken ← readSessionToken plan env
  let body ← requestBody plan env
  modify fun world =>
    { world with
      exchanges := world.exchanges ++
        [{ plan := plan, body := body, sessionToken := sessionToken, response := env.response }] }
  let result := resultOf action env snapshot
  storeIssued env.writeSession result.snapshot.sessionTokenCredentialId result.sessionToken
  storeIssued env.writeRefresh result.snapshot.refreshTokenCredentialId result.refreshToken
  clearSecrets env.clear result.clearedCredentialIds
  saveFile result.snapshot env.save
  return result

end HostedAccountClient
end HamLogger
