import HamLogger.Core.Json
import HamLogger.Core.Basic

/-! What the hosted server keeps records of: accounts, sessions and devices,
logbooks and who may use them, tokens sent by mail, limits, and the settings
and histories of each logbook. -/
namespace HamLogger

structure UserAccount where
  accountId : Uuid
  userId : Uuid
  email : String
  displayName : String
  createdAt : DateTime
  emailVerifiedAt : Option DateTime := none
  deletedAt : Option DateTime := none
  deriving DecidableEq

structure LoginSession where
  sessionId : Uuid
  accountId : Uuid
  userId : Uuid
  deviceId : Uuid
  token : String := ""
  tokenHash : String := ""
  refreshToken : String := ""
  refreshTokenHash : String := ""
  issuedAt : DateTime
  expiresAt : Option DateTime
  refreshExpiresAt : Option DateTime := none
  rotatedAt : Option DateTime := none
  active : Bool
  deriving DecidableEq

structure DeviceIdentity where
  deviceId : Uuid
  accountId : Uuid
  userId : Uuid
  deviceName : String
  fingerprint : String
  trusted : Bool
  revoked : Bool
  registeredAt : DateTime
  revokedAt : Option DateTime
  deriving DecidableEq

structure ApiLogbook where
  logbookId : Uuid
  accountId : Uuid
  name : String
  description : Option String
  stationCallsign : Option String
  createdAt : DateTime
  updatedAt : DateTime
  deriving DecidableEq

inductive LogbookRole where
  | owner | admin | operator | viewer
  deriving DecidableEq

namespace LogbookRole

def canRead : LogbookRole → Bool
  | .owner | .admin | .operator | .viewer => true

def canLogQso : LogbookRole → Bool
  | .owner | .admin | .operator => true
  | .viewer => false

def canAdminister : LogbookRole → Bool
  | .owner | .admin => true
  | .operator | .viewer => false

end LogbookRole

structure LogbookMembership where
  accountId : Uuid
  logbookId : Uuid
  userId : Uuid
  role : LogbookRole
  createdAt : DateTime
  deriving DecidableEq

structure ServerInvite where
  inviteId : Uuid
  accountId : Uuid
  logbookId : Uuid
  invitedEmail : String
  role : LogbookRole
  tokenHash : String := ""
  legacyToken : String := ""
  createdByUserId : Option Uuid := none
  createdAt : Option DateTime := none
  expiresAt : DateTime
  acceptedAt : Option DateTime
  revokedAt : Option DateTime := none
  lastSentAt : Option DateTime := none
  resendCount : Nat := 0
  deriving DecidableEq

structure ApiToken where
  tokenId : Uuid
  accountId : Uuid
  userId : Uuid
  deviceId : Uuid
  token : String := ""
  tokenHash : String := ""
  scopes : List String
  revoked : Bool
  issuedAt : DateTime
  deriving DecidableEq

/-! The configuration of the server. -/

inductive HostingOperationMode where
  | personalHosted | publicHosted | selfHosted
  deriving DecidableEq

inductive RegistrationMode where
  | inviteOnly | «open» | disabled
  deriving DecidableEq

inductive EmailDeliveryMode where
  | test | webhook | disabled
  deriving DecidableEq

structure EmailDeliveryConfig where
  mode : EmailDeliveryMode := .test
  fromAddress : String := "noreply@example.test"
  verificationBaseUrl : String := "http://127.0.0.1:9750/verify-email"
  recoveryBaseUrl : String := "http://127.0.0.1:9750/recover-account"
  webhookUrl : Option String := none
  credentialId : Option String := none
  deriving DecidableEq

structure TurnstileConfig where
  enabledForOpenRegistration : Bool := true
  siteKey : Option String := none
  secretKey : Option String := none
  siteverifyUrl : String := "https://challenges.cloudflare.com/turnstile/v0/siteverify"
  timeoutSeconds : Nat := 5
  deriving DecidableEq

structure HostedLimitConfig where
  windowSeconds : Int := 900
  registrationsPerWindow : Nat := 10
  loginsPerWindow : Nat := 30
  verificationsPerWindow : Nat := 20
  recoveryPerWindow : Nat := 10
  invitationsPerWindow : Nat := 25
  providerOpsPerWindow : Nat := 120
  syncOpsPerWindow : Nat := 240
  deriving DecidableEq

structure HostingConfig where
  operationMode : HostingOperationMode := .personalHosted
  registrationMode : RegistrationMode := .inviteOnly
  bootstrapAdminCompleted : Bool := false
  sessionTtlSeconds : Int := 60 * 60 * 24 * 30
  refreshTtlSeconds : Int := 60 * 60 * 24 * 90
  invitationTtlSeconds : Int := 60 * 60 * 24 * 7
  verificationTtlSeconds : Int := 60 * 60 * 24
  recoveryTtlSeconds : Int := 60 * 60
  limits : HostedLimitConfig := {}
  email : EmailDeliveryConfig := {}
  turnstile : TurnstileConfig := {}
  updatedAt : DateTime
  deriving DecidableEq

/-- The configuration that the environment variables give. -/
def HostingConfig.fromEnv (var : String → Option String) (now : DateTime) : HostingConfig where
  operationMode := match var "HAM_SERVER_OPERATION_MODE" with
    | some "public_hosted" => .publicHosted
    | some "self_hosted" => .selfHosted
    | some _ => .personalHosted
    | none => .personalHosted
  registrationMode := match var "HAM_SERVER_REGISTRATION_MODE" with
    | some "open" => .open
    | some "disabled" => .disabled
    | some _ => .inviteOnly
    | none => .inviteOnly
  sessionTtlSeconds :=
    ((var "HAM_SERVER_SESSION_TTL_SECONDS").bind parseI64).getD (60 * 60 * 24 * 30)
  email :=
    { mode := match var "HAM_SERVER_EMAIL_MODE" with
        | some "webhook" => .webhook
        | some "disabled" => .disabled
        | some _ => .test
        | none => .test
      fromAddress := (var "HAM_SERVER_EMAIL_FROM").getD "noreply@example.test"
      verificationBaseUrl := (var "HAM_SERVER_EMAIL_VERIFICATION_BASE_URL").getD
        "http://127.0.0.1:9750/verify-email"
      recoveryBaseUrl := (var "HAM_SERVER_EMAIL_RECOVERY_BASE_URL").getD
        "http://127.0.0.1:9750/recover-account"
      webhookUrl := var "HAM_SERVER_EMAIL_WEBHOOK_URL"
      credentialId := var "HAM_SERVER_EMAIL_CREDENTIAL_ID" }
  turnstile :=
    { siteKey := var "HAM_SERVER_TURNSTILE_SITE_KEY"
      secretKey := var "HAM_SERVER_TURNSTILE_SECRET_KEY"
      siteverifyUrl := (var "HAM_SERVER_TURNSTILE_SITEVERIFY_URL").getD
        "https://challenges.cloudflare.com/turnstile/v0/siteverify" }
  updatedAt := now

/-! Tokens sent by mail, limits and audits. -/

structure EmailVerificationRecord where
  verificationId : Uuid
  accountId : Uuid
  userId : Uuid
  email : String
  tokenHash : String
  createdAt : DateTime
  expiresAt : DateTime
  usedAt : Option DateTime
  deriving DecidableEq

structure RecoveryTokenRecord where
  recoveryId : Uuid
  accountId : Uuid
  userId : Uuid
  email : String
  tokenHash : String
  createdAt : DateTime
  expiresAt : DateTime
  usedAt : Option DateTime
  deriving DecidableEq

structure RateLimitRecord where
  key : String
  windowStartedAt : DateTime
  count : Nat
  deriving DecidableEq

structure AuditRecord where
  auditId : Uuid
  occurredAt : DateTime
  requestId : String
  actorAccountId : Option Uuid
  actorUserId : Option Uuid
  action : String
  outcome : String
  target : Option String
  details : Fields := []
  deriving DecidableEq

/-! Settings and histories of logbooks. -/

inductive EquipmentType where
  | radio | antenna | amplifier | tuner | rotor | interface | powerSupply | accessory
  deriving DecidableEq

inductive EquipmentStatus where
  | active | inactive | retired | repair
  deriving DecidableEq

structure StationProfile where
  stationProfileId : Uuid
  accountId : Option String
  displayName : String
  stationCallsign : String
  operatorCallsign : Option String
  defaultGrid : Option String
  defaultQth : Option String
  defaultPowerWatts : Option Nat
  notes : Option String
  tags : List String
  active : Bool
  createdAt : DateTime
  updatedAt : DateTime
  deriving DecidableEq

structure EquipmentItem where
  equipmentId : Uuid
  accountId : Option String
  equipmentType : EquipmentType
  displayName : String
  manufacturer : Option String
  model : Option String
  serialNumber : Option String
  capabilities : List String
  notes : Option String
  status : EquipmentStatus
  createdAt : DateTime
  updatedAt : DateTime
  deriving DecidableEq

structure HostedStationProfile where
  accountId : Uuid
  logbookId : Uuid
  profile : StationProfile
  isDefault : Bool
  deriving DecidableEq

structure HostedEquipmentProfile where
  accountId : Uuid
  logbookId : Uuid
  equipment : EquipmentItem
  stationProfileId : Option Uuid
  deriving DecidableEq

structure HostedProviderSetting where
  accountId : Uuid
  logbookId : Uuid
  providerId : String
  enabled : Bool
  credentialId : Option String
  config : Fields
  updatedAt : DateTime
  deriving DecidableEq

inductive HostedUploadStatus where
  | queued | running | succeeded | failed | retryable | skipped
  deriving DecidableEq

inductive HostedQueueState where
  | pending | running | retryScheduled | needsUserAction | succeeded | cancelled | deadLetter
  | uncertain
  deriving DecidableEq

structure HostedUploadJob where
  uploadId : Uuid
  accountId : Uuid
  logbookId : Uuid
  providerId : String
  status : HostedUploadStatus
  queueState : HostedQueueState := .pending
  accountScope : Option String := none
  operationType : String := "upload.adif"
  idempotencyKey : String
  qsoIds : List Uuid
  generatedAdif : String
  retryCount : Nat
  attemptCount : Nat := 0
  failureReason : Option String
  providerError : Option String
  safeFailureCode : Option String := none
  credentialReference : Option String := none
  providerSideIdentifier : Option String := none
  uncertainOutcome : Bool := false
  lastAttemptAt : Option DateTime := none
  nextAttemptAt : Option DateTime := none
  claimToken : Option Uuid := none
  leaseExpiresAt : Option DateTime := none
  createdAt : DateTime
  updatedAt : DateTime
  deriving DecidableEq

inductive MapLayerKind where
  | qsoMarkers | stationMarkers | potaParks | sotaSummits | gridOverlay | dxccOverlay | grayline
  | routes | propagationOverlay | weatherOverlay | satelliteOverlay
  deriving DecidableEq

structure MapLayer where
  layerId : String
  title : String
  kind : MapLayerKind
  enabled : Bool
  order : Int
  sourcePluginId : String
  deriving DecidableEq

structure MapLayerStack where
  layers : List MapLayer
  deriving DecidableEq

structure HostedMapSettings where
  accountId : Uuid
  logbookId : Uuid
  layers : MapLayerStack
  updatedAt : DateTime
  deriving DecidableEq

structure HostedBackupRecord where
  backupId : Uuid
  accountId : Uuid
  logbookId : Uuid
  createdAt : DateTime
  manifest : Value
  payload : Value
  deriving DecidableEq

structure HostedDivergenceReport where
  reportId : Uuid
  accountId : Uuid
  logbookId : Uuid
  createdAt : DateTime
  review : Value
  deriving DecidableEq

end HamLogger
