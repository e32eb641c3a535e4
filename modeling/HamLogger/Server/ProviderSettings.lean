import HamLogger.Core.Adif
import HamLogger.Core.UploadQueue
import HamLogger.Server.BackupHandlers

/-! The provider settings of the hosted server: the requests that change them
and those that resolve the credential a setting refers to. A logbook has one
setting of a provider, which an account owns. -/
namespace HamLogger

open Program

inductive ProviderAdapterMode where
  | fake | live
  deriving DecidableEq

inductive ProviderJobStatus where
  | queued | running | succeeded | failed | needsCredentials
  deriving DecidableEq

structure ProviderPatchRequest where
  logbookId : Uuid
  enabled : Option Bool
  credentialId : Option String
  config : Fields := []

structure ProviderTestRequest where
  logbookId : Uuid

structure ProviderLookupRequest where
  logbookId : Uuid
  callsign : String

structure UploadRunRequest where
  logbookId : Uuid
  providerId : String
  qsoIds : Option (List Uuid)
  forceFail : Option Bool

/-- The contacts of a run, all of the logbook where the request names none. -/
def UploadRunRequest.selected (input : UploadRunRequest)
    (projection : QsoCurrentStateProjection) : List Uuid :=
  input.qsoIds.getD ((projection.list false).map QsoRecord.qsoId)

structure QsoActionRequest where
  logbookId : Uuid
  note : Option String

structure HostedCredentialResolution where
  referencePresent : Bool := false
  resolved : Bool := false
  status : String := "not_present"
  secret : Option String := none
  deriving DecidableEq

/-- What an adapter is given. The contact log and the callsign are there for the
requests that have one. -/
structure ProviderInput where
  providerId : String
  enabled : Bool
  credentialReferencePresent : Bool
  credentialResolved : Bool
  credentialSecret : Option String := none
  mode : ProviderAdapterMode
  callsign : Option String := none
  adifPayload : Option String := none
  qsoCount : Nat := 0
  forceFakeFailure : Bool := false
  fakeResponse : Option String := none
  forceFakeNotFound : Bool := false
  forceFakeAuthFailure : Bool := false

/-- The answer of an adapter. It is recorded in the configuration of the
setting as these entries, and others are taken out. -/
structure ProviderExecution where
  status : ProviderJobStatus
  retryable : Bool
  failureReason : Option String
  redactedError : Option String
  providerCorrelationId : Option String
  recorded : Fields
  cleared : List String

/-- What is outside the settings: the registry of the providers, the credential
store and the adapters. A request of the credential store for a secret, or for
a test of one, may fail. -/
structure ProviderCalls where
  providerMetadata : String → Bool
  retrieveSecret : Uuid → Option String
  testCredential : Uuid → Option Bool
  testTierOneProvider : ProviderInput → Except String ProviderExecution
  executeTierOneLookup : ProviderInput → Except String ProviderExecution
  executeTierOneUpload : ProviderInput → Except String ProviderExecution

def configBool (config : Fields) (key : String) : Bool :=
  match config.get key with
  | some (.bool value) => value
  | _ => false

def configString (config : Fields) (key : String) : Option String :=
  match config.get key with
  | some (.string value) => if (trim value).isEmpty then none else some value
  | _ => none

def providerAdapterMode (setting : Option HostedProviderSetting) : ProviderAdapterMode :=
  if setting.any fun setting => configBool setting.config "live_test" then .live else .fake

namespace HostedProviderSetting

/-- A patch, which puts the setting in the hands of its account. -/
def patched (setting : HostedProviderSetting) (input : ProviderPatchRequest) (accountId : Uuid)
    (now : DateTime) : HostedProviderSetting where
  accountId := accountId
  logbookId := setting.logbookId
  providerId := setting.providerId
  enabled := input.enabled.getD setting.enabled
  credentialId :=
    match input.credentialId with
    | some text => if (trim text).isEmpty then none else some text
    | none => setting.credentialId
  config := input.config.foldl (fun config entry => config.insert entry.1 entry.2) setting.config
  updatedAt := now

/-- The outcome of a call, as the setting keeps it. -/
def recording (setting : HostedProviderSetting) (execution : ProviderExecution)
    (now : DateTime) : HostedProviderSetting :=
  let config := setting.config.filter fun entry => entry.1 ∉ execution.cleared
  { setting with
    config := execution.recorded.foldl (fun config entry => config.insert entry.1 entry.2) config
    updatedAt := now }

end HostedProviderSetting

def providerSafeFailureCode (providerId reason redactedError : String) : String :=
  let reason := toAsciiLowercase reason
  let error := toAsciiLowercase redactedError
  if containsText reason "credential" then "credential_required"
  else if containsText reason "auth" || containsText error "password" then
    "authentication_failed"
  else if containsText error "rate" || containsText error "429" then "rate_limited"
  else if containsText error "timeout" || containsText error "timed out" then "timeout"
  else if containsText reason "temporary" || containsText error "503" ||
      containsText error "502" then "provider_unavailable"
  else if providerId = "lotw" && containsText reason "tqsl" then "provider_not_configured"
  else "provider_rejected"

namespace HostedUploadJob

/-- A job under a new claim. -/
def started (job : HostedUploadJob) (claim : Uuid) (now : DateTime) : HostedUploadJob :=
  { job with
    status := .running, queueState := .running, claimToken := some claim,
    leaseExpiresAt := now.addSeconds 300, attemptCount := job.attemptCount + 1,
    lastAttemptAt := some now, updatedAt := now }

def statusAfter (execution : ProviderExecution) : HostedUploadStatus :=
  match execution.status with
  | .queued => .queued
  | .running => .running
  | .succeeded => .succeeded
  | .failed => if execution.retryable then .retryable else .failed
  | .needsCredentials => .retryable

def queueStateAfter (execution : ProviderExecution) : HostedQueueState :=
  match statusAfter execution with
  | .queued => .pending
  | .running => .running
  | .succeeded => .succeeded
  | .retryable =>
      if execution.status = .needsCredentials then .needsUserAction
      else if execution.retryable then .retryScheduled
      else .deadLetter
  | .failed | .skipped => .deadLetter

/-- A job after its run. -/
def finished (job : HostedUploadJob) (execution : ProviderExecution) (now : DateTime) :
    HostedUploadJob :=
  { job with
    status := statusAfter execution
    queueState := queueStateAfter execution
    failureReason := execution.failureReason
    providerError := execution.redactedError
    safeFailureCode := execution.failureReason.map fun reason =>
      providerSafeFailureCode job.providerId reason (execution.redactedError.getD "")
    providerSideIdentifier := execution.providerCorrelationId
    uncertainOutcome := execution.retryable &&
      execution.redactedError.any fun error => containsText (toAsciiLowercase error) "timed out"
    nextAttemptAt :=
      if queueStateAfter execution = .retryScheduled then now.addSeconds 60 else none
    claimToken := none
    leaseExpiresAt := none
    updatedAt := now }

end HostedUploadJob

/-- What requests did with the references to credentials: the one that a patch
put into the setting under a key, and the one that the credential store was
asked for, each with the account of the session. -/
inductive ProviderAccess where
  | stored (accountId : Uuid) (key reference : String)
  | resolved (accountId : Uuid) (key reference : String)
  deriving DecidableEq

/-- The hosted server with what was done with references, the last first. -/
structure ProviderHost [UuidCrate] where
  hosted : HostedState
  journal : List ProviderAccess := []

abbrev ProviderHandler [UuidCrate] (α : Type) := Program ProviderHost (Fault ApiError) α

namespace HostedServer
variable [UuidCrate]

def onHosted {α : Type} (handler : EventHandler α) : ProviderHandler α :=
  ofFunction fun host =>
    let (hosted, outcome) := handler.execute host.hosted
    ({ host with hosted := hosted }, outcome)

/-- A part of a request that uses the metadata only. -/
def onHost {α : Type} (handler : Handler α) : ProviderHandler α := onHosted (onServer handler)

def enter (access : ProviderAccess) : ProviderHandler Unit :=
  modify fun host => { host with journal := access :: host.journal }

def resolveProviderCredential (calls : ProviderCalls) (accountId : Uuid)
    (setting : Option HostedProviderSetting) (resolveLiveSecret : Bool) :
    ProviderHandler HostedCredentialResolution :=
  match setting with
  | none => pure {}
  | some setting =>
      match setting.credentialId with
      | none => pure {}
      | some reference =>
          match UuidCrate.parseStr reference with
          | none => pure { referencePresent := true, status := "invalid_reference" }
          | some credentialId => do
              enter (.resolved accountId setting.key reference)
              let secret := if resolveLiveSecret then calls.retrieveSecret credentialId else none
              let resolved := if resolveLiveSecret then secret.isSome
                else (calls.testCredential credentialId).getD false
              return { referencePresent := true, resolved := resolved, secret := secret,
                       status := if resolved then "resolved" else "unresolved" }

def recordExecution (context : RequestContext) (key : String) (execution : ProviderExecution) :
    Handler Unit :=
  modify fun state =>
    { state with
      providerSettings := state.providerSettings.modify key
        (fun setting => setting.recording execution context.now) fun _ => rfl }

/-- The status of a setting is saved, and nothing else is where there is none. -/
def recordOwned (context : RequestContext) (setting : Option HostedProviderSetting)
    (execution : ProviderExecution) : Handler Unit := do
  if let some setting := setting then
    recordExecution context setting.key execution
    persistMetadata context

variable [Sha2Crate]

def enforceProviderOperationLimit (context : RequestContext) (session : LoginSession) :
    Handler Unit := do
  let state ← get
  enforceRateLimit context
    ("provider:" ++ UuidCrate.display session.accountId ++ ":" ++ context.client)
    state.hostingConfig.limits.providerOpsPerWindow
  savingWith context.firstSaveFails

/-- The first part of a request about a logbook, with the checks after the one
of the role. -/
def openRequest (context : RequestContext) (logbookId : Uuid) (access : LogbookAccess)
    (checks : LoginSession → Handler Unit) : Handler LoginSession := do
  let auth ← requireLogbookRole context logbookId access
  checks auth.session
  return auth.session

def requireProvider (calls : ProviderCalls) (providerId : String) : Handler Unit :=
  if calls.providerMetadata providerId then pure () else reject .notFound

def patchProvider (calls : ProviderCalls) (context : RequestContext) (providerId : String)
    (body : Except String ProviderPatchRequest) : ProviderHandler HostedProviderSetting := do
  let input ← onHost (parseJson body)
  let session ← onHost <| openRequest context input.logbookId .admin fun _ => do
    requireProvider calls providerId
    ofExcept (validateSecretFreeConfig input.config)
  let host ← get
  let key := providerSettingKey input.logbookId providerId
  let found := (host.hosted.server.providerSettings.lookup key).getD
    { accountId := session.accountId, logbookId := input.logbookId, providerId := providerId,
      enabled := false, credentialId := none, config := [], updatedAt := context.now }
  let setting := found.patched input session.accountId context.now
  if let some text := input.credentialId then
    if !(trim text).isEmpty then
      enter (.stored session.accountId key text)
  onHost do
    modify fun state => { state with providerSettings := state.providerSettings.insert setting }
    persistMetadata context
  return setting

def testProvider (calls : ProviderCalls) (context : RequestContext) (providerId : String)
    (body : Except String ProviderTestRequest) :
    ProviderHandler (HostedCredentialResolution × ProviderExecution) := do
  let input ← onHost (parseJson body)
  let session ← onHost <| openRequest context input.logbookId .admin fun session => do
    enforceProviderOperationLimit context session
    requireProvider calls providerId
  let host ← get
  let setting := (host.hosted.server.providerSettings.lookup
    (providerSettingKey input.logbookId providerId)).filter
      fun setting => setting.accountId = session.accountId
  let mode := providerAdapterMode setting
  let credential ← resolveProviderCredential calls session.accountId setting (mode = .live)
  let execution ← onHost <| ofExcept <| (calls.testTierOneProvider
    { providerId := providerId, enabled := setting.any HostedProviderSetting.enabled
      credentialReferencePresent := credential.referencePresent
      credentialResolved := credential.resolved, mode := mode }).mapError .badRequest
  onHost (recordOwned context setting execution)
  return (credential, execution)

def lookupProvider (calls : ProviderCalls) (context : RequestContext) (providerId : String)
    (body : Except String ProviderLookupRequest) :
    ProviderHandler (HostedCredentialResolution × ProviderExecution) := do
  let input ← onHost (parseJson body)
  let callsign := toAsciiUppercase (trim input.callsign)
  let session ← onHost <| openRequest context input.logbookId .read fun session => do
    enforceProviderOperationLimit context session
    if providerId ∉ ["qrz-xml", "hamqth"] then
      reject .notFound
    requireProvider calls providerId
    if callsign.isEmpty then
      reject (.badRequest "callsign is required")
  let host ← get
  let setting := (host.hosted.server.providerSettings.lookup
    (providerSettingKey input.logbookId providerId)).filter
      fun setting => setting.accountId = session.accountId
  let mode := providerAdapterMode setting
  let credential ← resolveProviderCredential calls session.accountId setting (mode = .live)
  let execution ← onHost <| ofExcept <| (calls.executeTierOneLookup
    { providerId := providerId, enabled := setting.any HostedProviderSetting.enabled
      credentialReferencePresent := credential.referencePresent
      credentialResolved := credential.resolved, credentialSecret := credential.secret
      mode := mode, callsign := some callsign
      fakeResponse := setting.bind fun setting => configString setting.config "fake_response"
      forceFakeNotFound := setting.any fun setting => configBool setting.config "fake_not_found"
      forceFakeAuthFailure := setting.any fun setting =>
        configBool setting.config "fake_auth_failure" }).mapError .badRequest
  onHost (recordOwned context setting execution)
  return (credential, execution)

/-- A run of a job takes the setting of the provider for the logbook. The job
as it is while it runs is handed to `keep`. -/
def executeHostedUploadJob (calls : ProviderCalls) (context : RequestContext)
    (accountId claim : Uuid) (job : HostedUploadJob) (forceFail : Bool)
    (keep : HostedUploadJob → Handler Unit) :
    ProviderHandler (HostedUploadJob × ProviderExecution) := do
  let host ← get
  let setting := host.hosted.server.providerSettings.lookup
    (providerSettingKey job.logbookId job.providerId)
  let mode := providerAdapterMode setting
  let credential ← resolveProviderCredential calls accountId setting (mode = .live)
  let job :=
    { job.started claim context.now with
      credentialReference := setting.bind HostedProviderSetting.credentialId }
  onHost (keep job)
  let execution ← onHost <| ofExcept <| (calls.executeTierOneUpload
    { providerId := job.providerId, enabled := setting.any HostedProviderSetting.enabled
      credentialReferencePresent := credential.referencePresent
      credentialResolved := credential.resolved, credentialSecret := credential.secret
      mode := mode, adifPayload := some job.generatedAdif, qsoCount := job.qsoIds.length
      forceFakeFailure := forceFail }).mapError .badRequest
  return (job.finished execution context.now, execution)

/-- The job is put in its place with the status of the provider. -/
def keepUpload (context : RequestContext) (job : HostedUploadJob)
    (execution : ProviderExecution) : Handler Unit := do
  recordExecution context (providerSettingKey job.logbookId job.providerId) execution
  modify fun state => { state with uploadJobs := state.uploadJobs.insert job }
  persistMetadata context

def selectQsosForUpload (projection : QsoCurrentStateProjection) (qsoIds : List Uuid) :
    List QsoRecord :=
  (projection.list false).filter fun qso => qso.qsoId ∈ qsoIds

/-- A job that makes another run of the same contacts unnecessary. -/
def duplicatedBy (accountId : Uuid) (input : UploadRunRequest) (idempotencyKey : String)
    (job : HostedUploadJob) : Bool :=
  decide (job.accountId = accountId) && decide (job.logbookId = input.logbookId) &&
    decide (job.providerId = input.providerId) &&
    decide (job.idempotencyKey = idempotencyKey) &&
    decide (job.status ∈ [HostedUploadStatus.queued, .running, .succeeded])

section Runs
variable [ChronoCrate] [ChronoFormat] [FloatText] [RustFmt]

/-- The contacts are put into a projection of their own. -/
def adifForUploadJob (projection : QsoCurrentStateProjection) (qsoIds : List Uuid) : String :=
  exportAdif
    { records := (selectQsosForUpload projection qsoIds).foldl
        (fun records qso => records.insert qso.qsoId qso) ∅ } false

/-- The answer tells whether a job was there already. -/
def runUpload (calls : ProviderCalls) (context : RequestContext) (uploadId claim : Uuid)
    (body : Except String UploadRunRequest) : ProviderHandler (HostedUploadJob × Bool) := do
  let input ← onHost (parseJson body)
  let session ← onHost <| openRequest context input.logbookId .admin fun session => do
    enforceProviderOperationLimit context session
    requireProvider calls input.providerId
  let host ← get
  let projection ← onHosted (storeOutcome (host.hosted.store.rebuildProjections input.logbookId))
  let qsoIds := input.selected projection
  let idempotencyKey := uploadIdempotencyKey input.providerId input.logbookId qsoIds
  let host ← get
  match host.hosted.server.uploadJobs.values.find?
      (duplicatedBy session.accountId input idempotencyKey) with
  | some existing => return (existing, true)
  | none => do
      let job : HostedUploadJob :=
        { uploadId := uploadId, accountId := session.accountId, logbookId := input.logbookId
          providerId := input.providerId, status := .queued
          accountScope := some (UuidCrate.display session.accountId)
          idempotencyKey := idempotencyKey, qsoIds := qsoIds
          generatedAdif := adifForUploadJob projection qsoIds, retryCount := 0
          failureReason := none, providerError := none, createdAt := context.now
          updatedAt := context.now }
      let (job, execution) ← executeHostedUploadJob calls context session.accountId claim job
        (input.forceFail.getD false) fun _ => pure ()
      onHost (keepUpload context job execution)
      return (job, false)

/-- A job stays as it is while it runs where its adapter fails. -/
def retryUpload (calls : ProviderCalls) (context : RequestContext) (claim : Uuid)
    (uploadId : String) (body : Except String QsoActionRequest) :
    ProviderHandler (HostedUploadJob × Bool) := do
  let uploadId ← onHost (parseUuid uploadId)
  let input ← onHost (parseJson body)
  let session ← onHost <| openRequest context input.logbookId .admin fun session =>
    enforceProviderOperationLimit context session
  let host ← get
  let job ← onHost <| orReject .notFound <|
    (host.hosted.server.uploadJobs.lookup uploadId).filter fun job =>
      job.accountId = session.accountId && job.logbookId = input.logbookId
  if job.status = .succeeded then return (job, true)
  else do
    let job := { job with retryCount := job.retryCount + 1 }
    let (job, execution) ← executeHostedUploadJob calls context session.accountId claim job false
      fun job => modify fun state => { state with uploadJobs := state.uploadJobs.insert job }
    onHost (keepUpload context job execution)
    return (job, false)

end Runs

end HostedServer

/-- A request about providers, or an import of a backup. -/
inductive ProviderRequest where
  | patch (providerId : String) (body : Except String ProviderPatchRequest)
  | test (providerId : String) (body : Except String ProviderTestRequest)
  | lookup (providerId : String) (body : Except String ProviderLookupRequest)
  | runUpload (uploadId claim : Uuid) (body : Except String UploadRunRequest)
  | retryUpload (claim : Uuid) (uploadId : String) (body : Except String QsoActionRequest)
  | importBackup (body : Except String BackupImportInput)

open HostedServer in
/-- What a request leaves, whatever it answers. -/
def ProviderRequest.after [UuidCrate] [Sha2Crate] [ChronoCrate] [ChronoFormat] [FloatText]
    [CanonicalJson] [RustFmt] (calls : ProviderCalls) (context : RequestContext)
    (host : ProviderHost) :
    ProviderRequest → ProviderHost
  | patch providerId body => ((patchProvider calls context providerId body).execute host).1
  | test providerId body => ((testProvider calls context providerId body).execute host).1
  | lookup providerId body => ((lookupProvider calls context providerId body).execute host).1
  | runUpload uploadId claim body =>
      ((HostedServer.runUpload calls context uploadId claim body).execute host).1
  | retryUpload claim uploadId body =>
      ((HostedServer.retryUpload calls context claim uploadId body).execute host).1
  | importBackup body => ((onHosted (backupImport context body)).execute host).1

end HamLogger
