import HamLogger.Server.SyncRouter
import HamLogger.Sync.CloudRuns

/-! Runs of the self-hosted routes. Whatever requests arrive, the sessions are
those of the durable sync service under the same calls, so what the routes hand
out is traced back to a pairing. -/
namespace HamLogger

open Transition (Run Since System since_snoc)

namespace SyncCall

/-- The token that a call comes with. -/
def auth : SyncCall → Option CloudAuth
  | .health | .pairDevice _ => none
  | .listLogbooks auth | .getHead auth _ | .eventMetadata auth _ _ | .reportMetadata auth _ =>
      some auth
  | .previewPull request | .pullEvents request => some request.auth
  | .pushEvents request => some request.auth
  | .status auth => auth
  | .uploadReport request => some request.auth

/-- The logbook that a call names. -/
def logbookId : SyncCall → Option Uuid
  | .getHead _ logbookId | .eventMetadata _ logbookId _ => some logbookId
  | .previewPull request | .pullEvents request => some request.logbookId
  | .pushEvents request => some request.logbookId
  | .health | .pairDevice _ | .listLogbooks _ | .status _ | .uploadReport _
  | .reportMetadata _ _ => none

/-- The session that a call pairs a device for. -/
def pairing : SyncCall → Option PairDeviceRequest
  | .pairDevice request => some request
  | _ => none

end SyncCall

/-! What a call answers and writes. -/

theorem status_cloudError (error : CloudSyncError) (requestId : String) :
    (cloudError error requestId).status ≠ 200 := by
  cases error <;> simp [cloudError, jsonError]

theorem authorizeLogbook_map_eq_ok {α : Type} {authorized : Except CloudSyncError CloudSession}
    {session : CloudSession} {logbookId : Uuid} {convert : CloudSession → α} {value : α}
    (hSession : authorized = .ok session)
    (h : (authorizeLogbook authorized logbookId).map convert = .ok value) :
    logbookId ∈ session.authorizedLogbooks := by
  obtain ⟨inner, hInner, _⟩ := (except_map_eq_ok_iff _ _ _).mp h
  rw [hSession, authorizeLogbook] at hInner
  split_ifs at hInner with hMem
  exact hMem

/-- What is filed of an upload. -/
def filedReport [UuidCrate] (upload : DiagnosticReportUploadRequest) (session : CloudSession)
    (now : DateTime) (random : Uuid) : StoredReportRef where
  metadata :=
    { reportId := "rpt-" ++ UuidCrate.display random, userId := session.userId,
      accountId := session.accountId, appVersion := upload.appVersion,
      coreVersion := upload.coreVersion, platform := upload.platform, createdAt := now,
      reportType := upload.reportType, pluginList := upload.pluginList,
      syncStateSummary := upload.syncStateSummary, shortDescription := upload.shortDescription,
      bundleHash := upload.bundleHash }
  bundleBytes := upload.bundleBytes

section Calls
variable [UuidCrate] [RustFmt] [CanonicalJson] [Sha2Crate] [EventJson]
  {config : CloudServerConfig}

/-- A request whose token stands for no session is answered so, and changes
nothing. -/
theorem perform_of_refused {state : SyncServerState} {call : SyncCall} {auth : CloudAuth}
    {now : DateTime} {error : CloudSyncError} (hAuth : call.auth = some auth)
    (h : state.cloud.tables.session auth now = .error error) (random : Uuid) :
    state.perform config now random call = (state, some (.error error)) := by
  cases call with
  | health => cases hAuth
  | pairDevice request => cases hAuth
  | listLogbooks other =>
      obtain rfl := Option.some.inj hAuth
      simp [SyncServerState.perform, DurableCloudSyncServer.listLogbooks, h, bind, Except.bind,
        Except.map]
  | getHead other logbookId =>
      obtain rfl := Option.some.inj hAuth
      simp [SyncServerState.perform, DurableCloudSyncServer.getHead, h, authorizeLogbook,
        Except.map]
  | eventMetadata other logbookId afterHash =>
      obtain rfl := Option.some.inj hAuth
      simp [SyncServerState.perform, SyncServerState.eventMetadata, h, authorizeLogbook,
        Except.map]
  | previewPull request =>
      obtain rfl := Option.some.inj hAuth
      simp [SyncServerState.perform, SyncServerState.previewPull, h, authorizeLogbook, Except.map]
  | pullEvents request =>
      obtain rfl := Option.some.inj hAuth
      simp [SyncServerState.perform, SyncServerState.pullEvents, h, authorizeLogbook, Except.map]
  | pushEvents request =>
      obtain rfl := Option.some.inj hAuth
      simp [SyncServerState.perform, DurableCloudSyncServer.pushEvents, h, authorizeLogbook,
        Except.map]
  | status other =>
      obtain rfl : other = some auth := hAuth
      simp [SyncServerState.perform, DurableCloudSyncServer.status, h, bind, Except.bind,
        Except.map]
  | uploadReport request =>
      obtain rfl := Option.some.inj hAuth
      simp [SyncServerState.perform, SyncServerState.uploadReport, h]
  | reportMetadata other reportId =>
      obtain rfl := Option.some.inj hAuth
      simp [SyncServerState.perform, SyncServerState.reportMetadata, h, bind, Except.bind,
        Except.map]

/-- A report that is not empty is filed for the session that uploads it. -/
theorem perform_uploadReport {state : SyncServerState} {upload : DiagnosticReportUploadRequest}
    {session : CloudSession} {now : DateTime} {random : Uuid}
    (hSession : state.cloud.tables.session upload.auth now = .ok session)
    (hFull : ¬ (trim upload.bundleHash = "" ∨ upload.bundleBytes = [])) :
    state.perform config now random (.uploadReport upload) =
      ({ state with
         reports := state.reports.insert (filedReport upload session now random).metadata.reportId
           (filedReport upload session now random) },
        some (.ok (.uploaded (filedReport upload session now random).metadata.reportId now
          upload.bundleHash))) := by
  simp only [SyncServerState.perform, SyncServerState.uploadReport, hSession, if_neg hFull,
    filedReport]

/-- A call that names a logbook is answered only where the session has it. -/
theorem logbook_of_perform {state : SyncServerState} {call : SyncCall} {auth : CloudAuth}
    {now : DateTime} {session : CloudSession} {random : Uuid} {payload : SyncPayload}
    {logbookId : Uuid} (hAuth : call.auth = some auth)
    (hSession : state.cloud.tables.session auth now = .ok session)
    (hLogbook : call.logbookId = some logbookId)
    (h : (state.perform config now random call).2 = some (.ok payload)) :
    logbookId ∈ session.authorizedLogbooks := by
  cases call with
  | health => cases hAuth
  | pairDevice request => cases hAuth
  | listLogbooks other => cases hLogbook
  | status other => cases hLogbook
  | uploadReport request => cases hLogbook
  | reportMetadata other reportId => cases hLogbook
  | getHead other named =>
      obtain rfl := Option.some.inj hAuth
      obtain rfl := Option.some.inj hLogbook
      obtain ⟨head, hHead, _⟩ := (except_map_eq_ok_iff _ _ _).mp (Option.some.inj h)
      exact authorizeLogbook_map_eq_ok hSession hHead
  | eventMetadata other named afterHash =>
      obtain rfl := Option.some.inj hAuth
      obtain rfl := Option.some.inj hLogbook
      exact authorizeLogbook_map_eq_ok hSession (Option.some.inj h)
  | previewPull request =>
      obtain rfl := Option.some.inj hAuth
      obtain rfl := Option.some.inj hLogbook
      obtain ⟨preview, hPreview, _⟩ := (except_map_eq_ok_iff _ _ _).mp (Option.some.inj h)
      exact authorizeLogbook_map_eq_ok hSession hPreview
  | pullEvents request =>
      obtain rfl := Option.some.inj hAuth
      obtain rfl := Option.some.inj hLogbook
      obtain ⟨pulled, hPulled, _⟩ := (except_map_eq_ok_iff _ _ _).mp (Option.some.inj h)
      exact authorizeLogbook_map_eq_ok hSession hPulled
  | pushEvents request =>
      obtain rfl := Option.some.inj hAuth
      obtain rfl := Option.some.inj hLogbook
      obtain ⟨pushed, hPushed, _⟩ := (except_map_eq_ok_iff _ _ _).mp (Option.some.inj h)
      split at hPushed
      · cases hPushed
      · rename_i found hFound
        have hMap : (authorizeLogbook (state.cloud.tables.session request.auth now)
            request.logbookId).map id = .ok found := by rw [hFound]; rfl
        exact authorizeLogbook_map_eq_ok hSession hMap

/-- Without a token nothing but the sessions is written. -/
theorem perform_of_no_auth {state : SyncServerState} {call : SyncCall} (now : DateTime)
    (random : Uuid) (h : call.auth = none) :
    (state.perform config now random call).1.cloud.store = state.cloud.store ∧
      (state.perform config now random call).1.reports = state.reports := by
  cases call with
  | health => exact ⟨rfl, rfl⟩
  | pairDevice request => exact ⟨rfl, rfl⟩
  | status other => exact ⟨rfl, rfl⟩
  | _ => cases h

end Calls

/-! What the tables record of the pairings and revocations of a run. -/

/-- Every session in the tables was issued by a step. -/
def IssuedSessions [UuidCrate] (config : CloudServerConfig) (steps : List CloudStep)
    (tables : CloudTables) : Prop :=
  ∀ key row, tables.sessions.lookup key = some row →
    ∃ step ∈ steps, step.Issues config row.payload

theorem IssuedSessions.later [UuidCrate] {config : CloudServerConfig} {steps : List CloudStep}
    {tables : CloudTables}
    (h : IssuedSessions config steps tables) (step : CloudStep) :
    IssuedSessions config (steps ++ [step]) tables := by
  intro key row hRow
  obtain ⟨issue, hMem, hIssue⟩ := h key row hRow
  exact ⟨issue, List.mem_append_left _ hMem, hIssue⟩

/-- The check of a token knows one error only. -/
theorem error_of_session [Sha2Crate] {tables : CloudTables} {auth : CloudAuth} {now : DateTime}
    {error : CloudSyncError} (h : tables.session auth now = .error error) :
    error = .unauthenticated := by
  unfold CloudTables.session at h
  split at h
  · exact (Except.error.inj h).symm
  · split at h
    · exact (Except.error.inj h).symm
    · split at h
      · exact (Except.error.inj h).symm
      · dsimp only at h
        split_ifs at h
        exact (Except.error.inj h).symm

section Records
variable [UuidCrate] [Sha2Crate] {config : CloudServerConfig}

/-- What the pairings and revocations of a step do to the tables. -/
def cloudEffect (config : CloudServerConfig) (tables : CloudTables) :
    Option CloudStep → CloudTables
  | none => tables
  | some step => step.effect config tables (fun session => (tables.saveSession session none).1)
      (fun deviceId => (tables.revokeDevice deviceId none).1)

/-- What is known of the tables after a run. -/
structure RoutesRecorded (config : CloudServerConfig) (steps : List CloudStep)
    (tables : CloudTables) : Prop where
  records : RecordsSessions config steps tables
  issued : IssuedSessions config steps tables

theorem RoutesRecorded.step {steps : List CloudStep} {tables : CloudTables}
    (h : RoutesRecorded config steps tables) {step : CloudStep} (hFault : step.fault = none)
    (hFresh : FreshTokens config (steps ++ [step])) :
    RoutesRecorded config (steps ++ [step]) (cloudEffect config tables (some step)) := by
  have hEffect : cloudEffect config tables (some step) = step.effect config tables
      (fun session => (tables.saveSession session none).1)
      (fun deviceId => (tables.revokeDevice deviceId none).1) := rfl
  rw [hEffect]
  rcases CloudStep.effect_cases config step tables
    (fun session => (tables.saveSession session none).1)
    (fun deviceId => (tables.revokeDevice deviceId none).1) with
    ⟨hMade, hRevokes, hSame⟩ | ⟨session, hMade, hSaved⟩ | ⟨deviceId, hCall, hRevoked⟩
  · rw [hSame]
    exact ⟨h.records.unchanged hMade hRevokes, h.issued.later step⟩
  · rw [hSaved]
    have hRecords := h.records.made hFresh hMade
    rw [hFault] at hRecords
    refine ⟨hRecords, fun key row hRow => ?_⟩
    rw [CloudTables.lookup_sessions_saveSession] at hRow
    split at hRow
    · obtain rfl := Option.some.inj hRow
      exact ⟨step, by simp, hMade, hFault⟩
    · exact h.issued.later step key row hRow
  · rw [hRevoked]
    have hRecords := h.records.revoke hCall
    rw [hFault] at hRecords
    refine ⟨hRecords, fun key row hRow => h.issued.later step key row ?_⟩
    rw [CloudTables.tables_revokeDevice] at hRow
    exact hRow

/-- The session that a token stands for after some steps: pairing made it, it
has not expired, and its device was not revoked since it was last paired. -/
structure TokenHonoured (config : CloudServerConfig) (steps : List CloudStep) (auth : CloudAuth)
    (now : DateTime) (session : CloudSession) : Prop where
  issued : ∃ step ∈ steps, step.Issues config session
  token : CloudTables.syncTokenHash session.syncToken = CloudTables.syncTokenHash auth.syncToken
  lasting : cloudSessionIsExpired session now = false
  trusted : Since (CloudStep.PairsDevice config session.deviceId)
    (CloudStep.RevokesDevice session.deviceId) steps

/-- The tables give the session of a token exactly where there is one. -/
theorem RoutesRecorded.session_eq_ok_iff {steps : List CloudStep} {tables : CloudTables}
    (h : RoutesRecorded config steps tables) (auth : CloudAuth) (now : DateTime)
    (session : CloudSession) :
    tables.session auth now = .ok session ↔ TokenHonoured config steps auth now session := by
  have hKeyed := KeyMap.find?_values
    (fun row : SyncSessionRow => CloudTables.syncTokenHash row.payload.syncToken) h.records.keyed
    (CloudTables.syncTokenHash auth.syncToken)
  constructor
  · intro hSession
    cases hRow : tables.sessions.lookup (CloudTables.syncTokenHash auth.syncToken) with
    | none =>
        rw [CloudTables.session, hKeyed, hRow] at hSession
        cases hSession
    | some row =>
        obtain ⟨issue, hMem, hIssue⟩ := h.issued _ row hRow
        obtain ⟨device, hDevice⟩ := h.records.paired issue hMem row.payload.deviceId
          ⟨row.payload, hIssue.made, rfl, by rw [hIssue.saved]; rfl⟩
        have hEq : tables.session auth now = _ := h.records.session_eq now hRow hDevice
        rw [hSession] at hEq
        split_ifs at hEq with hRefused
        obtain ⟨hLasting, hTrusted⟩ := not_or.mp hRefused
        obtain rfl := Except.ok.inj hEq
        exact ⟨⟨issue, hMem, hIssue⟩, h.records.keyed _ row hRow, by simpa using hLasting,
          (h.records.revoked _ device hDevice).mp (by simpa using hTrusted)⟩
  · rintro ⟨⟨issue, hMem, hIssue⟩, hToken, hLasting, hTrusted⟩
    obtain ⟨row, hRow, rfl⟩ := h.records.stored issue hMem session hIssue.made
      (by rw [hIssue.saved]; rfl)
    obtain ⟨device, hDevice⟩ := h.records.paired issue hMem row.payload.deviceId
      ⟨row.payload, hIssue.made, rfl, by rw [hIssue.saved]; rfl⟩
    have hRevoked := (h.records.revoked _ device hDevice).mpr hTrusted
    rw [hToken] at hRow
    have hEq : tables.session auth now = _ := h.records.session_eq now hRow hDevice
    rw [hEq, if_neg (by simp [hLasting, hRevoked])]

end Records

/-- A request with its answer, or an administrator who revokes a device. -/
inductive SyncRouterLabel where
  | serve (request : ApiRequest) (now : DateTime) (requestRandom random : Uuid)
      (reply : Option SyncReply)
  | revokeDevice (deviceId : Uuid)

theorem tables_pushEvents [UuidCrate] [RustFmt] [CanonicalJson] [Sha2Crate] [EventJson]
    (state : DurableCloudState) (auth : CloudAuth) (logbookId : Uuid)
    (events : List CoreEventEnvelope) (now : DateTime) :
    (DurableCloudSyncServer.pushEvents state auth logbookId events now).1.tables =
      state.tables := by
  unfold DurableCloudSyncServer.pushEvents
  split
  · rfl
  · split <;> rfl

theorem cloud_uploadReport [UuidCrate] [Sha2Crate] (state : SyncServerState)
    (request : DiagnosticReportUploadRequest) (now : DateTime) (random : Uuid) :
    (state.uploadReport request now random).1.cloud = state.cloud := by
  unfold SyncServerState.uploadReport
  split
  · rfl
  · split <;> rfl

/-- Only pairing writes the tables of the sessions. -/
theorem tables_perform [UuidCrate] [RustFmt] [CanonicalJson] [Sha2Crate] [EventJson]
    {config : CloudServerConfig} (state : SyncServerState) (now : DateTime) (random : Uuid)
    (call : SyncCall) :
    (state.perform config now random call).1.cloud.tables =
      match call.pairing with
      | none => state.cloud.tables
      | some request =>
          (DurableCloudSyncServer.pairDevice config state.cloud.tables request now random
            none).1 := by
  cases call with
  | pairDevice request => rfl
  | pushEvents request => exact tables_pushEvents _ _ _ _ _
  | uploadReport request =>
      exact congrArg DurableCloudState.tables (cloud_uploadReport state request now random)
  | _ => rfl

section Steps
variable [UuidCrate] [SyncJson]

/-- The pairings and revocations of a run, as steps of the sync service; a
reply is not read of them. -/
def SyncRouterLabel.cloudStep : SyncRouterLabel → Option CloudStep
  | .serve request now _ random _ =>
      ((syncCall request).toOption.bind SyncCall.pairing).map fun pairing =>
        { call := .pairDevice pairing now random, reply := .revoked (.ok ()) }
  | .revokeDevice deviceId =>
      some { call := .revokeDevice deviceId, reply := .revoked (.ok ()) }

theorem SyncRouterLabel.fault_cloudStep {label : SyncRouterLabel} {step : CloudStep}
    (h : label.cloudStep = some step) : step.fault = none := by
  cases label with
  | revokeDevice deviceId =>
      obtain rfl := Option.some.inj h
      rfl
  | serve request now requestRandom random reply =>
      obtain ⟨pairing, _, rfl⟩ := Option.map_eq_some_iff.mp h
      rfl

variable [RustFmt] [CanonicalJson] [Sha2Crate] [EventJson]

/-- Requests and revocations one after the other. -/
def syncRouterSystem (config : CloudServerConfig) : System SyncServerState SyncRouterLabel where
  step state label later :=
    match label with
    | .serve request now requestRandom random reply =>
        (later, reply) = state.route config now requestRandom random request
    | .revokeDevice deviceId =>
        later = { state with cloud := { state.cloud with
          tables := (state.cloud.tables.revokeDevice deviceId none).1 } }

variable {config : CloudServerConfig}

theorem tables_step {state later : SyncServerState} {label : SyncRouterLabel}
    (h : (syncRouterSystem config).step state label later) :
    later.cloud.tables = cloudEffect config state.cloud.tables label.cloudStep := by
  cases label with
  | revokeDevice deviceId =>
      rw [show later = _ from h]
      rfl
  | serve request now requestRandom random reply =>
      have hLater := congrArg (fun pair => pair.1.cloud.tables) h
      dsimp only [SyncServerState.route] at hLater
      simp only [SyncRouterLabel.cloudStep]
      cases hCall : syncCall request with
      | error refusal =>
          rw [hCall] at hLater
          exact hLater
      | ok call =>
          rw [hCall] at hLater
          have hTables := hLater.trans (tables_perform state now random call)
          rw [hTables]
          cases hPairing : call.pairing with
          | none =>
              simp only [Except.toOption, Option.bind_some, hPairing, Option.map_none]
              rfl
          | some pairing =>
              let result := DurableCloudSyncServer.perform config state.cloud.tables none
                (.pairDevice pairing now random)
              have hStep : (durableCloudSystem config).step state.cloud.tables
                  { call := .pairDevice pairing now random, reply := result.2 } result.1 := rfl
              have hEffect := durable_effect hStep
              simp only [Except.toOption, Option.bind_some, hPairing, Option.map_some]
              exact hEffect

/-! Runs. -/

theorem routesRecorded_of_run {labels : List SyncRouterLabel} {state : SyncServerState}
    (run : Run (syncRouterSystem config) {} labels state)
    (hFresh : FreshTokens config (labels.filterMap SyncRouterLabel.cloudStep)) :
    RoutesRecorded config (labels.filterMap SyncRouterLabel.cloudStep) state.cloud.tables := by
  refine run.history (P := fun seen state =>
    FreshTokens config (seen.filterMap SyncRouterLabel.cloudStep) →
      RoutesRecorded config (seen.filterMap SyncRouterLabel.cloudStep) state.cloud.tables)
    (fun _ => ⟨recordsSessions_empty, fun _ _ h => by cases h⟩) ?_ hFresh
  intro seen before label after hBefore hStep hSeen
  rw [tables_step hStep]
  rw [List.filterMap_append] at hSeen ⊢
  cases hLabel : label.cloudStep with
  | none =>
      simp only [List.filterMap_cons, hLabel, List.filterMap_nil, List.append_nil] at hSeen ⊢
      exact hBefore hSeen
  | some step =>
      simp only [List.filterMap_cons, hLabel, List.filterMap_nil] at hSeen ⊢
      exact (hBefore hSeen.init).step (SyncRouterLabel.fault_cloudStep hLabel) hSeen

/-! The answers to requests. -/

/-- Only calls that succeed are answered with this status. -/
theorem perform_of_status {state : SyncServerState} {request : ApiRequest} {call : SyncCall}
    {now : DateTime} {requestRandom random : Uuid} {reply : SyncReply}
    (hCall : syncCall request = .ok call)
    (hReply : (state.route config now requestRandom random request).2 = some reply)
    (hStatus : reply.status = 200) :
    ∃ payload, (state.perform config now random call).2 = some (.ok payload) := by
  rw [SyncServerState.route, hCall] at hReply
  obtain ⟨result, hResult, rfl⟩ := Option.map_eq_some_iff.mp hReply
  cases result with
  | ok payload => exact ⟨payload, hResult⟩
  | error error => exact absurd hStatus (status_cloudError error _)

end Steps

section
open Crates

local instance routedEventJson : EventJson := eventJson []

/-- The body of the request to pair the laptop. -/
def pairingBody : List UInt8 :=
  toBytes ("\x7b\"pairing_code\":\"code\",\"account_id\":\"account\",\"user_id\":\"user\"," ++
    "\"device_id\":\"00000000-0000-0000-0000-000000000001\",\"device_name\":\"laptop\"," ++
    "\"requested_logbooks\":[\"00000000-0000-0000-0000-000000000002\"]," ++
    "\"role_hints\":[]\x7d").toList

/-- A report of the laptop. -/
def laptopReport : DiagnosticReportUploadRequest where
  auth := ⟨(sampleSession 1).syncToken⟩
  reportType := .basic
  appVersion := "0.6"
  coreVersion := "0.6"
  platform := "linux"
  pluginList := []
  syncStateSummary := none
  shortDescription := "no sound"
  bundleHash := "hash"
  bundleBytes := [80, 75]

/-- The body of the request to upload it. -/
def reportBody : List UInt8 :=
  toBytes ("\x7b\"auth\":\x7b\"sync_token\":" ++
    "\"sync-account-00000000-0000-0000-0000-000000000001\"\x7d," ++
    "\"report_type\":\"basic\",\"app_version\":\"0.6\",\"core_version\":\"0.6\"," ++
    "\"platform\":\"linux\",\"plugin_list\":[],\"sync_state_summary\":null," ++
    "\"short_description\":\"no sound\",\"bundle_hash\":\"hash\"," ++
    "\"bundle_bytes\":[80,75]\x7d").toList

/-- A reader that knows these bodies. -/
local instance pairingJson : SyncJson where
  parsePair body := if body = pairingBody then some samplePairing else none
  parsePull _ := none
  parsePush _ := none
  parseReport body := if body = reportBody then some laptopReport else none
  write _ := []

def pairingRequest : ApiRequest where
  method := "POST"
  path := "/api/v1/self-hosted/auth/pair"
  query := ∅
  headers := ∅
  body := pairingBody

def uploadRequest : ApiRequest where
  method := "POST"
  path := "/api/v1/self-hosted/reports"
  query := ∅
  headers := ∅
  body := reportBody

theorem syncCall_pairingRequest : syncCall pairingRequest = .ok (.pairDevice samplePairing) := by
  have hPath : relativePath "/api/v1/self-hosted/auth/pair" = "/auth/pair" := by decide
  have hBody : SyncJson.parsePair pairingBody = some samplePairing := if_pos rfl
  simp [syncCall, pairingRequest, hPath, withBody, hBody]

theorem syncCall_uploadRequest : syncCall uploadRequest = .ok (.uploadReport laptopReport) := by
  have hPath : relativePath "/api/v1/self-hosted/reports" = "/reports" := by decide
  have hLogbooks : startsWithText "/reports" "/logbooks/" = false := by decide
  have hBody : SyncJson.parseReport reportBody = some laptopReport := if_pos rfl
  simp [syncCall, uploadRequest, hPath, hLogbooks, withBody, hBody]

def routedPairing : CloudStep where
  call := .pairDevice samplePairing epoch 1
  reply := .revoked (.ok ())

theorem newSession_routedPairing :
    routedPairing.newSession sampleConfig = some (sampleSession 1) :=
  newSession_pairingStep 1

/-- The server once the laptop is paired. -/
def pairedState : SyncServerState :=
  (SyncServerState.route sampleConfig {} epoch 9 1 pairingRequest).1

def pairingLabel : SyncRouterLabel :=
  .serve pairingRequest epoch 9 1
    (SyncServerState.route sampleConfig {} epoch 9 1 pairingRequest).2

theorem cloudStep_pairingLabel : pairingLabel.cloudStep = some routedPairing := by
  simp [pairingLabel, SyncRouterLabel.cloudStep, syncCall_pairingRequest, Except.toOption,
    SyncCall.pairing, routedPairing]

theorem pairedState_run : Run (syncRouterSystem sampleConfig) {} [pairingLabel] pairedState :=
  Run.single (show (_, _) = _ from Prod.mk.eta)

theorem freshTokens_routedPairing : FreshTokens sampleConfig [routedPairing] := by
  simp [FreshTokens, newSession_routedPairing]

/-- The token that the laptop got stands for its session. -/
theorem session_pairedState :
    pairedState.cloud.tables.session laptopReport.auth epoch = .ok (sampleSession 1) := by
  have hSteps : [pairingLabel].filterMap SyncRouterLabel.cloudStep = [routedPairing] := by
    simp [cloudStep_pairingLabel]
  have hRecorded := routesRecorded_of_run pairedState_run (by
    rw [hSteps]
    exact freshTokens_routedPairing)
  rw [hRecorded.session_eq_ok_iff, hSteps]
  refine ⟨⟨routedPairing, by simp, newSession_routedPairing, rfl⟩, rfl, rfl,
    [], routedPairing, [], rfl, ⟨_, newSession_routedPairing, rfl, rfl⟩,
    fun _ hMem => absurd hMem List.not_mem_nil⟩

end

end HamLogger
