import HamLogger.Server.SyncRouterRuns

/-! Diagnostic reports over runs of the self-hosted routes: a report is read only
by the account that uploaded it, and as it was uploaded. -/
namespace HamLogger

open Transition (Run)

section Uploads
variable [UuidCrate] [Sha2Crate] [SyncJson] {config : CloudServerConfig}

/-- A report was filed for a request of the run, whose token was honoured then. -/
def UploadedIn (config : CloudServerConfig) (labels : List SyncRouterLabel)
    (report : StoredReportRef) : Prop :=
  ∃ before request now requestRandom random reply after upload session,
    labels = before ++ .serve request now requestRandom random reply :: after ∧
    syncCall request = .ok (.uploadReport upload) ∧
    TokenHonoured config (before.filterMap SyncRouterLabel.cloudStep) upload.auth now session ∧
    report = filedReport upload session now random

theorem UploadedIn.later {labels : List SyncRouterLabel} {report : StoredReportRef}
    (h : UploadedIn config labels report) (label : SyncRouterLabel) :
    UploadedIn config (labels ++ [label]) report := by
  obtain ⟨before, request, now, requestRandom, random, reply, after, upload, session, rfl, hRest⟩ :=
    h
  exact ⟨before, request, now, requestRandom, random, reply, after ++ [label], upload, session,
    by simp, hRest⟩

/-- Every report is filed under its id, and was uploaded in the run. -/
def Filed (config : CloudServerConfig) (labels : List SyncRouterLabel)
    (state : SyncServerState) : Prop :=
  ∀ key report, state.reports.lookup key = some report →
    report.metadata.reportId = key ∧ UploadedIn config labels report

theorem freshTokens_before {labels : List SyncRouterLabel} {label : SyncRouterLabel}
    (h : FreshTokens config ((labels ++ [label]).filterMap SyncRouterLabel.cloudStep)) :
    FreshTokens config (labels.filterMap SyncRouterLabel.cloudStep) := by
  rw [List.filterMap_append] at h
  cases hLabel : label.cloudStep with
  | none => simpa [hLabel] using h
  | some step =>
      simp only [List.filterMap_cons, hLabel, List.filterMap_nil] at h
      exact h.init

end Uploads

section Reports
variable [UuidCrate] [RustFmt] [CanonicalJson] [Sha2Crate] [EventJson] {config : CloudServerConfig}

/-- What a call does to the reports. -/
theorem reports_perform (config : CloudServerConfig) (state : SyncServerState) (now : DateTime)
    (random : Uuid) (call : SyncCall) :
    (state.perform config now random call).1.reports = state.reports ∨
      ∃ upload session, call = .uploadReport upload ∧
        state.cloud.tables.session upload.auth now = .ok session ∧
        (state.perform config now random call).1.reports =
          state.reports.insert (filedReport upload session now random).metadata.reportId
            (filedReport upload session now random) := by
  cases call with
  | uploadReport upload =>
      cases hSession : state.cloud.tables.session upload.auth now with
      | error error => exact .inl (by simp [SyncServerState.perform, SyncServerState.uploadReport,
          hSession])
      | ok session =>
          by_cases hEmpty : trim upload.bundleHash = "" ∨ upload.bundleBytes = []
          · exact .inl (by simp [SyncServerState.perform, SyncServerState.uploadReport, hSession,
              hEmpty])
          · refine .inr ⟨upload, session, rfl, hSession, ?_⟩
            rw [perform_uploadReport hSession hEmpty]
  | _ => exact .inl rfl

variable [SyncJson]

theorem filed_step {labels : List SyncRouterLabel} {state later : SyncServerState}
    {label : SyncRouterLabel}
    (hRecorded : RoutesRecorded config (labels.filterMap SyncRouterLabel.cloudStep)
      state.cloud.tables) (h : Filed config labels state)
    (hStep : (syncRouterSystem config).step state label later) :
    Filed config (labels ++ [label]) later := by
  have hKept : ∀ key report, state.reports.lookup key = some report →
      report.metadata.reportId = key ∧ UploadedIn config (labels ++ [label]) report :=
    fun key report hFound => ⟨(h key report hFound).1, (h key report hFound).2.later label⟩
  cases label with
  | revokeDevice deviceId =>
      rw [show later = _ from hStep]
      exact hKept
  | serve request now requestRandom random reply =>
      have hLater := congrArg (fun pair => pair.1.reports) hStep
      dsimp only [SyncServerState.route] at hLater
      intro key report hFound
      rw [hLater] at hFound
      cases hCall : syncCall request with
      | error refusal =>
          rw [hCall] at hFound
          exact hKept key report hFound
      | ok call =>
          rw [hCall] at hFound
          dsimp only at hFound
          rcases reports_perform config state now random call with
            hSame | ⟨upload, session, rfl, hSession, hFiled⟩
          · rw [hSame] at hFound
            exact hKept key report hFound
          · rw [hFiled] at hFound
            by_cases hKey : key = (filedReport upload session now random).metadata.reportId
            · subst hKey
              rw [AList.lookup_insert] at hFound
              obtain rfl := Option.some.inj hFound
              exact ⟨rfl, labels, request, now, requestRandom, random, reply, [], upload, session,
                rfl, hCall, (hRecorded.session_eq_ok_iff _ _ _).mp hSession, rfl⟩
            · rw [AList.lookup_insert_ne hKey] at hFound
              exact hKept key report hFound

theorem filed_of_run {labels : List SyncRouterLabel} {state : SyncServerState}
    (run : Run (syncRouterSystem config) {} labels state)
    (hFresh : FreshTokens config (labels.filterMap SyncRouterLabel.cloudStep)) :
    Filed config labels state := by
  refine (run.history (P := fun seen state => Run (syncRouterSystem config) {} seen state ∧
    (FreshTokens config (seen.filterMap SyncRouterLabel.cloudStep) → Filed config seen state))
    ⟨Run.nil _, fun _ _ _ hFound => by cases hFound⟩ ?_).2 hFresh
  intro seen before label after hBefore hStep
  refine ⟨hBefore.1.snoc hStep, fun hSeen => ?_⟩
  have hPrior := freshTokens_before hSeen
  exact filed_step (routesRecorded_of_run hBefore.1 hPrior) (hBefore.2 hPrior) hStep

theorem reply_of_route {state : SyncServerState} {request : ApiRequest} {call : SyncCall}
    {now : DateTime} {requestRandom random : Uuid} {reply : SyncReply}
    (hCall : syncCall request = .ok call)
    (hReply : (state.route config now requestRandom random request).2 = some reply) :
    ∃ result, (state.perform config now random call).2 = some result ∧
      reply = match result with
        | .ok payload => { status := 200, payload := payload }
        | .error error => cloudError error (syncRequestId request requestRandom) := by
  rw [SyncServerState.route, hCall] at hReply
  obtain ⟨result, hResult, rfl⟩ := Option.map_eq_some_iff.mp hReply
  exact ⟨result, hResult, rfl⟩

/-- Over every run of requests: a report that the routes return belongs to the
account of the session that asks. It is the one with that id, and what an upload
under that account announced, at a time when its token was honoured. -/
theorem reports_stay_with_account {labels : List SyncRouterLabel} {state : SyncServerState}
    (run : Run (syncRouterSystem config) {} labels state)
    (hFresh : FreshTokens config (labels.filterMap SyncRouterLabel.cloudStep))
    {request : ApiRequest} {auth : CloudAuth} {reportId : String}
    (hCall : syncCall request = .ok (.reportMetadata auth reportId)) {now : DateTime}
    {requestRandom random : Uuid} {reply : SyncReply}
    (hReply : (state.route config now requestRandom random request).2 = some reply)
    (hStatus : reply.status = 200) :
    ∃ session report,
      TokenHonoured config (labels.filterMap SyncRouterLabel.cloudStep) auth now session ∧
      reply.payload = .report report.metadata ∧ report.metadata.reportId = reportId ∧
      report.metadata.accountId = session.accountId ∧ UploadedIn config labels report := by
  obtain ⟨result, hResult, rfl⟩ := reply_of_route hCall hReply
  have hMetadata : (state.reportMetadata auth reportId now).map SyncPayload.report = result :=
    Option.some.inj hResult
  cases result with
  | error error => exact absurd hStatus (status_cloudError error _)
  | ok payload =>
      obtain ⟨metadata, hFound, rfl⟩ := (except_map_eq_ok_iff _ _ _).mp hMetadata
      obtain ⟨session, hSession, hRest⟩ := (except_bind_eq_ok_iff _ _ _).mp hFound
      cases hFind : state.reports.values.find? fun report =>
          report.metadata.reportId = reportId with
      | none =>
          rw [hFind] at hRest
          cases hRest
      | some report =>
          rw [hFind] at hRest
          dsimp only at hRest
          split_ifs at hRest with hAccount
          obtain rfl := Except.ok.inj hRest
          obtain ⟨key, hLookup⟩ := KeyMap.mem_values.mp (List.mem_of_find?_eq_some hFind)
          exact ⟨session, report, ((routesRecorded_of_run run hFresh).session_eq_ok_iff _ _ _).mp
            hSession, rfl, by simpa using List.find?_some hFind, not_not.mp hAccount,
            (filed_of_run run hFresh key report hLookup).2⟩

end Reports

section
open Crates

local instance filedEventJson : EventJson := routedEventJson
local instance filedJson : SyncJson := pairingJson

/-- The server once the report of the laptop is uploaded. -/
def filedState : SyncServerState :=
  (pairedState.route sampleConfig epoch 9 2 uploadRequest).1

def laptopReportId : String := "rpt-00000000-0000-0000-0000-000000000002"

def readingRequest : ApiRequest where
  method := "GET"
  path := "/api/v1/self-hosted/reports/rpt-00000000-0000-0000-0000-000000000002"
  query := AList.singleton "token" laptopReport.auth.syncToken
  headers := ∅
  body := []

theorem trimStartMatches_append {pattern text : List Char} (hPattern : pattern ≠ [])
    (hText : ¬ pattern.isPrefixOf text = true) :
    trimStartMatches pattern (pattern ++ text) = text := by
  rw [trimStartMatches, if_pos ⟨hPattern, by simp⟩, List.drop_left, trimStartMatches,
    if_neg fun h => hText h.2]

theorem syncCall_readingRequest :
    syncCall readingRequest = .ok (.reportMetadata laptopReport.auth laptopReportId) := by
  have hPath : relativePath
      "/api/v1/self-hosted/reports/rpt-00000000-0000-0000-0000-000000000002" =
        "/reports/rpt-00000000-0000-0000-0000-000000000002" := by decide
  have hLogbooks : startsWithText "/reports/rpt-00000000-0000-0000-0000-000000000002"
      "/logbooks/" = false := by decide
  have hReports : startsWithText "/reports/rpt-00000000-0000-0000-0000-000000000002"
      "/reports/" = true := by decide
  have hText : "/reports/rpt-00000000-0000-0000-0000-000000000002".toList =
      "/reports/".toList ++ laptopReportId.toList := by decide
  have hId : String.ofList (trimStartMatches "/reports/".toList
      "/reports/rpt-00000000-0000-0000-0000-000000000002".toList) = laptopReportId := by
    rw [hText, trimStartMatches_append (by decide) (by decide), String.ofList_toList]
  have hLookup : (AList.singleton "token" laptopReport.auth.syncToken :
      KeyMap String String).lookup "token" = some laptopReport.auth.syncToken :=
    List.dlookup_cons_eq _ _ _
  have hAuth : authFromToken (some laptopReport.auth.syncToken) = some laptopReport.auth := by
    rw [authFromToken, Option.filter_some, if_pos (by decide)]
    rfl
  simp [syncCall, readingRequest, hPath, hLogbooks, hReports, withToken, hLookup, hAuth]
  exact hId

theorem filedState_eq :
    filedState = { pairedState with
      reports := pairedState.reports.insert laptopReportId
        (filedReport laptopReport (sampleSession 1) epoch 2) } := by
  have hId : (filedReport laptopReport (sampleSession 1) epoch 2).metadata.reportId =
      laptopReportId := by decide
  have hFull : ¬ (trim laptopReport.bundleHash = "" ∨ laptopReport.bundleBytes = []) := by decide
  rw [filedState, SyncServerState.route, syncCall_uploadRequest]
  dsimp only
  rw [perform_uploadReport session_pairedState hFull, hId]

theorem reports_pairedState : pairedState.reports = ∅ := by
  rw [pairedState, SyncServerState.route, syncCall_pairingRequest]
  rfl

def uploadLabel : SyncRouterLabel :=
  .serve uploadRequest epoch 9 2 (pairedState.route sampleConfig epoch 9 2 uploadRequest).2

theorem cloudStep_uploadLabel : uploadLabel.cloudStep = none := by
  simp [uploadLabel, SyncRouterLabel.cloudStep, syncCall_uploadRequest, Except.toOption,
    SyncCall.pairing]

/-- The laptop reads its report. -/
theorem reports_stay_with_account_laptop :
    ∃ reply session, ∃ report : StoredReportRef,
      (filedState.route sampleConfig epoch 9 3 readingRequest).2 = some reply ∧
        TokenHonoured sampleConfig [routedPairing] laptopReport.auth epoch session ∧
        reply.payload = .report report.metadata ∧
        report.metadata.accountId = session.accountId := by
  have hSteps : [pairingLabel, uploadLabel].filterMap SyncRouterLabel.cloudStep =
      [routedPairing] := by
    rw [List.filterMap_cons_some cloudStep_pairingLabel,
      List.filterMap_cons_none cloudStep_uploadLabel, List.filterMap_nil]
  have hRun : Run (syncRouterSystem sampleConfig) {} [pairingLabel, uploadLabel] filedState :=
    pairedState_run.snoc (show (_, _) = _ from Prod.mk.eta)
  have hFresh : FreshTokens sampleConfig
      ([pairingLabel, uploadLabel].filterMap SyncRouterLabel.cloudStep) := by
    rw [hSteps]
    exact freshTokens_routedPairing
  have hSession : filedState.cloud.tables.session laptopReport.auth epoch =
      .ok (sampleSession 1) := by
    rw [show filedState.cloud = pairedState.cloud by rw [filedState_eq], session_pairedState]
  have hValues : filedState.reports.values =
      [filedReport laptopReport (sampleSession 1) epoch 2] := by
    rw [filedState_eq, reports_pairedState]
    rfl
  have hId : (filedReport laptopReport (sampleSession 1) epoch 2).metadata.reportId =
      laptopReportId := by decide
  have hMetadata : filedState.reportMetadata laptopReport.auth laptopReportId epoch =
      .ok (filedReport laptopReport (sampleSession 1) epoch 2).metadata := by
    simp only [SyncServerState.reportMetadata, hSession, bind, Except.bind, hValues,
      List.find?_cons, hId, decide_true]
    rfl
  obtain ⟨reply, hReply, hStatus⟩ : ∃ reply,
      (filedState.route sampleConfig epoch 9 3 readingRequest).2 = some reply ∧
        reply.status = 200 := by
    rw [SyncServerState.route, syncCall_readingRequest]
    simp only [SyncServerState.perform, hMetadata]
    exact ⟨_, rfl, rfl⟩
  obtain ⟨session, report, hHonoured, hPayload, _, hAccount, _⟩ :=
    reports_stay_with_account hRun hFresh syncCall_readingRequest hReply hStatus
  rw [hSteps] at hHonoured
  exact ⟨reply, session, report, hReply, hHonoured, hPayload, hAccount⟩

end

end HamLogger
