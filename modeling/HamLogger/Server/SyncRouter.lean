import HamLogger.Server.HttpWire
import HamLogger.Server.SyncHandlers

/-! The routes of the self-hosted sync server, and the listener that it shares
with the hosted server. -/
namespace HamLogger

/-! Answers. -/

/-- The codes of the errors that these routes answer. -/
inductive ApiErrorCode where
  | invalidJson | invalidUuid | missingToken | invalidToken | forbidden | notFound
  | validationFailed | storeUnavailable
  deriving DecidableEq

def ApiErrorCode.asStr : ApiErrorCode → String
  | .invalidJson => "invalid_json"
  | .invalidUuid => "invalid_uuid"
  | .missingToken => "missing_token"
  | .invalidToken => "invalid_token"
  | .forbidden => "forbidden"
  | .notFound => "not_found"
  | .validationFailed => "validation_failed"
  | .storeUnavailable => "store_unavailable"

structure ApiErrorBody where
  error : String
  code : String
  requestId : String
  retryable : Bool
  deriving DecidableEq

inductive DiagnosticReportUploadType where
  | basic | sync
  deriving DecidableEq

structure DiagnosticReportUploadRequest where
  auth : CloudAuth
  reportType : DiagnosticReportUploadType
  appVersion : String
  coreVersion : String
  platform : String
  pluginList : List String
  syncStateSummary : Option String
  shortDescription : String
  bundleHash : String
  bundleBytes : List UInt8
  deriving DecidableEq

/-- A report as the server lists it. Its status is `submitted` from the start. -/
structure DiagnosticReportMetadata where
  reportId : String
  userId : String
  accountId : String
  appVersion : String
  coreVersion : String
  platform : String
  createdAt : DateTime
  reportType : DiagnosticReportUploadType
  pluginList : List String
  syncStateSummary : Option String
  shortDescription : String
  bundleHash : String
  deriving DecidableEq

/-- A row of `diagnostic_reports`, with the bytes in the file it points to. -/
structure StoredReportRef where
  metadata : DiagnosticReportMetadata
  bundleBytes : List UInt8
  deriving DecidableEq

/-- The body of an answer before it is written as JSON. -/
inductive SyncPayload where
  | health
  | paired (response : PairDeviceResponse)
  | logbooks (logbooks : List LogbookHeadSummary)
  | head (head : LogbookHeadSummary)
  | eventMetadata (logbookId : Uuid) (events : List EventMetadata)
  | preview (preview : PreviewPullResponse)
  | pulled (response : CloudPullEventsResponse)
  | pushed (response : CloudPushEventsResponse)
  | status (response : CloudSyncStatusResponse)
  | uploaded (reportId : String) (receivedAt : DateTime) (bundleHash : String)
  | report (metadata : DiagnosticReportMetadata)
  | error (body : ApiErrorBody)

structure SyncReply where
  status : UInt16
  payload : SyncPayload

/-- A request to preview or to pull events, which have the same fields. -/
structure CloudPullRequest where
  auth : CloudAuth
  logbookId : Uuid
  localHeadHash : Option String

structure CloudPushRequest where
  auth : CloudAuth
  logbookId : Uuid
  events : List CoreEventEnvelope

/-- The JSON forms of the bodies, which the serde_json crate reads and writes. -/
class SyncJson where
  parsePair : List UInt8 → Option PairDeviceRequest
  parsePull : List UInt8 → Option CloudPullRequest
  parsePush : List UInt8 → Option CloudPushRequest
  parseReport : List UInt8 → Option DiagnosticReportUploadRequest
  write : SyncPayload → List UInt8

def jsonError (status : UInt16) (message : String) (code : ApiErrorCode) (requestId : String) :
    SyncReply where
  status := status
  payload := .error { error := message, code := code.asStr, requestId := requestId,
                      retryable := false }

def cloudError (error : CloudSyncError) (requestId : String) : SyncReply :=
  match error with
  | .unauthenticated => jsonError 401 "unauthenticated" .invalidToken requestId
  | .unauthorizedLogbook _ => jsonError 403 "forbidden" .forbidden requestId
  | .pairingRejected _ | .validation _ =>
      jsonError 400 "request validation failed" .validationFailed requestId
  | .store _ => jsonError 500 "request could not be completed" .storeUnavailable requestId

/-! Routes. -/

def selfHostedRoutePrefix : String := "/api/v1/self-hosted"

/-- `trim_start_matches`: the pattern is taken off as often as it stands in
front. -/
def trimStartMatches (pattern text : List Char) : List Char :=
  if pattern ≠ [] ∧ pattern.isPrefixOf text = true then
    trimStartMatches pattern (text.drop pattern.length)
  else text
termination_by text.length
decreasing_by
  rename_i h
  have hPrefix := (List.isPrefixOf_iff_prefix.mp h.2).length_le
  have hPositive := List.length_pos_of_ne_nil h.1
  rw [List.length_drop]
  omega

def trimEndMatches (pattern text : List Char) : List Char :=
  (trimStartMatches pattern.reverse text.reverse).reverse

def startsWithText (text front : String) : Bool := front.toList.isPrefixOf text.toList

def endsWithText (text back : String) : Bool := back.toList.isSuffixOf text.toList

def relativePath (path : String) : String :=
  if startsWithText path selfHostedRoutePrefix then
    String.ofList (path.toList.drop selfHostedRoutePrefix.length)
  else path

def authFromToken (token : Option String) : Option CloudAuth :=
  (token.filter fun token => token ≠ "").map CloudAuth.mk

/-- What a request asks of the sync server. -/
inductive SyncCall where
  | health
  | pairDevice (request : PairDeviceRequest)
  | listLogbooks (auth : CloudAuth)
  | getHead (auth : CloudAuth) (logbookId : Uuid)
  | eventMetadata (auth : CloudAuth) (logbookId : Uuid) (afterHash : Option String)
  | previewPull (request : CloudPullRequest)
  | pullEvents (request : CloudPullRequest)
  | pushEvents (request : CloudPushRequest)
  | status (auth : Option CloudAuth)
  | uploadReport (request : DiagnosticReportUploadRequest)
  | reportMetadata (auth : CloudAuth) (reportId : String)

/-- A request that is refused before the server is asked. -/
structure SyncRefusal where
  status : UInt16
  message : String
  code : ApiErrorCode
  deriving DecidableEq

def missingToken : SyncRefusal := ⟨401, "missing token", .missingToken⟩

section Routes
variable [UuidCrate]

def withLogbookAuth (path : String) (token : Option String) (suffix : String)
    (handler : CloudAuth → Uuid → SyncCall) : Except SyncRefusal SyncCall :=
  match authFromToken token with
  | none => .error missingToken
  | some auth =>
      let text := trimEndMatches "/".toList (trimEndMatches suffix.toList
        (trimStartMatches "/logbooks/".toList path.toList))
      match UuidCrate.parseStr (String.ofList text) with
      | none => .error ⟨400, "invalid logbook id", .invalidUuid⟩
      | some logbookId => .ok (handler auth logbookId)

def withBody {α : Type} (body : Option α) (message : String) (handler : α → SyncCall) :
    Except SyncRefusal SyncCall :=
  match body with
  | none => .error ⟨400, message, .invalidJson⟩
  | some input => .ok (handler input)

def withToken (token : Option String) (handler : CloudAuth → SyncCall) :
    Except SyncRefusal SyncCall :=
  match authFromToken token with
  | none => .error missingToken
  | some auth => .ok (handler auth)

variable [SyncJson]

/-- The match over method and path. The routes with a body take the logbook
from the body: the one in the path is not read. -/
def syncCall (request : ApiRequest) : Except SyncRefusal SyncCall :=
  let path := relativePath request.path
  let token := request.query.lookup "token"
  let ofLogbook := fun suffix => startsWithText path "/logbooks/" && endsWithText path suffix
  if request.method = "GET" ∧ path = "/health" then .ok .health
  else if request.method = "POST" ∧ path = "/auth/pair" then
    withBody (SyncJson.parsePair request.body) "invalid pair request" .pairDevice
  else if request.method = "GET" ∧ path = "/logbooks" then withToken token .listLogbooks
  else if request.method = "GET" ∧ ofLogbook "/head" then
    withLogbookAuth path token "/head" .getHead
  else if request.method = "GET" ∧ ofLogbook "/events" then
    withLogbookAuth path token "/events" fun auth logbookId =>
      .eventMetadata auth logbookId (request.query.lookup "after_hash")
  else if request.method = "POST" ∧ ofLogbook "/preview-pull" then
    withBody (SyncJson.parsePull request.body) "invalid preview request" .previewPull
  else if request.method = "POST" ∧ ofLogbook "/pull" then
    withBody (SyncJson.parsePull request.body) "invalid pull request" .pullEvents
  else if request.method = "POST" ∧ ofLogbook "/push" then
    withBody (SyncJson.parsePush request.body) "invalid push request" .pushEvents
  else if request.method = "GET" ∧ path = "/sync/status" then
    .ok (.status (authFromToken token))
  else if request.method = "POST" ∧ path = "/reports" then
    withBody (SyncJson.parseReport request.body) "invalid report upload request" .uploadReport
  else if request.method = "GET" ∧ startsWithText path "/reports/" then
    withToken token fun auth => .reportMetadata auth
      (String.ofList (trimStartMatches "/reports/".toList path.toList))
  else .error ⟨404, "not found", .notFound⟩

def syncRequestId (request : ApiRequest) (random : Uuid) : String :=
  ((request.headers.lookup "x-request-id").filter fun value => trim value ≠ "").getD
    (UuidCrate.display random)

end Routes

/-! The server. -/

structure SyncServerState where
  cloud : DurableCloudState := {}
  reports : KeyMap String StoredReportRef := ∅

namespace SyncServerState
variable [UuidCrate] [RustFmt] [CanonicalJson] [Sha2Crate] [EventJson]

def eventMetadata (state : SyncServerState) (auth : CloudAuth) (logbookId : Uuid)
    (afterHash : Option String) (now : DateTime) : Except CloudSyncError SyncPayload :=
  (authorizeLogbook (state.cloud.tables.session auth now) logbookId).map fun _ =>
    .eventMetadata logbookId
      ((state.cloud.store.memory.listEventsAfter logbookId afterHash).map metadataForEvent)

def previewPull (state : SyncServerState) (request : CloudPullRequest) (now : DateTime) :
    Except CloudSyncError PreviewPullResponse :=
  (authorizeLogbook (state.cloud.tables.session request.auth now) request.logbookId).map fun _ =>
    previewPullFromEvents "cloud"
      { logbookId := request.logbookId, localHeadHash := request.localHeadHash }
      (state.cloud.store.memory.listEvents request.logbookId)

def pullEvents (state : SyncServerState) (request : CloudPullRequest) (now : DateTime) :
    Except CloudSyncError CloudPullEventsResponse :=
  (authorizeLogbook (state.cloud.tables.session request.auth now) request.logbookId).map fun _ =>
    let events := state.cloud.store.memory.listEvents request.logbookId
    let preview := previewPullFromEvents "cloud"
      { logbookId := request.logbookId, localHeadHash := request.localHeadHash } events
    { preview := preview
      events := events.filter fun event =>
        event.eventHash ∈ preview.events.map EventMetadata.eventHash }

/-- A report is filed under the account of the session. -/
def uploadReport (state : SyncServerState) (request : DiagnosticReportUploadRequest)
    (now : DateTime) (random : Uuid) : SyncServerState × Except CloudSyncError SyncPayload :=
  match state.cloud.tables.session request.auth now with
  | .error error => (state, .error error)
  | .ok session =>
      if trim request.bundleHash = "" ∨ request.bundleBytes = [] then
        (state, .error (.validation "diagnostic report bundle is empty"))
      else
        let reportId := "rpt-" ++ UuidCrate.display random
        let metadata : DiagnosticReportMetadata :=
          { reportId := reportId, userId := session.userId, accountId := session.accountId,
            appVersion := request.appVersion, coreVersion := request.coreVersion,
            platform := request.platform, createdAt := now, reportType := request.reportType,
            pluginList := request.pluginList, syncStateSummary := request.syncStateSummary,
            shortDescription := request.shortDescription, bundleHash := request.bundleHash }
        ({ state with
           reports := state.reports.insert reportId
             { metadata := metadata, bundleBytes := request.bundleBytes } },
          .ok (.uploaded reportId now request.bundleHash))

def reportMetadata (state : SyncServerState) (auth : CloudAuth) (reportId : String)
    (now : DateTime) : Except CloudSyncError DiagnosticReportMetadata := do
  let session ← state.cloud.tables.session auth now
  match state.reports.values.find? fun report => report.metadata.reportId = reportId with
  | none => .error (.validation "report not found")
  | some report =>
      if report.metadata.accountId ≠ session.accountId then .error .unauthenticated
      else .ok report.metadata

/-- What the server does for a call: no answer where pairing panics. -/
def perform (config : CloudServerConfig) (state : SyncServerState) (now : DateTime)
    (random : Uuid) : SyncCall → SyncServerState × Option (Except CloudSyncError SyncPayload)
  | .health => (state, some (.ok .health))
  | .pairDevice request =>
      let (tables, response) := DurableCloudSyncServer.pairDevice config state.cloud.tables
        request now random none
      ({ state with cloud := { state.cloud with tables := tables } },
        response.map fun response => .ok (.paired response))
  | .listLogbooks auth =>
      (state, some ((DurableCloudSyncServer.listLogbooks state.cloud auth now).map .logbooks))
  | .getHead auth logbookId =>
      (state, some ((DurableCloudSyncServer.getHead state.cloud auth logbookId now).map .head))
  | .eventMetadata auth logbookId afterHash =>
      (state, some (eventMetadata state auth logbookId afterHash now))
  | .previewPull request => (state, some ((previewPull state request now).map .preview))
  | .pullEvents request => (state, some ((pullEvents state request now).map .pulled))
  | .pushEvents request =>
      let (cloud, result) := DurableCloudSyncServer.pushEvents state.cloud request.auth
        request.logbookId request.events now
      ({ state with cloud := cloud }, some (result.map .pushed))
  | .status auth =>
      (state, some ((DurableCloudSyncServer.status config state.cloud auth now).map .status))
  | .uploadReport request =>
      let (later, result) := uploadReport state request now random
      (later, some result)
  | .reportMetadata auth reportId =>
      (state, some ((reportMetadata state auth reportId now).map .report))

variable [SyncJson]

/-- The answer to a request. `requestRandom` is drawn for a request that names
no identifier of its own. -/
def route (config : CloudServerConfig) (state : SyncServerState) (now : DateTime)
    (requestRandom random : Uuid) (request : ApiRequest) : SyncServerState × Option SyncReply :=
  let requestId := syncRequestId request requestRandom
  match syncCall request with
  | .error refusal =>
      (state, some (jsonError refusal.status refusal.message refusal.code requestId))
  | .ok call =>
      let (later, result) := perform config state now random call
      (later, result.map fun result =>
        match result with
        | .ok payload => { status := 200, payload := payload }
        | .error error => cloudError error requestId)

end SyncServerState

/-! The listener. -/

def jsonResponse [SyncJson] (reply : SyncReply) : ApiResponse where
  status := reply.status
  headers := ∅
  body := SyncJson.write reply.payload

section Merged
variable {Hosted : Type} (hosted : Hosted → ApiRequest → Hosted × Option ApiResponse)
  (sync : SyncServerState → ApiRequest → SyncServerState × Option ApiResponse)
  (health : ApiResponse)

/-- The health of both services, the self-hosted routes, and the hosted server
for everything else. No response where a handler panics. -/
def MergedServer.handle (state : Hosted × SyncServerState) (request : ApiRequest) :
    (Hosted × SyncServerState) × Option ApiResponse :=
  if request.path = "/health" then (state, some health)
  else if startsWithText request.path selfHostedRoutePrefix then
    let (later, response) := sync state.2 request
    ((state.1, later), response)
  else
    let (later, response) := hosted state.1 request
    ((later, state.2), response)

end Merged

/-- One connection: the request is read, handled and answered. What was not
read is dropped, and nothing is written where the request cannot be read. -/
def handleStream {State : Type} (handle : State → ApiRequest → State × Option ApiResponse)
    (state : State) (connection : List UInt8) : State × List UInt8 :=
  match readHttpRequest connection with
  | .error _ => (state, [])
  | .ok (request, _) =>
      let (later, response) := handle state request
      (later, (response.map writeResponse).getD [])

end HamLogger
