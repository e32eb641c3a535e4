import HamLogger.Core.Bus
import Mathlib.Data.List.Sort

/-! The diagnostic bundle that is shared with support. A file of a bundle is
given by what is written to it, before it becomes bytes. -/
namespace HamLogger

inductive DiagnosticReportType where
  | basic | sync
  deriving DecidableEq

structure RedactionSummary where
  secretFieldsRedacted : Nat := 0
  privateProfileFieldsRedacted : Nat := 0
  officialLogExcluded : Bool := true
  aiPayloadsExcluded : Bool := true
  rawProviderMetadataExcluded : Bool := true
  categoriesRemoved : List String := ["credentials/tokens/api keys", "official QSO logs",
    "full AI prompts/responses", "raw lookup/provider metadata",
    "private profile/address fields"]
  deriving DecidableEq

def isSecretKey (key : String) : Bool :=
  ["secret", "token", "password", "api_key", "apikey", "credential", "authorization", "session",
    "sync_token"].any (strContains key)

def isPrivateProfileKey (key : String) : Bool :=
  ["home_address", "address", "street", "profile_notes", "private_notes"].any (strContains key)

/-- A field that is redacted is counted, or sets a flag. -/
def redactedField (key : String) (summary : RedactionSummary) : Option RedactionSummary :=
  let key := toAsciiLowercase key
  if isSecretKey key then
    some { summary with secretFieldsRedacted := summary.secretFieldsRedacted + 1 }
  else if isPrivateProfileKey key then
    some { summary with privateProfileFieldsRedacted := summary.privateProfileFieldsRedacted + 1 }
  else if strContains key "raw_metadata" || strContains key "raw_provider" then
    some { summary with rawProviderMetadataExcluded := true }
  else if strContains key "prompt" || strContains key "completion" ||
      strContains key "response" then
    some { summary with aiPayloadsExcluded := true }
  else none

mutual

def redactValue : Value → RedactionSummary → Value × RedactionSummary
  | .object fields, summary =>
      let redacted := redactMap fields summary
      (.object redacted.1, redacted.2)
  | .array values, summary =>
      let redacted := redactValues values summary
      (.array redacted.1, redacted.2)
  | .null, summary => (.null, summary)
  | .bool value, summary => (.bool value, summary)
  | .number value, summary => (.number value, summary)
  | .string text, summary => (.string text, summary)

def redactValues : List Value → RedactionSummary → List Value × RedactionSummary
  | [], summary => ([], summary)
  | value :: rest, summary =>
      let first := redactValue value summary
      let others := redactValues rest first.2
      (first.1 :: others.1, others.2)

def redactMap : List (String × Value) → RedactionSummary →
    List (String × Value) × RedactionSummary
  | [], summary => ([], summary)
  | (key, value) :: rest, summary =>
      let first :=
        match redactedField key summary with
        | some counted => (Value.string "[REDACTED]", counted)
        | none => redactValue value summary
      let others := redactMap rest first.2
      ((key, first.1) :: others.1, others.2)

end

def redactForReport (value : Value) : Value × RedactionSummary := redactValue value {}

def mergeRedactionSummary (target source : RedactionSummary) : RedactionSummary :=
  { target with
    secretFieldsRedacted := target.secretFieldsRedacted + source.secretFieldsRedacted
    privateProfileFieldsRedacted :=
      target.privateProfileFieldsRedacted + source.privateProfileFieldsRedacted }

/-- An event as it was logged, with its time. -/
structure LoggedEvent where
  timestamp : DateTime
  envelope : RuntimeEventEnvelope
  deriving DecidableEq

structure ActionTimelineEntry where
  timestamp : DateTime
  eventType : String
  severity : RuntimeEventSeverity
  source : String
  sourcePluginId : Option String
  correlationId : Uuid
  workspaceId : Option String
  payloadSummary : String
  errorSummary : Option String
  deriving DecidableEq

def RuntimeEventSeverity.isWarnOrAbove : RuntimeEventSeverity → Bool
  | .warn | .error => true
  | _ => false

/-- The part of the type before the first full stop. -/
def RuntimeEventEnvelope.category (event : RuntimeEventEnvelope) : String :=
  String.ofList (event.eventType.toList.takeWhile (· ≠ '.'))

def isTimelineEvent (event : RuntimeEventEnvelope) : Bool :=
  event.severity.isWarnOrAbove || decide (event.category ∈ ["ui", "plugin", "sync", "rig",
    "network", "proposal", "projection", "diagnostics", "app"])

def timelineEntry (event : LoggedEvent) : ActionTimelineEntry where
  timestamp := event.timestamp
  eventType := event.envelope.eventType
  severity := event.envelope.severity
  source := event.envelope.source
  sourcePluginId := event.envelope.sourcePluginId
  correlationId := event.envelope.correlationId
  workspaceId := event.envelope.workspaceId
  payloadSummary := event.envelope.payloadSummary
  errorSummary := event.envelope.error

/-- The last entries since a time, oldest first. -/
def actionTimeline (events : List LoggedEvent) (since : DateTime) (limit : Nat) :
    List ActionTimelineEntry :=
  let entries := ((events.filter fun event => since ≤ event.timestamp).filter fun event =>
    isTimelineEvent event.envelope).map timelineEntry
  let entries := entries.insertionSort fun first second => first.timestamp ≤ second.timestamp
  entries.drop (entries.length - limit)

structure SystemInfo where
  platform : String
  os : String
  arch : String
  family : String
  deriving DecidableEq

structure DiagnosticBundleInput where
  reportType : DiagnosticReportType
  runtimeLogDir : Fin 6 → Option (List LoggedEvent)
  runtimeEvents : List LoggedEvent
  appVersion : String
  coreVersion : String
  deviceId : Uuid
  sessionId : Uuid
  accountId : Option String
  plugins : Value
  syncStatus : Option Value
  userNotes : String

structure DiagnosticBundleManifest where
  reportType : DiagnosticReportType
  appVersion : String
  coreVersion : String
  platform : String
  deviceId : Uuid
  sessionId : Uuid
  accountId : Option String
  includedFiles : List String
  bundleHash : String
  redactionSummary : RedactionSummary
  deriving DecidableEq

inductive FileContents where
  | lines (events : List LoggedEvent)
  | json (value : Value)
  | systemInfo (info : SystemInfo)
  | appInfo (appVersion coreVersion : String)
  | timeline (entries : List ActionTimelineEntry)
  | text (text : String)
  | redactionReport (summary : RedactionSummary)
  | manifest (manifest : DiagnosticBundleManifest)
  deriving DecidableEq

structure DiagnosticBundleFile where
  name : String
  contents : FileContents
  deriving DecidableEq

/-- The log that is written to, and those that were rotated away from it. -/
def runtimeLogName : Fin 6 → String
  | 0 => "runtime-events.jsonl"
  | 1 => "runtime-events.jsonl.1"
  | 2 => "runtime-events.jsonl.2"
  | 3 => "runtime-events.jsonl.3"
  | 4 => "runtime-events.jsonl.4"
  | 5 => "runtime-events.jsonl.5"

/-- The log files that exist, as they are. -/
def runtimeLogFiles (directory : Fin 6 → Option (List LoggedEvent)) :
    List DiagnosticBundleFile :=
  (List.finRange 6).filterMap fun index =>
    (directory index).map fun events => ⟨runtimeLogName index, .lines events⟩

/-- What is known of the sync status. -/
def DiagnosticBundleInput.knownSyncStatus (input : DiagnosticBundleInput) : Value :=
  input.syncStatus.getD (.object [("state", .string "unknown")])

section Bundle
variable (system : SystemInfo) (contentHash : List DiagnosticBundleFile → String)

def bundleSummary (input : DiagnosticBundleInput) : RedactionSummary :=
  let summary := mergeRedactionSummary {} (redactForReport input.plugins).2
  if input.reportType = .sync then
    mergeRedactionSummary summary (redactForReport input.knownSyncStatus).2
  else summary

/-- The files before the manifest, with the actions since a time. -/
def bundleContents (input : DiagnosticBundleInput) (since : DateTime) :
    List DiagnosticBundleFile :=
  runtimeLogFiles input.runtimeLogDir ++
    [⟨"plugins.json", .json (redactForReport input.plugins).1⟩,
      ⟨"system-info.json", .systemInfo system⟩,
      ⟨"app-info.json", .appInfo input.appVersion input.coreVersion⟩] ++
    (if input.reportType = .sync then
      [⟨"sync-status.json", .json (redactForReport input.knownSyncStatus).1⟩] else []) ++
    [⟨"action-timeline.json", .timeline (actionTimeline input.runtimeEvents since 200)⟩,
      ⟨"user-notes.txt", .text input.userNotes⟩,
      ⟨"redaction-report.json", .redactionReport (bundleSummary input)⟩]

def sortFiles (files : List DiagnosticBundleFile) : List DiagnosticBundleFile :=
  files.insertionSort fun first second => first.name ≤ second.name

def bundleManifest (input : DiagnosticBundleInput) (files : List DiagnosticBundleFile) :
    DiagnosticBundleManifest where
  reportType := input.reportType
  appVersion := input.appVersion
  coreVersion := input.coreVersion
  platform := system.platform
  deviceId := input.deviceId
  sessionId := input.sessionId
  accountId := input.accountId
  includedFiles := (files.map DiagnosticBundleFile.name ++ ["manifest.json"]).insertionSort (· ≤ ·)
  bundleHash := contentHash (sortFiles files)
  redactionSummary := bundleSummary input

/-- The files of the bundle, apart from the time at which it is made. -/
def buildDiagnosticBundle (input : DiagnosticBundleInput) (since : DateTime) :
    List DiagnosticBundleFile :=
  let files := bundleContents system input since
  sortFiles (files ++
    [⟨"manifest.json", .manifest (bundleManifest system contentHash input files)⟩])

end Bundle
end HamLogger
