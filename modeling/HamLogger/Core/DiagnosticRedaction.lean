import HamLogger.Core.Crates
import HamLogger.Core.Diagnostics

/-! What two runs that differ in redacted values share with support. Events
are redacted by one classifier of keys when they are logged, the plugins and
the sync status by another one when the bundle is made. -/
namespace HamLogger

section Masks
variable (hides : String → Bool)

mutual

/-- Equal but for values under keys that are hidden, at any depth. -/
def agreesBut : Value → Value → Bool
  | .object fields, other =>
      match other with
      | .object others => fieldsAgreeBut fields others
      | _ => false
  | .array values, other =>
      match other with
      | .array others => elementsAgreeBut values others
      | _ => false
  | .null, other => other = .null
  | .bool value, other => other = .bool value
  | .number value, other => other = .number value
  | .string text, other => other = .string text

def elementsAgreeBut : List Value → List Value → Bool
  | [], others => others.isEmpty
  | value :: rest, others =>
      match others with
      | other :: others => agreesBut value other && elementsAgreeBut rest others
      | [] => false

def fieldsAgreeBut : List (String × Value) → List (String × Value) → Bool
  | [], others => others.isEmpty
  | (key, value) :: rest, others =>
      match others with
      | (name, other) :: others =>
          key = name && (hides key || agreesBut value other) && fieldsAgreeBut rest others
      | [] => false

end

mutual

/-- The value with everything under hidden keys replaced. -/
def mask : Value → Value
  | .object fields => .object (maskFields fields)
  | .array values => .array (maskElements values)
  | .null => .null
  | .bool value => .bool value
  | .number value => .number value
  | .string text => .string text

def maskElements : List Value → List Value
  | [] => []
  | value :: rest => mask value :: maskElements rest

def maskFields : List (String × Value) → List (String × Value)
  | [] => []
  | (key, value) :: rest =>
      (key, if hides key then .string "[REDACTED]" else mask value) :: maskFields rest

end

mutual

/-- Values agree exactly if they look the same behind the mask. -/
theorem agreesBut_iff : ∀ first second : Value,
    agreesBut hides first second = true ↔ mask hides first = mask hides second
  | .object fields, second => by
      cases second with
      | object others => simp [agreesBut, mask, fieldsAgreeBut_iff fields others]
      | _ => simp [agreesBut, mask]
  | .array values, second => by
      cases second with
      | array others => simp [agreesBut, mask, elementsAgreeBut_iff values others]
      | _ => simp [agreesBut, mask]
  | .null, second => by cases second <;> simp [agreesBut, mask]
  | .bool value, second => by cases second <;> simp [agreesBut, mask, eq_comm]
  | .number value, second => by cases second <;> simp [agreesBut, mask, eq_comm]
  | .string text, second => by cases second <;> simp [agreesBut, mask, eq_comm]

theorem elementsAgreeBut_iff : ∀ first second : List Value,
    elementsAgreeBut hides first second = true ↔
      maskElements hides first = maskElements hides second
  | [], second => by cases second <;> simp [elementsAgreeBut, maskElements]
  | value :: rest, second => by
      cases second with
      | nil => simp [elementsAgreeBut, maskElements]
      | cons other others =>
          simp [elementsAgreeBut, maskElements, agreesBut_iff value other,
            elementsAgreeBut_iff rest others]

theorem fieldsAgreeBut_iff : ∀ first second : List (String × Value),
    fieldsAgreeBut hides first second = true ↔ maskFields hides first = maskFields hides second
  | [], second => by cases second <;> simp [fieldsAgreeBut, maskFields]
  | (key, value) :: rest, second => by
      cases second with
      | nil => simp [fieldsAgreeBut, maskFields]
      | cons field others =>
          obtain ⟨name, other⟩ := field
          simp only [fieldsAgreeBut, maskFields, Bool.and_eq_true, decide_eq_true_eq,
            Bool.or_eq_true, List.cons.injEq, Prod.mk.injEq, agreesBut_iff value other,
            fieldsAgreeBut_iff rest others]
          by_cases hSame : key = name
          · subst hSame
            by_cases hHidden : hides key = true <;> simp [hHidden]
          · simp [hSame]

end

end Masks

/-- The keys that are redacted when a bundle is made. -/
def hiddenInReport (key : String) : Bool := (redactedField key {}).isSome

theorem redactedField_isSome (key : String) (summary : RedactionSummary) :
    (redactedField key summary).isSome = hiddenInReport key := by
  unfold hiddenInReport redactedField
  dsimp only
  repeat' split
  all_goals rfl

mutual

theorem redactPayload_eq_mask : ∀ value, redactPayload value = mask isSecretLikeKey value
  | .object fields => by rw [redactPayload, mask, redactFields_eq_mask fields]
  | .array values => by rw [redactPayload, mask, redactElements_eq_mask values]
  | .null => by rw [redactPayload, mask]
  | .bool value => by rw [redactPayload, mask]
  | .number value => by rw [redactPayload, mask]
  | .string text => by rw [redactPayload, mask]

theorem redactElements_eq_mask : ∀ values,
    redactElements values = maskElements isSecretLikeKey values
  | [] => by rw [redactElements, maskElements]
  | value :: rest => by
      rw [redactElements, maskElements, redactPayload_eq_mask value, redactElements_eq_mask rest]

theorem redactFields_eq_mask : ∀ fields, redactFields fields = maskFields isSecretLikeKey fields
  | [] => by rw [redactFields, maskFields]
  | (key, value) :: rest => by
      rw [redactFields, maskFields, redactPayload_eq_mask value, redactFields_eq_mask rest]

end

mutual

/-- The report shows the value behind the mask, and counts what the mask
shows. -/
theorem redactValue_eq : ∀ value summary,
    (redactValue value summary).1 = mask hiddenInReport value ∧
      redactValue (mask hiddenInReport value) summary = redactValue value summary
  | .object fields, summary => by
      obtain ⟨hShown, hCounted⟩ := redactMap_eq fields summary
      rw [mask, redactValue, redactValue, hCounted, hShown]
      exact ⟨rfl, rfl⟩
  | .array values, summary => by
      obtain ⟨hShown, hCounted⟩ := redactValues_eq values summary
      rw [mask, redactValue, redactValue, hCounted, hShown]
      exact ⟨rfl, rfl⟩
  | .null, summary => by rw [mask, redactValue]; exact ⟨rfl, rfl⟩
  | .bool value, summary => by rw [mask, redactValue]; exact ⟨rfl, rfl⟩
  | .number value, summary => by rw [mask, redactValue]; exact ⟨rfl, rfl⟩
  | .string text, summary => by rw [mask, redactValue]; exact ⟨rfl, rfl⟩

theorem redactValues_eq : ∀ values summary,
    (redactValues values summary).1 = maskElements hiddenInReport values ∧
      redactValues (maskElements hiddenInReport values) summary = redactValues values summary
  | [], summary => by rw [maskElements, redactValues]; exact ⟨rfl, rfl⟩
  | value :: rest, summary => by
      obtain ⟨hShown, hCounted⟩ := redactValue_eq value summary
      obtain ⟨hOthers, hOthersCounted⟩ := redactValues_eq rest (redactValue value summary).2
      rw [maskElements, redactValues, redactValues, hCounted, hOthersCounted, hShown, hOthers]
      exact ⟨rfl, rfl⟩

theorem redactMap_eq : ∀ fields summary,
    (redactMap fields summary).1 = maskFields hiddenInReport fields ∧
      redactMap (maskFields hiddenInReport fields) summary = redactMap fields summary
  | [], summary => by rw [maskFields, redactMap]; exact ⟨rfl, rfl⟩
  | (key, value) :: rest, summary => by
      have hSome := redactedField_isSome key summary
      rw [maskFields, redactMap, redactMap]
      cases hField : redactedField key summary with
      | some counted =>
          rw [hField] at hSome
          obtain ⟨hOthers, hCounted⟩ := redactMap_eq rest counted
          have hHidden : hiddenInReport key = true := hSome.symm
          rw [if_pos hHidden]
          dsimp only
          rw [hCounted, hOthers]
          exact ⟨rfl, rfl⟩
      | none =>
          rw [hField] at hSome
          obtain ⟨hShown, hCounted⟩ := redactValue_eq value summary
          obtain ⟨hOthers, hOthersCounted⟩ := redactMap_eq rest (redactValue value summary).2
          have hShows : ¬ hiddenInReport key = true := by
            rw [← hSome]
            exact Bool.false_ne_true
          rw [if_neg hShows]
          dsimp only
          rw [hCounted, hOthersCounted, hShown, hOthers]
          exact ⟨rfl, rfl⟩

end

/-- Values are reported alike, with the same counts, exactly if they agree but
for what the report hides. -/
theorem redactForReport_eq_iff (first second : Value) :
    (redactForReport first).1 = (redactForReport second).1 ↔
      agreesBut hiddenInReport first second = true := by
  rw [agreesBut_iff, redactForReport, redactForReport, (redactValue_eq first {}).1,
    (redactValue_eq second {}).1]

theorem redactForReport_congr {first second : Value}
    (h : agreesBut hiddenInReport first second = true) :
    redactForReport first = redactForReport second := by
  have hMask := (agreesBut_iff hiddenInReport first second).mp h
  rw [redactForReport, redactForReport, ← (redactValue_eq first {}).2, hMask,
    (redactValue_eq second {}).2]

/-- A runtime event before it is logged. -/
structure RuntimeEvent where
  timestamp : DateTime
  eventType : String
  severity : RuntimeEventSeverity
  source : String
  sourcePluginId : Option String := none
  correlationId : Uuid
  deviceId : Uuid
  workspaceId : Option String := none
  payloadSummary : String
  payload : Option Value
  error : Option String := none

def RuntimeEvent.logged (event : RuntimeEvent) : LoggedEvent where
  timestamp := event.timestamp
  envelope := .new event.eventType event.severity event.source event.sourcePluginId
    event.correlationId event.deviceId event.workspaceId event.payloadSummary event.payload
    event.error

def optionsAgreeBut (hides : String → Bool) : Option Value → Option Value → Bool
  | none, none => true
  | some first, some second => agreesBut hides first second
  | _, _ => false

/-- Events that are equal but for hidden values of their payloads. -/
structure RuntimeEvent.AlikeBut (hides : String → Bool) (first second : RuntimeEvent) :
    Prop where
  same : { first with payload := none } = { second with payload := none }
  payload : optionsAgreeBut hides first.payload second.payload = true

/-- What a bundle is made of, with the events before they are logged. -/
structure ReportedRun where
  reportType : DiagnosticReportType
  logs : Fin 6 → Option (List RuntimeEvent)
  events : List RuntimeEvent
  appVersion : String
  coreVersion : String
  deviceId : Uuid
  sessionId : Uuid
  accountId : Option String
  plugins : Value
  syncStatus : Option Value
  userNotes : String

namespace ReportedRun

def input (run : ReportedRun) : DiagnosticBundleInput where
  reportType := run.reportType
  runtimeLogDir index := (run.logs index).map (List.map RuntimeEvent.logged)
  runtimeEvents := run.events.map RuntimeEvent.logged
  appVersion := run.appVersion
  coreVersion := run.coreVersion
  deviceId := run.deviceId
  sessionId := run.sessionId
  accountId := run.accountId
  plugins := run.plugins
  syncStatus := run.syncStatus
  userNotes := run.userNotes

/-- A run without what may hold redacted values. -/
def bare (run : ReportedRun) : ReportedRun :=
  { run with logs := fun _ => none, events := [], plugins := .null, syncStatus := none }

def LogsAlikeBut (hides : String → Bool) (first second : ReportedRun) : Prop :=
  ∀ index, Option.Rel (List.Forall₂ (RuntimeEvent.AlikeBut hides)) (first.logs index)
    (second.logs index)

/-- Runs that differ only in values under keys that one of the two classifiers
redacts. -/
structure DifferHidden (first second : ReportedRun) : Prop where
  same : first.bare = second.bare
  logs : LogsAlikeBut (fun key => isSecretLikeKey key || hiddenInReport key) first second
  events : List.Forall₂
    (RuntimeEvent.AlikeBut fun key => isSecretLikeKey key || hiddenInReport key)
    first.events second.events
  plugins : agreesBut (fun key => isSecretLikeKey key || hiddenInReport key) first.plugins
    second.plugins = true
  syncStatus : optionsAgreeBut (fun key => isSecretLikeKey key || hiddenInReport key)
    first.syncStatus second.syncStatus = true

/-- The runs differ in each source only in what the classifier of that source
redacts. -/
structure HiddenAtSource (first second : ReportedRun) : Prop where
  logs : LogsAlikeBut isSecretLikeKey first second
  plugins : agreesBut hiddenInReport first.plugins second.plugins = true
  syncStatus : first.reportType = .sync →
    agreesBut hiddenInReport first.input.knownSyncStatus second.input.knownSyncStatus = true

end ReportedRun

section Events
variable {hides : String → Bool} {first second : RuntimeEvent}

theorem optionsAgreeBut_iff (first second : Option Value) :
    optionsAgreeBut hides first second = true ↔
      first.map (mask hides) = second.map (mask hides) := by
  cases first <;> cases second <;> simp [optionsAgreeBut, agreesBut_iff]

/-- Events that are alike are logged alike exactly if their payloads differ
only in what is redacted when they are logged. -/
theorem logged_eq_iff (h : first.AlikeBut hides second) :
    first.logged = second.logged ↔ first.AlikeBut isSecretLikeKey second := by
  have hMask : redactPayload = mask isSecretLikeKey := funext redactPayload_eq_mask
  constructor
  · intro hLogged
    refine ⟨h.same, (optionsAgreeBut_iff _ _).mpr ?_⟩
    rw [← hMask]
    exact congrArg (fun event => event.envelope.redactedPayload) hLogged
  · intro hAlike
    have hPayload := (optionsAgreeBut_iff _ _).mp hAlike.payload
    rw [← hMask] at hPayload
    have hSame := h.same
    simp only [RuntimeEvent.mk.injEq] at hSame
    unfold RuntimeEvent.logged RuntimeEventEnvelope.new
    simp only [hPayload, hSame]

theorem map_logged_eq_iff {first second : List RuntimeEvent}
    (h : List.Forall₂ (RuntimeEvent.AlikeBut hides) first second) :
    first.map RuntimeEvent.logged = second.map RuntimeEvent.logged ↔
      List.Forall₂ (RuntimeEvent.AlikeBut isSecretLikeKey) first second := by
  induction h with
  | nil => exact iff_of_true rfl .nil
  | cons hHead _ ih =>
      rw [List.map_cons, List.map_cons, List.cons.injEq, List.forall₂_cons, ih, logged_eq_iff hHead]

/-- A logged event without its payload. -/
def LoggedEvent.bare (event : LoggedEvent) : LoggedEvent :=
  { event with envelope := { event.envelope with redactedPayload := none } }

/-- The timeline shows no payloads. -/
theorem actionTimeline_bare (events : List LoggedEvent) (since : DateTime) (limit : Nat) :
    actionTimeline (events.map LoggedEvent.bare) since limit =
      actionTimeline events since limit := by
  have hEntries : (((events.map LoggedEvent.bare).filter fun event =>
      since ≤ event.timestamp).filter fun event => isTimelineEvent event.envelope).map
        timelineEntry = ((events.filter fun event => since ≤ event.timestamp).filter fun event =>
          isTimelineEvent event.envelope).map timelineEntry := by
    rw [List.filter_map, List.filter_map, List.map_map]
    rfl
  unfold actionTimeline
  rw [hEntries]

theorem actionTimeline_eq {first second : List RuntimeEvent}
    (h : List.Forall₂ (RuntimeEvent.AlikeBut hides) first second) (since : DateTime) (limit : Nat) :
    actionTimeline (first.map RuntimeEvent.logged) since limit =
      actionTimeline (second.map RuntimeEvent.logged) since limit := by
  have hBare : (first.map RuntimeEvent.logged).map LoggedEvent.bare =
      (second.map RuntimeEvent.logged).map LoggedEvent.bare := by
    induction h with
    | nil => rfl
    | cons hHead _ ih =>
        have hSame := hHead.same
        simp only [RuntimeEvent.mk.injEq] at hSame
        rw [List.map_cons, List.map_cons, List.map_cons, List.map_cons, ih]
        congr 1
        unfold RuntimeEvent.logged RuntimeEventEnvelope.new LoggedEvent.bare
        simp only [hSame]
  rw [← actionTimeline_bare, hBare, actionTimeline_bare]

end Events

section Bundle
variable {hides : String → Bool} {first second : ReportedRun}

theorem runtimeLogName_injective : Function.Injective runtimeLogName := by
  intro first second h
  revert first second
  decide

theorem mem_runtimeLogFiles {directory : Fin 6 → Option (List LoggedEvent)}
    {file : DiagnosticBundleFile} : file ∈ runtimeLogFiles directory ↔ ∃ index events,
      directory index = some events ∧ file = ⟨runtimeLogName index, .lines events⟩ := by
  simp [runtimeLogFiles, eq_comm]

theorem logs_eq (h : ReportedRun.LogsAlikeBut isSecretLikeKey first second) :
    first.input.runtimeLogDir = second.input.runtimeLogDir := by
  funext index
  have hIndex := h index
  unfold ReportedRun.input
  dsimp only
  revert hIndex
  cases first.logs index <;> cases second.logs index
  · exact fun _ => rfl
  · exact fun hRel => by cases hRel
  · exact fun hRel => by cases hRel
  · intro hRel
    cases hRel with
    | some hEvents =>
        have hAlike : List.Forall₂ (RuntimeEvent.AlikeBut isSecretLikeKey) _ _ := hEvents
        exact congrArg some ((map_logged_eq_iff hAlike).mpr hAlike)

section Members
variable {system : SystemInfo} {input : DiagnosticBundleInput} {since : DateTime} {name : String}

theorem mem_bundleContents_json {value : Value} :
    ⟨name, .json value⟩ ∈ bundleContents system input since ↔
      (name = "plugins.json" ∧ value = (redactForReport input.plugins).1) ∨
        (input.reportType = .sync ∧ name = "sync-status.json" ∧
          value = (redactForReport input.knownSyncStatus).1) := by
  have hLogs : (⟨name, .json value⟩ : DiagnosticBundleFile) ∉
      runtimeLogFiles input.runtimeLogDir := by
    rw [mem_runtimeLogFiles]
    rintro ⟨_, _, _, hFile⟩
    cases hFile
  unfold bundleContents
  by_cases hSync : input.reportType = .sync <;> simp [hLogs, hSync]

theorem mem_bundleContents_lines {events : List LoggedEvent} :
    ⟨name, .lines events⟩ ∈ bundleContents system input since ↔
      ∃ index, input.runtimeLogDir index = some events ∧ name = runtimeLogName index := by
  unfold bundleContents
  by_cases hSync : input.reportType = .sync <;> simp [hSync, mem_runtimeLogFiles]

end Members

/-- Runs that differ only in values under redacted keys give bundles with the
same files exactly if they differ in the events only in what is redacted in
logging, and in the plugins and the sync status only in what is redacted in
reporting. -/
theorem bundle_shares_nothing_iff (system : SystemInfo)
    (contentHash : List DiagnosticBundleFile → String) (since : DateTime)
    (h : first.DifferHidden second) :
    buildDiagnosticBundle system contentHash first.input since =
        buildDiagnosticBundle system contentHash second.input since ↔
      first.HiddenAtSource second := by
  have hSame := h.same
  simp only [ReportedRun.bare, ReportedRun.mk.injEq] at hSame
  obtain ⟨hType, _, _, hApp, hCore, hDevice, hSession, hAccount, _, _, hNotes⟩ := hSame
  constructor
  · intro hBundle
    have hMem : ∀ file, file ∈ buildDiagnosticBundle system contentHash first.input since →
        file ∈ buildDiagnosticBundle system contentHash second.input since :=
      fun file hFile => hBundle ▸ hFile
    have hFiles : ∀ file, file ∈ bundleContents system first.input since →
        (∀ manifest, file.contents ≠ .manifest manifest) →
          file ∈ bundleContents system second.input since := by
      intro file hFile hOther
      have hLater := hMem file
        ((List.perm_insertionSort _ _).mem_iff.mpr (List.mem_append_left _ hFile))
      rcases List.mem_append.mp ((List.perm_insertionSort _ _).mem_iff.mp hLater) with
        hContents | hManifest
      · exact hContents
      · obtain rfl := List.mem_singleton.mp hManifest
        exact absurd rfl (hOther _)
    refine ⟨fun index => ?_, ?_, fun hSync => ?_⟩
    · have hIndex := h.logs index
      cases hFirst : first.logs index with
      | none =>
          rw [hFirst] at hIndex
          cases hSecond : second.logs index with
          | none => exact .none
          | some events =>
              rw [hSecond] at hIndex
              cases hIndex
      | some events =>
          rw [hFirst] at hIndex
          cases hSecond : second.logs index with
          | none =>
              rw [hSecond] at hIndex
              cases hIndex
          | some others =>
              rw [hSecond] at hIndex
              cases hIndex with
              | some hEvents =>
                  have hAlike : List.Forall₂ (RuntimeEvent.AlikeBut _) events others := hEvents
                  have hLines := hFiles ⟨runtimeLogName index,
                    .lines (events.map RuntimeEvent.logged)⟩
                    (mem_bundleContents_lines.mpr ⟨index, by simp [ReportedRun.input, hFirst], rfl⟩)
                    fun _ hManifest => by cases hManifest
                  obtain ⟨other, hOther, hName⟩ := mem_bundleContents_lines.mp hLines
                  obtain rfl := runtimeLogName_injective hName
                  have hSame : others.map RuntimeEvent.logged =
                      events.map RuntimeEvent.logged := by
                    simpa [ReportedRun.input, hSecond] using hOther
                  exact .some ((map_logged_eq_iff hAlike).mp hSame.symm)
    · have hPlugins := hFiles ⟨"plugins.json", .json (redactForReport first.plugins).1⟩
        (mem_bundleContents_json.mpr (Or.inl ⟨rfl, rfl⟩)) fun _ hManifest => by cases hManifest
      rcases mem_bundleContents_json.mp hPlugins with ⟨_, hValue⟩ | ⟨_, hName, _⟩
      · exact (redactForReport_eq_iff _ _).mp hValue
      · exact absurd hName (by decide)
    · have hStatus := hFiles
        ⟨"sync-status.json", .json (redactForReport first.input.knownSyncStatus).1⟩
        (mem_bundleContents_json.mpr (Or.inr ⟨hSync, rfl, rfl⟩)) fun _ hManifest => by
          cases hManifest
      rcases mem_bundleContents_json.mp hStatus with ⟨hName, _⟩ | ⟨_, _, hValue⟩
      · exact absurd hName (by decide)
      · exact (redactForReport_eq_iff _ _).mp hValue
  · intro hHidden
    have hPlugins : redactForReport first.input.plugins = redactForReport second.input.plugins :=
      redactForReport_congr hHidden.plugins
    have hTypes : first.input.reportType = second.input.reportType := hType
    have hTimeline : actionTimeline first.input.runtimeEvents since 200 =
        actionTimeline second.input.runtimeEvents since 200 := actionTimeline_eq h.events since 200
    have hSummary : bundleSummary first.input = bundleSummary second.input := by
      unfold bundleSummary
      rw [hPlugins, hTypes]
      by_cases hSync : second.input.reportType = .sync
      · rw [if_pos hSync, if_pos hSync,
          redactForReport_congr (hHidden.syncStatus (hType.trans hSync))]
      · rw [if_neg hSync, if_neg hSync]
    have hContents : bundleContents system first.input since =
        bundleContents system second.input since := by
      have hApps : first.input.appVersion = second.input.appVersion := hApp
      have hCores : first.input.coreVersion = second.input.coreVersion := hCore
      have hText : first.input.userNotes = second.input.userNotes := hNotes
      unfold bundleContents
      rw [logs_eq hHidden.logs, hPlugins, hTypes, hTimeline, hSummary, hApps, hCores, hText]
      by_cases hSync : second.input.reportType = .sync
      · rw [if_pos hSync, if_pos hSync,
          redactForReport_congr (hHidden.syncStatus (hType.trans hSync))]
      · rw [if_neg hSync, if_neg hSync]
    have hManifest : ∀ files, bundleManifest system contentHash first.input files =
        bundleManifest system contentHash second.input files := by
      intro files
      unfold bundleManifest
      rw [hSummary]
      unfold ReportedRun.input
      simp only [hType, hApp, hCore, hDevice, hSession, hAccount]
    unfold buildDiagnosticBundle
    dsimp only
    rw [hContents, hManifest]

/-! A home address that an event carries, and a password and a token of a
plugin. -/

def reportedRun (address password token : String) : ReportedRun where
  reportType := .basic
  logs index := if index = 0 then some [{
    timestamp := Crates.epoch
    eventType := "lookup.completed"
    severity := .info
    source := "lookup"
    correlationId := 1
    deviceId := 2
    payloadSummary := "lookup"
    payload := some (.object [("home_address", .string address)]) }] else none
  events := []
  appVersion := "0.1.0"
  coreVersion := "0.1.0"
  deviceId := 2
  sessionId := 3
  accountId := none
  plugins := .object [("passwd", .string password), ("token", .string token)]
  syncStatus := none
  userNotes := ""

def sampleSystem : SystemInfo where
  platform := "linux-x86_64"
  os := "linux"
  arch := "x86_64"
  family := "unix"

def reportedFiles (run : ReportedRun) : List DiagnosticBundleFile :=
  buildDiagnosticBundle sampleSystem (fun _ => "") run.input Crates.epoch

theorem bundle_shares_nothing_iff_token :
    reportedFiles (reportedRun "1 Main Street" "radio" "first") =
      reportedFiles (reportedRun "1 Main Street" "radio" "second") := by
  have hLogs : ∀ hides : String → Bool,
      ReportedRun.LogsAlikeBut hides (reportedRun "1 Main Street" "radio" "first")
        (reportedRun "1 Main Street" "radio" "second") := by
    intro hides index
    unfold reportedRun
    dsimp only
    split
    · refine .some (.cons ⟨rfl, ?_⟩ .nil)
      simp [optionsAgreeBut, agreesBut, fieldsAgreeBut]
    · exact .none
  refine (bundle_shares_nothing_iff sampleSystem _ _ ⟨rfl, hLogs _, .nil, ?_, rfl⟩).mpr
    ⟨hLogs _, ?_, fun hSync => ?_⟩
  · decide +kernel
  · decide +kernel
  · cases hSync

theorem home_address_shared :
    (reportedRun "1 Main Street" "radio" "token").DifferHidden
        (reportedRun "2 Main Street" "radio" "token") ∧
      reportedFiles (reportedRun "1 Main Street" "radio" "token") ≠
        reportedFiles (reportedRun "2 Main Street" "radio" "token") := by
  refine ⟨⟨rfl, fun index => ?_, .nil, by decide +kernel, rfl⟩, by decide +kernel⟩
  unfold reportedRun
  dsimp only
  split
  · exact .some (.cons ⟨rfl, by decide +kernel⟩ .nil)
  · exact .none

end Bundle

end HamLogger
