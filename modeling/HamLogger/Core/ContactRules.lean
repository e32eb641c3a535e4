import HamLogger.Core.ProposalRebuild
import HamLogger.Core.RecordLedgers

/-! What the payload of a contact must be like to be created, and which
corrections keep it so. The check of a correction asks for less: it looks at
the frequency and at nothing else. -/
namespace HamLogger

open Projection (rebuild)
open Replay (Accepted)
open Transition (Run)

/-- The fields of an object have distinct names, as in the map behind it. -/
def Value.DistinctFields (value : Value) : Prop :=
  ∀ fields, value.asObject = some fields → (fields.map Prod.fst).Nodup

theorem Fields.get_eq_none {fields : Fields} {key : String} (h : key ∉ fields.map Prod.fst) :
    fields.get key = none := by
  induction fields with
  | nil => rfl
  | cons field rest ih =>
      obtain ⟨name, value⟩ := field
      simp only [List.map_cons, List.mem_cons, not_or] at h
      rw [Fields.get, if_neg h.1]
      exact ih h.2

/-- A merged field is that of the patch, or else that of the target. -/
theorem Fields.get_mergeFields {patch : Fields} (h : (patch.map Prod.fst).Nodup)
    (target : Fields) (key : String) :
    Fields.get (Value.mergeFields target patch) key = (patch.get key).or (target.get key) := by
  induction patch generalizing target with
  | nil => rfl
  | cons field rest ih =>
      obtain ⟨name, value⟩ := field
      obtain ⟨hFresh, hRest⟩ := List.nodup_cons.mp h
      have hMerge : Value.mergeFields target ((name, value) :: rest) =
          Value.mergeFields (target.insert name value) rest := rfl
      rw [hMerge, ih hRest, Fields.get]
      by_cases hSame : key = name
      · rw [hSame, if_pos rfl, Fields.get_eq_none hFresh, Fields.get_insert_self]
        rfl
      · rw [if_neg hSame, Fields.get_insert_of_ne hSame]

theorem get_mergedWith {target patch : Value} (h : patch.DistinctFields) (key : String) :
    (mergedWith target patch).get key = (patch.get key).or (target.get key) := by
  rw [mergedWith, Value.get_object]
  cases hPatch : patch.asObject with
  | none =>
      cases hTarget : target.asObject <;>
        simp [Value.get, hPatch, hTarget, Value.mergeFields, Fields.get]
  | some fields =>
      rw [Option.getD_some, Fields.get_mergeFields (h fields hPatch)]
      cases hTarget : target.asObject <;> simp [Value.get, hPatch, hTarget, Fields.get]

/-- The fields of a contact that must be strings. -/
def contactNames : List String :=
  ["contacted_callsign", "station_callsign", "mode"]

/-- A field value that is a positive integer. -/
def isFrequency (value : Value) : Bool :=
  value.asU64.any fun hertz => hertz ≠ 0

theorem requireStrings_ok {payload : Fields} {label : String} {keys : List String}
    (h : requireStrings payload label keys = .ok ()) :
    ∀ key ∈ keys, (payload.get key).any Value.isString = true := by
  induction keys with
  | nil => exact fun key hKey => nomatch hKey
  | cons first rest ih =>
      obtain ⟨_, hFirst, hRest⟩ := (except_bind_eq_ok_iff ..).mp h
      intro key hKey
      rcases List.mem_cons.mp hKey with hSame | hMem
      · unfold requireString at hFirst
        split at hFirst
        · next hAny =>
            rw [hSame]
            exact hAny
        · cases hFirst
      · exact ih hRest key hMem

theorem validateFrequency_ok {payload : Fields} (h : validateFrequency payload = .ok ()) :
    (payload.get "frequency_hz").all isFrequency = true := by
  unfold validateFrequency at h
  cases hValue : payload.get "frequency_hz" with
  | none => rfl
  | some value =>
      rw [hValue] at h
      dsimp only at h
      split at h
      · cases h
      · next hertz hHertz =>
          split at h
          · cases h
          · next hPositive => simp [isFrequency, hHertz, hPositive]

section Rules
variable [ChronoCrate]

/-- A field value that is an instant as a string. -/
def isInstant (value : Value) : Bool :=
  (value.asStr.bind ChronoCrate.parseFromRfc3339).isSome

/-- What the check of a new contact demands of its payload. -/
structure ContactRules (payload : Value) : Prop where
  names : ∀ key ∈ contactNames, (payload.get key).any Value.isString = true
  startedAt : (payload.get "started_at").any isInstant = true
  frequency : (payload.get "frequency_hz").all isFrequency = true

/-- What a patch puts in place meets these demands. -/
structure PatchRules (patch : Value) : Prop where
  distinct : patch.DistinctFields
  names : ∀ key ∈ contactNames, (patch.get key).all Value.isString = true
  startedAt : (patch.get "started_at").all isInstant = true

theorem ContactRules.patched {target patch : Value} (h : ContactRules target)
    (hPatch : PatchRules patch)
    (hFrequency : (patch.get "frequency_hz").all isFrequency = true) :
    ContactRules (mergedWith target patch) := by
  have hAny : ∀ key test, (patch.get key).all test = true → (target.get key).any test = true →
      ((mergedWith target patch).get key).any test = true := by
    intro key test hNew hOld
    rw [get_mergedWith hPatch.distinct]
    cases hKey : patch.get key with
    | none => exact hOld
    | some value =>
        rw [hKey] at hNew
        exact hNew
  constructor
  · intro key hKey
    exact hAny key _ (hPatch.names key hKey) (h.names key hKey)
  · exact hAny _ _ hPatch.startedAt h.startedAt
  · rw [get_mergedWith hPatch.distinct]
    cases hKey : patch.get "frequency_hz" with
    | none => exact h.frequency
    | some value =>
        rw [hKey] at hFrequency
        exact hFrequency

/-- The rules do not look at the identifier of the contact. -/
theorem ContactRules.of_get {payload other : Value} (h : ContactRules payload)
    (hGet : ∀ key, key ≠ "qso_id" → other.get key = payload.get key) : ContactRules other := by
  constructor
  · intro key hKey
    have hApart : ∀ name ∈ contactNames, name ≠ "qso_id" := by decide
    rw [hGet key (hApart key hKey)]
    exact h.names key hKey
  · rw [hGet _ (by decide)]
    exact h.startedAt
  · rw [hGet _ (by decide)]
    exact h.frequency

/-- Assigning the identifier of the contact changes none of the fields. -/
theorem ContactRules.set {payload assigned id : Value} (h : ContactRules payload)
    (hSet : payload.set "qso_id" id = some assigned) : ContactRules assigned :=
  h.of_get fun _ hKey => Value.get_set_of_ne hKey hSet

theorem validateStartedAt_ok {payload : Fields} (h : validateStartedAt payload = .ok ()) :
    (payload.get "started_at").any isInstant = true := by
  unfold validateStartedAt validateTime at h
  split at h
  · cases h
  · next text hText =>
      split at h
      · cases h
      · next instant hInstant =>
          obtain ⟨value, hValue, hString⟩ := Option.bind_eq_some_iff.mp hText
          simp [hValue, isInstant, hString, hInstant]

variable [UuidCrate] {S : Type} [LogbookEventStore S] {store : S} {context : ProposalContext}
  {proposal : ProposalEnvelope} {fresh : Uuid} {newEvent : NewLogbookEvent}

/-- A contact that is created meets the rules. -/
theorem Accepts.contactRules (h : Accepts store context proposal fresh newEvent)
    (hType : newEvent.eventType = .qsoCreated) : ContactRules newEvent.payload := by
  have hOfficial := toOfficialEvent_ok h.official
  obtain ⟨creates, hEvent⟩ := hOfficial.eventType
  have hProposal : proposal.proposalType = .qsoCreate := by
    rw [hType] at hEvent
    cases hProposal : proposal.proposalType <;> simp_all [officialEventType]
  obtain ⟨_, payload, hPayload, hValid⟩ := validateQsoSchema_ok h.valid
  obtain ⟨id, _, _, hSet⟩ := hOfficial.entity
  rw [hProposal, hPayload] at hSet
  unfold validatePayload at hValid
  rw [hProposal] at hValid
  obtain ⟨_, hStrings, hRest⟩ := (except_bind_eq_ok_iff ..).mp hValid
  obtain ⟨_, hStarted, hFrequency⟩ := (except_bind_eq_ok_iff ..).mp hRest
  have hRules : ContactRules (.object payload) := by
    refine ⟨fun key hKey => ?_, validateStartedAt_ok hStarted, validateFrequency_ok hFrequency⟩
    refine requireStrings_ok hStrings key ?_
    revert hKey
    simp only [contactNames, List.mem_cons]
    tauto
  exact hRules.set hSet

/-- A correction has a frequency that is positive, if it has one. -/
theorem Accepts.correctedFrequency (h : Accepts store context proposal fresh newEvent)
    (hType : newEvent.eventType = .qsoCorrected) :
    (newEvent.payload.get "frequency_hz").all isFrequency = true := by
  have hOfficial := toOfficialEvent_ok h.official
  obtain ⟨creates, hEvent⟩ := hOfficial.eventType
  have hProposal : proposal.proposalType = .qsoCorrect := by
    rw [hType] at hEvent
    cases hProposal : proposal.proposalType <;> simp_all [officialEventType]
  obtain ⟨_, payload, hPayload, hValid⟩ := validateQsoSchema_ok h.valid
  unfold validatePayload at hValid
  rw [hProposal] at hValid
  obtain ⟨_, _, hRest⟩ := (except_bind_eq_ok_iff ..).mp hValid
  split at hRest
  · cases hRest
  · rw [(hOfficial.field (by rw [hProposal]; decide)).1, hPayload]
    exact validateFrequency_ok hRest

end Rules

section Events
variable [UuidCrate] [ChronoCrate]

/-- Corrections put nothing in place that could not have been created. -/
def CorrectsByRules (_ : List CoreEventEnvelope) (newEvent : NewLogbookEvent) : Prop :=
  newEvent.eventType = .qsoCorrected → PatchRules newEvent.payload

/-- What such a logbook has in its creations and corrections. -/
structure ContactEventRules (event : CoreEventEnvelope) : Prop where
  created : event.eventType = .qsoCreated → ContactRules event.payload
  corrected : event.eventType = .qsoCorrected → PatchRules event.payload ∧
    (event.payload.get "frequency_hz").all isFrequency = true

/-- One event that is so keeps every contact within the rules. -/
theorem contactRules_apply {projection next : QsoCurrentStateProjection}
    {event : CoreEventEnvelope} (hEvent : ContactEventRules event)
    (h : projection.apply event = .ok next)
    (hPrior : ∀ id contents, projection.contents id = some contents →
      ContactRules contents.payload) :
    ∀ id contents, next.contents id = some contents → ContactRules contents.payload := by
  intro id contents hContents
  rw [QsoCurrentStateProjection.contents_apply h] at hContents
  unfold Ledger.replace at hContents
  split at hContents
  · next created hCreated =>
      obtain rfl := Option.some.inj hContents
      unfold contactLedger entityLedger at hCreated
      dsimp only at hCreated
      split at hCreated
      · next hType =>
          obtain ⟨payload, hSet, rfl⟩ := Option.map_eq_some_iff.mp hCreated
          exact (hEvent.created (List.mem_singleton.mp hType.2)).set hSet
      · cases hCreated
  · obtain ⟨old, hOld, rfl⟩ := Option.map_eq_some_iff.mp hContents
    have hRules := hPrior id old hOld
    unfold contactLedger entityLedger
    dsimp only
    split
    · next hType =>
        split
        · exact hRules
        · next hNote =>
            have hCorrected : event.eventType = .qsoCorrected := by
              have hMem := hType.2
              simp only [List.mem_cons, hNote, List.not_mem_nil, or_false] at hMem
              exact hMem
            obtain ⟨hPatch, hFrequency⟩ := hEvent.corrected hCorrected
            exact hRules.patched hPatch hFrequency
    · exact hRules

end Events

section Runs
variable {B : Type} [EventBus B] [UuidCrate] [ChronoCrate] [RustFmt] [CanonicalJson] [Sha2Crate]

/-- As long as every accepted correction puts in place only what could have
been created, so does every contact of the logbook, whatever is submitted. -/
theorem contacts_keep_rules {logbookId : Uuid} {start : InMemoryLogbookEventStore} {bus : B}
    {calls : List SubmitCall} {final : InMemoryLogbookEventStore × B} (hStart : start.Consistent)
    (hEmpty : start.listEvents logbookId = [])
    (run : Run ((proposalSystem B).restrict (AcceptsOnly logbookId CorrectsByRules)) (start, bus)
      calls final) :
    ∃ projection, rebuild QsoCurrentStateProjection (final.1.listEvents logbookId) =
        .ok projection ∧
      ∀ id record, projection.get id = some record → ContactRules record.payload := by
  have hEvents : Accepted (fun seen event => Readable seen event ∧ ContactEventRules event)
      (final.1.listEvents logbookId) := by
    refine (accepted_run ?_ run hStart (by rw [hEmpty]; exact Replay.accepted_nil _)).2
    intro store context proposal fresh newEvent stamp hAccepts _ hCorrects
    refine ⟨hAccepts.readable _ _ _, ?_, ?_⟩
    · rw [officialEventAt, CoreEventEnvelope.fromNew_eventType,
        CoreEventEnvelope.fromNew_payload]
      exact hAccepts.contactRules
    · rw [officialEventAt, CoreEventEnvelope.fromNew_eventType,
        CoreEventEnvelope.fromNew_payload]
      exact fun hType => ⟨hCorrects hType, hAccepts.correctedFrequency hType⟩
  obtain ⟨hReadable, hRules⟩ := (Replay.accepted_and _ _ _).mp hEvents
  obtain ⟨projection, hRebuild⟩ := ((rebuilds_iff_readable _).mpr hReadable).1
  refine ⟨projection, hRebuild, ?_⟩
  have hKept : ∀ id contents, projection.contents id = some contents →
      ContactRules contents.payload := by
    refine Replay.replay_invariant (fun _ projection =>
      ∀ id contents, projection.contents id = some contents → ContactRules contents.payload)
      ?_ [] ?_ hRules hRebuild
    · intro seen projection event next hEvent hPrior hNext
      exact contactRules_apply hEvent hNext hPrior
    · intro id contents hNone
      cases hNone
  intro id record hRecord
  have hLookup := (Option.filter_eq_some_iff.mp hRecord).1
  exact hKept id record.contents (by rw [QsoCurrentStateProjection.contents, hLookup]; rfl)

end Runs

section
open Crates

/-- A contact is created with every field that it needs. -/
def sampleContact : SubmitCall :=
  sampleSubmit .qsoCreate .qsoCreate 2
    [("contacted_callsign", .string "W1AW"), ("mode", .string "CW"),
      ("started_at", .string "2026-07-06T12:00:00Z"), ("station_callsign", .string "KE8YGW")] 4

/-- A correction of its mode. -/
def sampleCorrection (mode : Value) : SubmitCall :=
  sampleSubmit .qsoCorrect .qsoCorrect 2 [("mode", mode)] 5

theorem contacts_keep_rules_corrected :
    ∃ projection, rebuild QsoCurrentStateProjection
        (([sampleContact, sampleCorrection (.string "SSB")].foldl afterSubmission
          emptyLogbooks).1.listEvents 1) = .ok projection ∧
      ∀ id record, projection.get id = some record → ContactRules record.payload := by
  have hCreate : AcceptsOnly 1 CorrectsByRules emptyLogbooks sampleContact := by
    intro _ newEvent hAccepts hType
    obtain ⟨creates, hEvent⟩ := (toOfficialEvent_ok hAccepts.official).eventType
    rw [hType] at hEvent
    cases hEvent
  have hCorrect : AcceptsOnly 1 CorrectsByRules (afterSubmission emptyLogbooks sampleContact)
      (sampleCorrection (.string "SSB")) := by
    intro _ newEvent hAccepts _
    rw [← Except.ok.inj hAccepts.official]
    constructor
    · intro fields hFields
      rw [← Option.some.inj hFields]
      decide
    · decide +kernel
    · decide +kernel
  exact contacts_keep_rules ⟨[], InMemoryLogbookEventStore.represents_empty⟩ rfl
    (SubmitsOnly.run ⟨hCreate, rfl, hCorrect, by decide +kernel, trivial⟩)

/-- A correction takes the mode of a contact away. -/
theorem corrected_mode_is_no_string :
    ∃ final, Run (proposalSystem InMemoryEventBus) emptyLogbooks
        [sampleContact, sampleCorrection .null] final ∧
      ∃ projection, rebuild QsoCurrentStateProjection (final.1.listEvents 1) = .ok projection ∧
        ∃ record, projection.get 2 = some record ∧ ¬ ContactRules record.payload := by
  have hRun : SubmitsOnly (fun _ _ => True) emptyLogbooks [sampleContact, sampleCorrection .null] :=
    ⟨trivial, rfl, trivial, by decide +kernel, trivial⟩
  refine ⟨_, hRun.run.of_restrict, ?_⟩
  have hMode : ∃ record, ((rebuild QsoCurrentStateProjection
      (([sampleContact, sampleCorrection .null].foldl afterSubmission
        emptyLogbooks).1.listEvents 1)).toOption.bind fun projection => projection.get 2) =
      some record ∧ (record.payload.get "mode").any Value.isString = false := by
    refine ⟨_, rfl, ?_⟩
    decide +kernel
  obtain ⟨record, hRecord, hMode⟩ := hMode
  obtain ⟨projection, hProjection, hFound⟩ := Option.bind_eq_some_iff.mp hRecord
  have hRebuilt := (except_toOption_eq_some_iff ..).mp hProjection
  refine ⟨projection, hRebuilt, record, hFound, fun hRules => ?_⟩
  rw [hRules.names "mode" (by decide)] at hMode
  cases hMode

end
end HamLogger
