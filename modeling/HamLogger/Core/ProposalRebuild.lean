import HamLogger.Core.Crates
import HamLogger.Core.EmCommReadability
import HamLogger.Core.NetReadability
import HamLogger.Core.ProposalRuns

/-! What the projections need of the events that proposals lead to, against
what the schema checks demand. The contacts, the activations and the nets
always get what they need; the incident records get it where the identifiers
in the payload are identifiers, which the checks do not ask. -/
namespace HamLogger

open InMemoryLogbookEventStore
open Projection (Rebuilds)
open Replay (Accepted accepted_snoc)
open Transition (Run)

/-- An assignment to one field keeps the others. -/
theorem Value.get_set_of_ne {payload result new : Value} {key other : String} (hNe : other ≠ key)
    (h : payload.set key new = some result) : result.get other = payload.get other := by
  cases payload with
  | null =>
      obtain rfl := Option.some.inj h
      rw [Value.get_object, Fields.get_insert_of_ne hNe]
      rfl
  | object fields =>
      obtain rfl := Option.some.inj h
      rw [Value.get_object, Fields.get_insert_of_ne hNe]
      rfl
  | _ => cases h

section Conditions
variable [UuidCrate]

/-- The identifiers that the incident records read from the payload are
identifiers. Only the correction of a person looks at the events before it. -/
def NamesIdentifiers (seen : List CoreEventEnvelope) (proposal : ProposalEnvelope) : Prop :=
  match proposal.proposalType with
  | .emcommPeriodOpen | .emcommMessageCreate =>
      (uuidField proposal.payload "incident_id").isSome = true
  | .emcommPersonCheckIn | .emcommActivityLog =>
      (uuidField proposal.payload "incident_id").isSome = true ∧
        OptionalUuidField proposal.payload "period_id"
  | .emcommPersonUpdate =>
      ∀ id, proposal.entityId = some id → CreatedEarlier [.emcommPersonCheckedIn] seen id →
        OptionalUuidField proposal.payload "period_id"
  | .emcommAssignmentCreate =>
      (uuidField proposal.payload "incident_id").isSome = true ∧
        (uuidField proposal.payload "person_id").isSome = true
  | _ => True

theorem uuidField_congr {payload other : Value} {key : String}
    (h : payload.get key = other.get key) : uuidField payload key = uuidField other key := by
  rw [uuidField, uuidField, h]

variable {S : Type} [LogbookEventStore S] {store : S} {proposal : ProposalEnvelope}
  {payload : Fields}

theorem optionalUuidField_congr {payload other : Value} {key : String}
    (h : payload.get key = other.get key) :
    OptionalUuidField payload key ↔ OptionalUuidField other key := by
  rw [OptionalUuidField, OptionalUuidField, h, uuidField_congr h]

/-- A check-in or traffic proposal that passes names its session. -/
theorem session_named {purpose : String}
    (h : requireActiveSessionOfPayload store proposal payload purpose = .ok ()) :
    (uuidField (.object payload) "net_session_id").isSome = true := by
  obtain ⟨id, hId, _⟩ := (except_bind_eq_ok_iff ..).mp h
  unfold netSessionIdFromPayload at hId
  split at hId
  · rename_i found hFound
    rw [hFound]
    rfl
  · cases hId

variable [ChronoCrate]

theorem checkin_names_session (hType : proposal.proposalType = .netCheckinCreate)
    (h : validatePayload store proposal payload = .ok ()) :
    (uuidField (.object payload) "net_session_id").isSome = true := by
  unfold validatePayload at h
  rw [hType] at h
  obtain ⟨_, hSession, _⟩ := (except_bind_eq_ok_iff ..).mp h
  exact session_named hSession

theorem traffic_names_session (hType : proposal.proposalType = .netTrafficCreate)
    (h : validatePayload store proposal payload = .ok ()) :
    (uuidField (.object payload) "net_session_id").isSome = true := by
  unfold validatePayload at h
  rw [hType] at h
  obtain ⟨_, hSession, _⟩ := (except_bind_eq_ok_iff ..).mp h
  exact session_named hSession

/-- A message proposal that passes has a message number that parses. -/
theorem message_numbered (hType : proposal.proposalType = .emcommMessageCreate)
    (h : validatePayload store proposal payload = .ok ()) :
    MessageNumberField (.object payload) := by
  unfold validatePayload at h
  rw [hType] at h
  obtain ⟨_, _, hRest⟩ := (except_bind_eq_ok_iff ..).mp h
  obtain ⟨_, hNumber, _⟩ := (except_bind_eq_ok_iff ..).mp hRest
  unfold validateMessageNumber at hNumber
  split at hNumber
  · rename_i number hParse
    cases hText : (payload.get "message_number").bind Value.asStr with
    | none =>
        rw [hText] at hParse
        cases hParse
    | some text =>
        rw [hText] at hParse
        exact ⟨text, number, hText, hParse⟩
  · cases hNumber

/-- A correction of a person that passes names the person. -/
theorem person_named (hType : proposal.proposalType = .emcommPersonUpdate)
    (h : validatePayload store proposal payload = .ok ()) :
    ∃ id, proposal.entityId = some id := by
  unfold validatePayload at h
  rw [hType] at h
  obtain ⟨id, hId, _⟩ := (except_bind_eq_ok_iff ..).mp h
  unfold requireEntityId at hId
  split at hId
  · rename_i named hNamed
    exact ⟨named, hNamed⟩
  · cases hId

end Conditions

section Official
variable [UuidCrate] {proposal : ProposalEnvelope} {newEvent : NewLogbookEvent}

/-- Every field of the payload but the identifier of the entity is as the
proposal has it. -/
theorem IsOfficialEventOf.field (h : IsOfficialEventOf proposal newEvent) {key : String}
    (hKey : key ≠ entityKey proposal.proposalType) :
    newEvent.payload.get key = proposal.payload.get key ∧
      uuidField newEvent.payload key = uuidField proposal.payload key := by
  obtain ⟨id, _, _, hSet⟩ := h.entity
  have hGet := Value.get_set_of_ne hKey hSet
  exact ⟨hGet, uuidField_congr hGet⟩

variable [ChronoCrate] {S : Type} [LogbookEventStore S] {store : S} {context : ProposalContext}
  {fresh : Uuid}

/-- A check-in or traffic event that is accepted names its session. -/
theorem Accepts.session (h : Accepts store context proposal fresh newEvent)
    (hType : newEvent.eventType = .netCheckinCreated ∨ newEvent.eventType = .netTrafficCreated) :
    (uuidField newEvent.payload "net_session_id").isSome = true := by
  have hOfficial := toOfficialEvent_ok h.official
  obtain ⟨creates, hEvent⟩ := hOfficial.eventType
  obtain ⟨_, payload, hPayload, hValid⟩ := validateQsoSchema_ok h.valid
  rcases hType with hCheckin | hTraffic
  · have hProposal : proposal.proposalType = .netCheckinCreate := by
      rw [hCheckin] at hEvent
      cases hProposal : proposal.proposalType <;> simp_all [officialEventType]
    have hKey : "net_session_id" ≠ entityKey proposal.proposalType := by
      rw [hProposal]
      decide
    rw [(hOfficial.field hKey).2, hPayload]
    exact checkin_names_session hProposal hValid
  · have hProposal : proposal.proposalType = .netTrafficCreate := by
      rw [hTraffic] at hEvent
      cases hProposal : proposal.proposalType <;> simp_all [officialEventType]
    have hKey : "net_session_id" ≠ entityKey proposal.proposalType := by
      rw [hProposal]
      decide
    rw [(hOfficial.field hKey).2, hPayload]
    exact traffic_names_session hProposal hValid

/-- The contacts, the activations and the nets can read the official event of
every proposal that passes the checks. -/
theorem Accepts.readable [CanonicalJson] [Sha2Crate]
    (h : Accepts store context proposal fresh newEvent) (seen : List CoreEventEnvelope)
    (previousHash : Option String) (stamp : EventStamp) :
    Readable seen (.fromNew newEvent previousHash stamp) := by
  obtain ⟨entity, _, _, hSet⟩ := (toOfficialEvent_ok h.official).entity
  have hObject : newEvent.payload.isObject = true := Value.isObject_of_set hSet
  have hIndexable := Value.isIndexable_of_isObject hObject
  intro id _
  refine ⟨?_, fun _ => hObject⟩
  unfold CreationReadable
  rw [CoreEventEnvelope.fromNew_eventType, CoreEventEnvelope.fromNew_payload]
  split
  · exact hIndexable
  · exact hIndexable
  · exact hIndexable
  · exact hIndexable
  · exact hIndexable
  · rename_i hType
    exact h.session (Or.inl hType)
  · rename_i hType
    exact h.session (Or.inr hType)
  · trivial

/-- The incident records read from the official event what the proposal has
in its place, and ask for more than the checks do. -/
theorem Accepts.fieldsReadable_iff (h : Accepts store context proposal fresh newEvent)
    (seen : List CoreEventEnvelope) {id : Uuid} (hId : newEvent.entityId = some id) :
    FieldsReadable seen newEvent.eventType newEvent.payload id ↔
      NamesIdentifiers seen proposal := by
  have hOfficial := toOfficialEvent_ok h.official
  obtain ⟨creates, hEvent⟩ := hOfficial.eventType
  obtain ⟨_, payload, hPayload, hValid⟩ := validateQsoSchema_ok h.valid
  have hField : ∀ key, key ≠ entityKey proposal.proposalType →
      newEvent.payload.get key = proposal.payload.get key ∧
        uuidField newEvent.payload key = uuidField proposal.payload key :=
    fun key hKey => hOfficial.field hKey
  have hOptional : ∀ key, key ≠ entityKey proposal.proposalType →
      (OptionalUuidField newEvent.payload key ↔ OptionalUuidField proposal.payload key) :=
    fun key hKey => optionalUuidField_congr (hField key hKey).1
  unfold NamesIdentifiers
  cases hProposal : proposal.proposalType with
  | emcommPeriodOpen =>
      rw [hProposal] at hEvent hField
      obtain ⟨hType, _⟩ := Prod.mk.inj (Option.some.inj hEvent)
      rw [← hType, FieldsReadable, (hField "incident_id" (by decide)).2]
  | emcommMessageCreate =>
      have hNumber : MessageNumberField proposal.payload := by
        rw [hPayload]
        exact message_numbered hProposal hValid
      rw [hProposal] at hEvent hField
      obtain ⟨hType, _⟩ := Prod.mk.inj (Option.some.inj hEvent)
      rw [← hType, FieldsReadable, (hField "incident_id" (by decide)).2, MessageNumberField,
        (hField "message_number" (by decide)).1]
      exact and_iff_left hNumber
  | emcommPersonCheckIn | emcommActivityLog =>
      rw [hProposal] at hEvent hField hOptional
      obtain ⟨hType, _⟩ := Prod.mk.inj (Option.some.inj hEvent)
      rw [← hType, FieldsReadable, (hField "incident_id" (by decide)).2,
        hOptional "period_id" (by decide)]
  | emcommPersonUpdate =>
      obtain ⟨named, hNamed⟩ := person_named hProposal hValid
      obtain ⟨entity, hEntity, hSame, _⟩ := hOfficial.entity
      have hPerson : proposal.entityId = some id := by
        rw [hNamed, ← hSame named hNamed, ← hEntity, hId]
      rw [hProposal] at hEvent hOptional
      obtain ⟨hType, _⟩ := Prod.mk.inj (Option.some.inj hEvent)
      rw [← hType, FieldsReadable, hOptional "period_id" (by decide), hPerson]
      simp
  | emcommAssignmentCreate =>
      rw [hProposal] at hEvent hField
      obtain ⟨hType, _⟩ := Prod.mk.inj (Option.some.inj hEvent)
      rw [← hType, FieldsReadable, (hField "incident_id" (by decide)).2,
        (hField "person_id" (by decide)).2]
  | other text unknown =>
      rw [hProposal] at hEvent
      cases hEvent
  | _ =>
      rw [hProposal] at hEvent
      obtain ⟨hType, _⟩ := Prod.mk.inj (Option.some.inj hEvent)
      rw [← hType]
      exact Iff.rfl

/-- The incident records can read the official event of a proposal that passes
the checks exactly when the proposal names identifiers. -/
theorem Accepts.emCommReadable_iff [CanonicalJson] [Sha2Crate]
    (h : Accepts store context proposal fresh newEvent) (seen : List CoreEventEnvelope)
    (previousHash : Option String) (stamp : EventStamp) :
    EmCommReadable seen (.fromNew newEvent previousHash stamp) ↔
      NamesIdentifiers seen proposal := by
  obtain ⟨entity, hEntity, _, hSet⟩ := (toOfficialEvent_ok h.official).entity
  have hObject : newEvent.payload.isObject = true := Value.isObject_of_set hSet
  have hFields := h.fieldsReadable_iff seen hEntity
  constructor
  · intro hReadable
    by_cases hEmComm : newEvent.eventType.isEmComm = true
    · exact hFields.mp (hReadable entity hEntity hEmComm).2
    · refine hFields.mp ?_
      unfold FieldsReadable
      split <;> simp_all [EventType.isEmComm]
  · intro hNames id hId _
    exact ⟨hObject, (h.fieldsReadable_iff seen hId).mpr hNames⟩

end Official

section Runs
variable {B : Type} [EventBus B] [UuidCrate] [ChronoCrate] [RustFmt] [CanonicalJson] [Sha2Crate]

/-- Every event of the logbook can be read by all projections. -/
def LogReadable (logbookId : Uuid) (store : InMemoryLogbookEventStore) : Prop :=
  store.Consistent ∧ Accepted (fun seen event => Readable seen event ∧ EmCommReadable seen event)
    (store.listEvents logbookId)

/-- If the submission is accepted into the logbook, it names identifiers. -/
def SubmitsIdentifiers (logbookId : Uuid) (state : InMemoryLogbookEventStore × B)
    (call : SubmitCall) : Prop :=
  call.proposal.logbookId = logbookId →
    (∃ newEvent, Accepts state.1 call.context call.proposal call.stamp.freshEntityId newEvent) →
    NamesIdentifiers (state.1.listEvents logbookId) call.proposal

/-- One submission that names identifiers keeps the logbook readable. -/
theorem LogReadable.step {logbookId : Uuid} {state next : InMemoryLogbookEventStore × B}
    {call : SubmitCall} (h : LogReadable logbookId state.1)
    (hNames : SubmitsIdentifiers logbookId state call)
    (hStep : (proposalSystem B).step state call next) : LogReadable logbookId next.1 := by
  obtain ⟨hConsistent, hReadable⟩ := h
  obtain ⟨hNext, hSame | ⟨newEvent, hAccepts, hLogbook, hMore⟩⟩ :=
    listEvents_step hConsistent hStep logbookId
  · refine ⟨hNext, ?_⟩
    rw [hSame]
    exact hReadable
  · refine ⟨hNext, ?_⟩
    rw [hMore, accepted_snoc]
    refine ⟨hReadable, hAccepts.readable _ _ _, (hAccepts.emCommReadable_iff _ _ _).mpr ?_⟩
    exact hNames hLogbook ⟨newEvent, hAccepts⟩

/-- As long as every accepted proposal names identifiers, all projections of
the logbook can be rebuilt after every submission. -/
theorem proposals_keep_rebuilds {logbookId : Uuid} {start : InMemoryLogbookEventStore} {bus : B}
    {calls : List SubmitCall} {final : InMemoryLogbookEventStore × B} (hStart : start.Consistent)
    (hEmpty : start.listEvents logbookId = [])
    (run : Run ((proposalSystem B).restrict (SubmitsIdentifiers logbookId)) (start, bus) calls
      final) :
    Rebuilds QsoCurrentStateProjection (final.1.listEvents logbookId) ∧
      Rebuilds ActivationProjection (final.1.listEvents logbookId) ∧
      Rebuilds NetControlProjection (final.1.listEvents logbookId) ∧
      Rebuilds EmCommProjection (final.1.listEvents logbookId) := by
  have hReadable : LogReadable logbookId final.1 := by
    refine run.invariant (P := fun state => LogReadable logbookId state.1) ?_ ?_
    · intro state call next h hStep
      exact h.step hStep.1 hStep.2
    · exact ⟨hStart, by rw [hEmpty]; exact Replay.accepted_nil _⟩
  obtain ⟨hOthers, hEmComm⟩ := (Replay.accepted_and _ _ _).mp hReadable.2
  obtain ⟨hQso, hActivation, hNet⟩ := (rebuilds_iff_readable _).mpr hOthers
  exact ⟨hQso, hActivation, hNet, (rebuilds_emcomm_iff _).mpr hEmComm⟩

end Runs

open scoped Crates in
theorem proposals_keep_rebuilds_incident :
    let call : SubmitCall :=
      { context := .localAdmin (Crates.sampleManifest .emCommIncidentManage) .admin
        proposal := Crates.sampleProposal .emcommIncidentOpen 1 (some 2)
          (.object [("incident_name", .string "flood"), ("opened_at", .string "")])
        stamp := { freshEntityId := 3, event := Crates.sampleStamp 4 } }
    let start : InMemoryLogbookEventStore × InMemoryEventBus := ({}, { receiverCount := 0 })
    ∃ final, Run ((proposalSystem InMemoryEventBus).restrict (SubmitsIdentifiers 1)) start [call]
        final ∧
      Rebuilds QsoCurrentStateProjection (final.1.listEvents 1) ∧
      Rebuilds ActivationProjection (final.1.listEvents 1) ∧
      Rebuilds NetControlProjection (final.1.listEvents 1) ∧
      Rebuilds EmCommProjection (final.1.listEvents 1) := by
  intro call start
  have hStep : ((proposalSystem InMemoryEventBus).restrict (SubmitsIdentifiers 1)).step start call
      ((submitProposal call.context call.proposal call.stamp).execute start).1 :=
    ⟨fun _ _ => trivial, rfl, rfl⟩
  exact ⟨_, Run.single hStep,
    proposals_keep_rebuilds ⟨[], represents_empty⟩ rfl (Run.single hStep)⟩

open scoped Crates in
/-- A period that names no incident is accepted, and the incident records of
the logbook can no longer be rebuilt. -/
theorem period_of_no_incident_blocks_rebuild :
    let call : SubmitCall :=
      { context := .localAdmin (Crates.sampleManifest .emCommPeriodManage) .admin
        proposal := Crates.sampleProposal .emcommPeriodOpen 1 (some 2)
          (.object [("incident_id", .string "flood"), ("period_number", .string "1"),
            ("started_at", .string "")])
        stamp := { freshEntityId := 3, event := Crates.sampleStamp 4 } }
    let start : InMemoryLogbookEventStore × InMemoryEventBus := ({}, { receiverCount := 0 })
    ∃ final, Run (proposalSystem InMemoryEventBus) start [call] final ∧
      ¬Rebuilds EmCommProjection (final.1.listEvents 1) := by
  intro call start
  have hStep : (proposalSystem InMemoryEventBus).step start call
      ((submitProposal call.context call.proposal call.stamp).execute start).1 := ⟨rfl, rfl⟩
  refine ⟨_, Run.single hStep, fun hRebuilds => ?_⟩
  rcases proposalSystem_cases hStep with hSame | ⟨newEvent, hAccepts, hNext⟩
  · have hHeld : start.1.getEvent 4 ≠ none := by
      rw [← hSame]
      intro hNone
      cases hNone
    exact hHeld rfl
  · have hLogbook : newEvent.logbookId = 1 := (toOfficialEvent_ok hAccepts.official).logbook
    have hStored : (start.1.insertEvent
        (officialEventAt start.1 newEvent call.stamp.event)).Represents _ :=
      represents_empty.insertEvent rfl
    have hList : ofLogbook ([] ++ [officialEventAt start.1 newEvent call.stamp.event]) 1 =
        [officialEventAt start.1 newEvent call.stamp.event] :=
      ofLogbook_self fun event hMem => by
        obtain rfl := List.mem_singleton.mp hMem
        exact hLogbook
    rw [hNext, hStored.listEvents, hList, rebuilds_emcomm_iff] at hRebuilds
    have hNames := (hAccepts.emCommReadable_iff [] _ _).mp (hRebuilds [] _ [] rfl)
    cases hNames

namespace Crates

/-- A submission to the first logbook by an operator with full rights, for a
plugin that holds one permission. -/
def sampleSubmit (proposalType : ProposalType) (capability : PluginCapability) (entityId : Uuid)
    (payload : Fields) (eventId : Uuid) : SubmitCall where
  context := .localAdmin (sampleManifest capability) .admin
  proposal := sampleProposal proposalType 1 (some entityId) (.object payload)
  stamp := { freshEntityId := 3, event := sampleStamp eventId }

def emptyLogbooks : InMemoryLogbookEventStore × InMemoryEventBus :=
  ({}, { receiverCount := 1 })

end Crates
end HamLogger
