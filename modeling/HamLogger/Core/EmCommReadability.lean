import HamLogger.Core.EmComm
import HamLogger.Core.Readability

/-! When a log can be read back by the incident record projection. Stored
payloads are always objects, so every amendment with an object goes through,
and an event fails exactly on the identifiers and the message number that its
type reads. -/
namespace HamLogger

open Projection (Rebuilds)
open Replay (Decided Accepted)

/-- The message number of a payload parses. -/
def MessageNumberField (payload : Value) : Prop :=
  ∃ text number, (payload.get "message_number").bind Value.asStr = some text ∧
    MessageNumber.parse text = .ok number

theorem payloadMessageNumber_succeeds_iff (payload : Fields) :
    (∃ number, EmCommProjection.payloadMessageNumber payload = .ok number) ↔
      MessageNumberField (.object payload) := by
  unfold EmCommProjection.payloadMessageNumber MessageNumberField
  rw [Value.get_object]
  cases (payload.get "message_number").bind Value.asStr <;> simp

section Conditions
variable [UuidCrate]

/-- An identifier field that may be missing or null. -/
def OptionalUuidField (payload : Value) (key : String) : Prop :=
  payload.get key = none ∨ payload.get key = some .null ∨ (uuidField payload key).isSome = true

theorem requiredUuid_succeeds_iff (payload : Fields) (key : String) :
    (∃ id, requiredUuid payload key = .ok id) ↔
      (uuidField (.object payload) key).isSome = true := by
  unfold requiredUuid uuidField
  rw [Value.get_object]
  cases hText : (payload.get key).bind Value.asStr with
  | none => simp
  | some text => cases hParsed : UuidCrate.parseStr text <;> simp [hParsed]

theorem optionalUuid_succeeds_iff (payload : Fields) (key : String) :
    (∃ id, optionalUuid payload key = .ok id) ↔ OptionalUuidField (.object payload) key := by
  unfold optionalUuid OptionalUuidField uuidField
  rw [Value.get_object]
  cases hField : payload.get key with
  | none => simp
  | some value =>
      cases value with
      | string text => cases hParsed : UuidCrate.parseStr text <;> simp [Value.asStr, hParsed]
      | _ => simp [Value.asStr]

/-- What an event about an entity needs of the fields of its payload. -/
def FieldsReadable (seen : List CoreEventEnvelope) (eventType : EventType) (payload : Value)
    (id : Uuid) : Prop :=
  match eventType with
  | .emcommPeriodOpened => (uuidField payload "incident_id").isSome = true
  | .emcommPersonCheckedIn | .emcommActivityLogged =>
      (uuidField payload "incident_id").isSome = true ∧ OptionalUuidField payload "period_id"
  | .emcommPersonUpdated =>
      CreatedEarlier [.emcommPersonCheckedIn] seen id → OptionalUuidField payload "period_id"
  | .emcommAssignmentCreated =>
      (uuidField payload "incident_id").isSome = true ∧
        (uuidField payload "person_id").isSome = true
  | .emcommMessageCreated =>
      (uuidField payload "incident_id").isSome = true ∧ MessageNumberField payload
  | _ => True

/-- The incident record projection can apply the event after those before it. -/
def EmCommReadable (seen : List CoreEventEnvelope) (event : CoreEventEnvelope) : Prop :=
  ∀ id, event.entityId = some id → event.eventType.isEmComm = true →
    event.payload.isObject = true ∧ FieldsReadable seen event.eventType event.payload id

end Conditions

section Records
variable {Record Status : Type} {records : KeyMap Uuid Record}
  {view : Record → EmCommRecord Status}

/-- Every record of a map has an object as its payload. -/
def HoldsObjects (view : Record → EmCommRecord Status) (records : KeyMap Uuid Record) : Prop :=
  ∀ id record, records.lookup id = some record → (view record).payload.isObject = true

theorem HoldsObjects.empty : HoldsObjects view (∅ : KeyMap Uuid Record) := by
  intro id record h
  simp at h

theorem HoldsObjects.insert (h : HoldsObjects view records) {record : Record}
    (hRecord : (view record).payload.isObject = true) (id : Uuid) :
    HoldsObjects view (records.insert id record) := by
  intro other found hFound
  rw [KeyMap.lookup_insert_eq_ite] at hFound
  split at hFound
  · obtain rfl := Option.some.inj hFound
    exact hRecord
  · exact h other found hFound

/-- An amendment of a record with an object goes through, keeps the keys, and
leaves objects. -/
theorem HoldsObjects.amend (h : HoldsObjects view records) {event : CoreEventEnvelope}
    (hEvent : event.payload.isObject = true) (id : Uuid) (status : Record → Status)
    (place : Record → EmCommRecord Status → Record)
    (hPlace : ∀ record amended, view (place record amended) = amended) :
    ∃ next, records.tryModify id (fun record =>
        ((view record).append event (status record)).map (place record)) = .ok next ∧
      HoldsObjects view next ∧ ∀ other, other ∈ next ↔ other ∈ records := by
  have hChange : ∀ record, (view record).payload.isObject = true →
      ∃ amended, (view record).append event (status record) = .ok amended ∧
        amended.payload.isObject = true :=
    fun record hRecord => EmCommRecord.append_of_isObject hRecord hEvent _
  obtain ⟨next, hNext⟩ := (KeyMap.tryModify_succeeds_iff records id fun record =>
    ((view record).append event (status record)).map (place record)).mpr (by
      intro record hRecord
      obtain ⟨amended, hAmended, _⟩ := hChange record (h id record hRecord)
      exact ⟨place record amended, by rw [hAmended]; rfl⟩)
  refine ⟨next, hNext, ?_, KeyMap.mem_of_tryModify hNext⟩
  intro other found hFound
  rcases KeyMap.lookup_of_tryModify hNext other with ⟨_, hSame⟩ | ⟨rfl, _, hNone⟩ |
    ⟨rfl, old, new, hOld, hNew, hLookup⟩
  · exact h other found (hSame ▸ hFound)
  · rw [hNone] at hFound
    cases hFound
  · obtain rfl : new = found := Option.some.inj (hLookup.symm.trans hFound)
    obtain ⟨amended, hAmended, hObject⟩ := hChange old (h _ old hOld)
    rw [hAmended] at hNew
    obtain rfl := Except.ok.inj hNew
    rw [hPlace]
    exact hObject

end Records

/-- Every stored payload is an object, and the people are those checked in. -/
structure EmCommTracks (seen : List CoreEventEnvelope) (projection : EmCommProjection) : Prop where
  incidents : HoldsObjects IncidentRecord.record projection.incidents
  periods : HoldsObjects OperationalPeriodRecord.record projection.periods
  people : HoldsObjects PersonRecord.record projection.people
  assignments : HoldsObjects AssignmentRecord.record projection.assignments
  messages : HoldsObjects MessageRecord.record projection.messages
  checkedIn : Tracks [.emcommPersonCheckedIn] seen projection.people

theorem emCommTracks_empty : EmCommTracks [] {} where
  incidents := HoldsObjects.empty
  periods := HoldsObjects.empty
  people := HoldsObjects.empty
  assignments := HoldsObjects.empty
  messages := HoldsObjects.empty
  checkedIn := Tracks.empty _

section Steps
variable {seen : List CoreEventEnvelope} {projection : EmCommProjection}
  {event : CoreEventEnvelope}

/-- An event that checks nobody in. -/
theorem EmCommTracks.keep (h : EmCommTracks seen projection)
    (hType : event.eventType ≠ .emcommPersonCheckedIn) :
    EmCommTracks (seen ++ [event]) projection :=
  { h with checkedIn := h.checkedIn.keep (by simpa using hType) fun _ => Iff.rfl }

theorem EmCommTracks.keep_of_no_entity (h : EmCommTracks seen projection)
    (hId : event.entityId = none) : EmCommTracks (seen ++ [event]) projection :=
  { h with checkedIn := h.checkedIn.keep_of_no_entity hId }

section Amend
variable (h : EmCommTracks seen projection) (hEvent : event.payload.isObject = true)
  (hType : event.eventType ≠ .emcommPersonCheckedIn) (id : Uuid)

include h hEvent hType

theorem amendIncident_ok (status : IncidentStatus → IncidentStatus) :
    ∃ next, projection.amendIncident id event status = .ok next ∧
      EmCommTracks (seen ++ [event]) next := by
  obtain ⟨incidents, hAmend, hObjects, _⟩ := h.incidents.amend hEvent id
    (fun incident => status incident.record.status)
    (fun incident record => { incident with record := record }) fun _ _ => rfl
  refine ⟨{ projection with incidents := incidents }, ?_,
    { h.keep hType with incidents := hObjects }⟩
  rw [EmCommProjection.amendIncident, hAmend]
  rfl

theorem amendPeriod_ok (status : OperationalPeriodStatus) :
    ∃ next, projection.amendPeriod id event status = .ok next ∧
      EmCommTracks (seen ++ [event]) next := by
  obtain ⟨periods, hAmend, hObjects, _⟩ := h.periods.amend hEvent id (fun _ => status)
    (fun period record => { period with record := record }) fun _ _ => rfl
  refine ⟨{ projection with periods := periods }, ?_, { h.keep hType with periods := hObjects }⟩
  rw [EmCommProjection.amendPeriod, hAmend]
  rfl

theorem amendPerson_ok (status : PersonStatus → PersonStatus) :
    ∃ next, projection.amendPerson id event status = .ok next ∧
      EmCommTracks (seen ++ [event]) next := by
  obtain ⟨people, hAmend, hObjects, hKeys⟩ := h.people.amend hEvent id
    (fun person => status person.record.status)
    (fun person record => { person with record := record }) fun _ _ => rfl
  have hCheckedIn : Tracks [.emcommPersonCheckedIn] (seen ++ [event]) people :=
    h.checkedIn.keep (by simpa using hType) hKeys
  refine ⟨{ projection with people := people }, ?_,
    { h.keep hType with people := hObjects, checkedIn := hCheckedIn }⟩
  rw [EmCommProjection.amendPerson, hAmend]
  rfl

theorem amendAssignment_ok (status : AssignmentStatus → AssignmentStatus) :
    ∃ next, projection.amendAssignment id event status = .ok next ∧
      EmCommTracks (seen ++ [event]) next := by
  obtain ⟨assignments, hAmend, hObjects, _⟩ := h.assignments.amend hEvent id
    (fun assignment => status assignment.record.status)
    (fun assignment record => { assignment with record := record }) fun _ _ => rfl
  refine ⟨{ projection with assignments := assignments }, ?_,
    { h.keep hType with assignments := hObjects }⟩
  rw [EmCommProjection.amendAssignment, hAmend]
  rfl

theorem amendMessage_ok (status : MessageStatus → MessageStatus)
    (precedence : MessagePrecedence → MessagePrecedence) :
    ∃ next, projection.amendMessage id event status precedence = .ok next ∧
      EmCommTracks (seen ++ [event]) next := by
  obtain ⟨messages, hAmend, hObjects, _⟩ := h.messages.amend hEvent id
    (fun message => status message.record.status)
    (fun message record =>
      { message with record := record, precedence := precedence message.precedence }) fun _ _ => rfl
  refine ⟨{ projection with messages := messages }, ?_, { h.keep hType with messages := hObjects }⟩
  rw [EmCommProjection.amendMessage, hAmend]
  rfl

end Amend

/-- The outcome of a committed call. -/
theorem commit_eq_ok_iff (projection next : EmCommProjection)
    (result : Except EmCommProjectionError EmCommProjection) :
    projection.commit result = (next, .ok ()) ↔ result = .ok next := by
  cases result <;> simp [EmCommProjection.commit]

/-- Two reads in a row succeed when both do. -/
theorem bind_succeeds_iff {ε α β γ : Type} (first : Except ε α) (second : Except ε β)
    (build : α → β → γ) :
    (∃ result, (do let a ← first; let b ← second; return build a b) = .ok result) ↔
      (∃ a, first = .ok a) ∧ ∃ b, second = .ok b := by
  cases first <;> cases second <;> simp [bind, Except.bind, pure, Except.pure]

variable [UuidCrate] {payload : Fields} {id : Uuid}

/-- Correcting a person that is checked in reads the period of the payload. -/
theorem updatePerson_succeeds_iff (h : EmCommTracks seen projection)
    (hPayload : event.payload = .object payload) :
    (∃ next, projection.updatePerson id event payload = (next, .ok ())) ↔
      (CreatedEarlier [.emcommPersonCheckedIn] seen id →
        OptionalUuidField event.payload "period_id") := by
  rw [hPayload, ← optionalUuid_succeeds_iff, ← h.checkedIn id, ← AList.lookup_isSome]
  unfold EmCommProjection.updatePerson
  cases hPerson : projection.people.lookup id with
  | none => simp
  | some person =>
      obtain ⟨record, hAppend, _⟩ := EmCommRecord.append_of_isObject (h.people id person hPerson)
        (by rw [hPayload]; rfl : event.payload.isObject = true) person.record.status
      dsimp only
      rw [hAppend]
      dsimp only
      rcases optionalUuid payload "period_id" with error | ⟨_ | period⟩ <;> simp

theorem updatePerson_tracks (h : EmCommTracks seen projection)
    (hType : event.eventType ≠ .emcommPersonCheckedIn)
    (hPayload : event.payload = .object payload) {next : EmCommProjection}
    (hUpdate : projection.updatePerson id event payload = (next, .ok ())) :
    EmCommTracks (seen ++ [event]) next := by
  unfold EmCommProjection.updatePerson at hUpdate
  cases hPerson : projection.people.lookup id with
  | none =>
      rw [hPerson] at hUpdate
      obtain rfl := (Prod.mk.inj hUpdate).1
      exact h.keep hType
  | some person =>
      obtain ⟨record, hAppend, hObject⟩ := EmCommRecord.append_of_isObject
        (h.people id person hPerson) (by rw [hPayload]; rfl : event.payload.isObject = true)
        person.record.status
      rw [hPerson] at hUpdate
      dsimp only at hUpdate
      rw [hAppend] at hUpdate
      have hPlaced : ∀ updated : PersonRecord, updated.record = record →
          EmCommTracks (seen ++ [event])
            { projection with people := projection.people.insert id updated } := by
        intro updated hUpdated
        have hHeld : id ∈ projection.people := AList.lookup_isSome.mp (by rw [hPerson]; rfl)
        have hKeys : ∀ other, other ∈ projection.people.insert id updated ↔
            other ∈ projection.people := by
          intro other
          rw [AList.mem_insert]
          exact or_iff_right_of_imp fun hSame => hSame ▸ hHeld
        exact { h.keep hType with
          people := h.people.insert (by rw [hUpdated]; exact hObject) id
          checkedIn := h.checkedIn.keep (by simpa using hType) hKeys }
      dsimp only at hUpdate
      rcases hPeriod : optionalUuid payload "period_id" with error | ⟨_ | period⟩
      · rw [hPeriod] at hUpdate
        cases hUpdate
      · rw [hPeriod] at hUpdate
        obtain rfl := (Prod.mk.inj hUpdate).1
        exact hPlaced _ rfl
      · rw [hPeriod] at hUpdate
        obtain rfl := (Prod.mk.inj hUpdate).1
        exact hPlaced _ rfl

section Creations
variable (h : EmCommTracks seen projection)

include h

theorem openPeriod_tracks (hType : event.eventType ≠ .emcommPersonCheckedIn)
    {next : EmCommProjection} (hOpen : projection.openPeriod id event payload = .ok next) :
    EmCommTracks (seen ++ [event]) next := by
  obtain ⟨incidentId, _, rfl⟩ := (except_map_eq_ok_iff ..).mp hOpen
  exact { h.keep hType with periods := h.periods.insert rfl id }

theorem checkInPerson_tracks (hType : event.eventType = .emcommPersonCheckedIn)
    (hId : event.entityId = some id) {next : EmCommProjection}
    (hCheckIn : projection.checkInPerson id event payload = .ok next) :
    EmCommTracks (seen ++ [event]) next := by
  obtain ⟨incidentId, _, hRest⟩ := (except_bind_eq_ok_iff ..).mp hCheckIn
  obtain ⟨periodId, _, hNext⟩ := (except_bind_eq_ok_iff ..).mp hRest
  obtain rfl := Except.ok.inj hNext
  exact { h with
    people := h.people.insert rfl id
    checkedIn := h.checkedIn.insert (by simp [hType]) hId _ }

theorem createAssignment_tracks (hType : event.eventType ≠ .emcommPersonCheckedIn)
    {next : EmCommProjection} (hCreate : projection.createAssignment id event payload = .ok next) :
    EmCommTracks (seen ++ [event]) next := by
  obtain ⟨incidentId, _, hRest⟩ := (except_bind_eq_ok_iff ..).mp hCreate
  obtain ⟨personId, _, hNext⟩ := (except_bind_eq_ok_iff ..).mp hRest
  obtain rfl := Except.ok.inj hNext
  exact { h.keep hType with assignments := h.assignments.insert rfl id }

theorem createMessage_tracks (hType : event.eventType ≠ .emcommPersonCheckedIn)
    {next : EmCommProjection} (hCreate : projection.createMessage id event payload = .ok next) :
    EmCommTracks (seen ++ [event]) next := by
  obtain ⟨incidentId, _, hRest⟩ := (except_bind_eq_ok_iff ..).mp hCreate
  obtain ⟨number, _, hNext⟩ := (except_bind_eq_ok_iff ..).mp hRest
  obtain rfl := Except.ok.inj hNext
  exact { h.keep hType with messages := h.messages.insert rfl id }

theorem logActivity_tracks [ChronoCrate] (hType : event.eventType ≠ .emcommPersonCheckedIn)
    {next : EmCommProjection} (hLog : projection.logActivity id event payload = .ok next) :
    EmCommTracks (seen ++ [event]) next := by
  obtain ⟨incidentId, _, hRest⟩ := (except_bind_eq_ok_iff ..).mp hLog
  obtain ⟨periodId, _, hNext⟩ := (except_bind_eq_ok_iff ..).mp hRest
  obtain rfl := Except.ok.inj hNext
  exact { h.keep hType with }

end Creations

variable [ChronoCrate]

/-- The records of an incident fail exactly on the fields their type reads. -/
theorem emcomm_records_succeeds_iff (h : EmCommTracks seen projection)
    (hPayload : event.payload = .object payload) :
    (∃ next, projection.applyRecords event id payload = (next, .ok ())) ↔
      FieldsReadable seen event.eventType event.payload id := by
  have hObject : event.payload.isObject = true := by rw [hPayload]; rfl
  have hAmended : ∀ {result : Except EmCommProjectionError EmCommProjection},
      (∃ next, result = .ok next ∧ EmCommTracks (seen ++ [event]) next) →
        ∃ next, projection.commit result = (next, .ok ()) := by
    rintro result ⟨next, hResult, _⟩
    exact ⟨next, (commit_eq_ok_iff ..).mpr hResult⟩
  unfold EmCommProjection.applyRecords
  split
  · rename_i hType
    rw [hType]
    exact iff_of_true ⟨_, rfl⟩ trivial
  · rename_i hType
    rw [hType]
    exact iff_of_true (hAmended (amendIncident_ok h hObject (by simp [hType]) id _)) trivial
  · rename_i hType
    rw [hType]
    exact iff_of_true (hAmended (amendIncident_ok h hObject (by simp [hType]) id _)) trivial
  · rename_i hType
    simp only [commit_eq_ok_iff, EmCommProjection.openPeriod]
    rw [map_succeeds_iff, requiredUuid_succeeds_iff, ← hPayload, hType, FieldsReadable]
  · rename_i hType
    rw [hType]
    exact iff_of_true (hAmended (amendPeriod_ok h hObject (by simp [hType]) id _)) trivial
  · rename_i hType
    simp only [commit_eq_ok_iff, EmCommProjection.checkInPerson]
    rw [bind_succeeds_iff, requiredUuid_succeeds_iff, optionalUuid_succeeds_iff, ← hPayload,
      hType, FieldsReadable]
  · rename_i hType
    rw [updatePerson_succeeds_iff h hPayload, hType, FieldsReadable]
  · rename_i hType
    rw [hType]
    exact iff_of_true (hAmended (amendPerson_ok h hObject (by simp [hType]) id _)) trivial
  · rename_i hType
    simp only [commit_eq_ok_iff, EmCommProjection.createAssignment]
    rw [bind_succeeds_iff, requiredUuid_succeeds_iff, requiredUuid_succeeds_iff, ← hPayload,
      hType, FieldsReadable]
  · rename_i hType
    rw [hType]
    exact iff_of_true (hAmended (amendAssignment_ok h hObject (by simp [hType]) id _)) trivial
  · rename_i hType
    rw [hType]
    exact iff_of_true (hAmended (amendAssignment_ok h hObject (by simp [hType]) id _)) trivial
  · rename_i hType
    simp only [commit_eq_ok_iff, EmCommProjection.createMessage]
    rw [bind_succeeds_iff, requiredUuid_succeeds_iff, payloadMessageNumber_succeeds_iff,
      ← hPayload, hType, FieldsReadable]
  · rename_i hType
    rw [hType]
    exact iff_of_true (hAmended (amendMessage_ok h hObject (by simp [hType]) id _ _)) trivial
  · rename_i hType
    rw [hType]
    exact iff_of_true (hAmended (amendMessage_ok h hObject (by simp [hType]) id _ _)) trivial
  · rename_i hType
    rw [hType]
    exact iff_of_true (hAmended (amendMessage_ok h hObject (by simp [hType]) id _ _)) trivial
  · rename_i hType
    rw [hType]
    exact iff_of_true (hAmended (amendMessage_ok h hObject (by simp [hType]) id _ _)) trivial
  · rename_i hType
    rw [hType]
    exact iff_of_true (hAmended (amendMessage_ok h hObject (by simp [hType]) id _ _)) trivial
  · rename_i hType
    simp only [commit_eq_ok_iff, EmCommProjection.logActivity]
    rw [bind_succeeds_iff, requiredUuid_succeeds_iff, optionalUuid_succeeds_iff, ← hPayload,
      hType, FieldsReadable]
  · refine iff_of_true ⟨_, rfl⟩ ?_
    unfold FieldsReadable
    split <;> simp_all

theorem emcomm_records_tracks (h : EmCommTracks seen projection) (hId : event.entityId = some id)
    (hPayload : event.payload = .object payload) {next : EmCommProjection}
    (hApply : projection.applyRecords event id payload = (next, .ok ())) :
    EmCommTracks (seen ++ [event]) next := by
  have hObject : event.payload.isObject = true := by rw [hPayload]; rfl
  have hAmended : ∀ {result : Except EmCommProjectionError EmCommProjection},
      (∃ next, result = .ok next ∧ EmCommTracks (seen ++ [event]) next) →
        projection.commit result = (next, .ok ()) → EmCommTracks (seen ++ [event]) next := by
    rintro result ⟨later, hResult, hTracks⟩ hCommit
    rw [commit_eq_ok_iff, hResult] at hCommit
    obtain rfl := Except.ok.inj hCommit
    exact hTracks
  unfold EmCommProjection.applyRecords at hApply
  split at hApply
  · rename_i hType
    obtain rfl := (Prod.mk.inj hApply).1
    exact { h.keep (by simp [hType]) with incidents := h.incidents.insert rfl id }
  · rename_i hType
    exact hAmended (amendIncident_ok h hObject (by simp [hType]) id _) hApply
  · rename_i hType
    exact hAmended (amendIncident_ok h hObject (by simp [hType]) id _) hApply
  · rename_i hType
    exact openPeriod_tracks h (by simp [hType]) ((commit_eq_ok_iff ..).mp hApply)
  · rename_i hType
    exact hAmended (amendPeriod_ok h hObject (by simp [hType]) id _) hApply
  · rename_i hType
    exact checkInPerson_tracks h hType hId ((commit_eq_ok_iff ..).mp hApply)
  · rename_i hType
    exact updatePerson_tracks h (by simp [hType]) hPayload hApply
  · rename_i hType
    exact hAmended (amendPerson_ok h hObject (by simp [hType]) id _) hApply
  · rename_i hType
    exact createAssignment_tracks h (by simp [hType]) ((commit_eq_ok_iff ..).mp hApply)
  · rename_i hType
    exact hAmended (amendAssignment_ok h hObject (by simp [hType]) id _) hApply
  · rename_i hType
    exact hAmended (amendAssignment_ok h hObject (by simp [hType]) id _) hApply
  · rename_i hType
    exact createMessage_tracks h (by simp [hType]) ((commit_eq_ok_iff ..).mp hApply)
  · rename_i hType
    exact hAmended (amendMessage_ok h hObject (by simp [hType]) id _ _) hApply
  · rename_i hType
    exact hAmended (amendMessage_ok h hObject (by simp [hType]) id _ _) hApply
  · rename_i hType
    exact hAmended (amendMessage_ok h hObject (by simp [hType]) id _ _) hApply
  · rename_i hType
    exact hAmended (amendMessage_ok h hObject (by simp [hType]) id _ _) hApply
  · rename_i hType
    exact hAmended (amendMessage_ok h hObject (by simp [hType]) id _ _) hApply
  · rename_i hType
    exact logActivity_tracks h (by simp [hType]) ((commit_eq_ok_iff ..).mp hApply)
  · obtain rfl := (Prod.mk.inj hApply).1
    exact h.keep (by assumption)

end Steps

section Rebuild
variable [UuidCrate] [ChronoCrate]

/-- A step of the rebuild is an application that succeeds. -/
theorem emcomm_step_eq_ok_iff (projection next : EmCommProjection) (event : CoreEventEnvelope) :
    Projection.apply projection event = .ok next ↔ projection.apply event = (next, .ok ()) := by
  simp only [Projection.apply]
  rcases projection.apply event with ⟨later, error | ⟨⟩⟩ <;> simp

/-- The incident record projection fails exactly on its unreadable events. -/
theorem emcomm_decided : Decided (Projection.apply (P := EmCommProjection)) EmCommTracks
    EmCommReadable where
  succeeds seen projection event h := by
    simp only [emcomm_step_eq_ok_iff]
    unfold EmCommProjection.apply EmCommReadable
    cases hId : event.entityId with
    | none => exact iff_of_true ⟨_, rfl⟩ fun id hSome => by cases hSome
    | some id =>
        dsimp only
        by_cases hEmComm : event.eventType.isEmComm = false
        · rw [if_pos hEmComm]
          exact iff_of_true ⟨_, rfl⟩ fun _ _ hTrue => by simp [hEmComm] at hTrue
        · rw [if_neg hEmComm]
          cases hPayload : event.payload.asObject with
          | none =>
              refine iff_of_false (by simp) fun hAll => ?_
              have hObject := (hAll id rfl (by simpa using hEmComm)).1
              simp [Value.isObject, hPayload] at hObject
          | some payload =>
              have hIs : event.payload = .object payload := by
                cases hValue : event.payload <;> simp_all [Value.asObject]
              dsimp only
              rw [emcomm_records_succeeds_iff h hIs]
              constructor
              · rintro hFields _ ⟨⟩ _
                exact ⟨by rw [hIs]; rfl, hFields⟩
              · intro hAll
                exact (hAll id rfl (by simpa using hEmComm)).2
  keeps seen projection event next h hApply := by
    rw [emcomm_step_eq_ok_iff] at hApply
    unfold EmCommProjection.apply at hApply
    cases hId : event.entityId with
    | none =>
        rw [hId] at hApply
        obtain rfl := (Prod.mk.inj hApply).1
        exact h.keep_of_no_entity hId
    | some id =>
        rw [hId] at hApply
        dsimp only at hApply
        by_cases hEmComm : event.eventType.isEmComm = false
        · rw [if_pos hEmComm] at hApply
          obtain rfl := (Prod.mk.inj hApply).1
          refine h.keep fun hType => ?_
          rw [hType] at hEmComm
          cases hEmComm
        · rw [if_neg hEmComm] at hApply
          cases hPayload : event.payload.asObject with
          | none =>
              rw [hPayload] at hApply
              cases hApply
          | some payload =>
              have hIs : event.payload = .object payload := by
                cases hValue : event.payload <;> simp_all [Value.asObject]
              rw [hPayload] at hApply
              exact emcomm_records_tracks h hId hIs hApply

/-- The incident records can be rebuilt from a log exactly when every event of
the log is readable after the events before it. -/
theorem rebuilds_emcomm_iff (log : List CoreEventEnvelope) :
    Rebuilds EmCommProjection log ↔ Accepted EmCommReadable log :=
  emcomm_decided.succeeds_iff emCommTracks_empty log

end Rebuild
end HamLogger
