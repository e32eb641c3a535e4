import HamLogger.Core.EmCommReadability
import HamLogger.Core.RecordLedgers

/-! What the events of a logbook add to the history of each incident record.
An event that creates a record starts a new history in place of an older one. -/
namespace HamLogger

/-- The history of a record, by the types that create it and those that amend
it. -/
def historyLedger (creating amending : List EventType) (id : Uuid) :
    Ledger CoreEventEnvelope (List RecordChange) :=
  entityLedger creating amending id (fun event => some [changeFrom event])
    fun event history => history ++ [changeFrom event]

theorem EmCommRecord.history_of_append {Status : Type} {record amended : EmCommRecord Status}
    {event : CoreEventEnvelope} {status : Status} (h : record.append event status = .ok amended) :
    amended.history = record.history ++ [changeFrom event] := by
  unfold EmCommRecord.append at h
  split at h
  · cases h
  · rw [← Except.ok.inj h]

section Histories
variable {Record Status : Type} {records changed : KeyMap Uuid Record}
  (view : Record → EmCommRecord Status) {creating amending : List EventType}
  {event : CoreEventEnvelope} {entityId : Uuid}

theorem histories_of_created {record : Record} (hKey : event.entityId = some entityId)
    (hCreating : event.eventType ∈ creating) (hRecord : (view record).history = [changeFrom event])
    (id : Uuid) : ((records.insert entityId record).lookup id).map (fun r => (view r).history) =
      (historyLedger creating amending id).replace
        ((records.lookup id).map fun r => (view r).history) event := by
  have hReplace : ∀ old, (historyLedger creating amending id).replace old event =
      if id = entityId then some [changeFrom event] else old :=
    fun old => entityLedger_creates hKey hCreating fun _ => rfl
  rw [KeyMap.lookup_insert_eq_ite, hReplace]
  split
  · rw [Option.map_some, hRecord]
  · rfl

theorem histories_of_amended {status : Record → Status}
    {place : Record → EmCommRecord Status → Record}
    (hPlace : ∀ record amended, view (place record amended) = amended)
    (hKey : event.entityId = some entityId) (hAmending : event.eventType ∈ amending)
    (hApart : ∀ eventType ∈ amending, eventType ∉ creating)
    (h : records.tryModify entityId (fun record =>
      ((view record).append event (status record)).map (place record)) = .ok changed) (id : Uuid) :
    (changed.lookup id).map (fun r => (view r).history) =
      (historyLedger creating amending id).replace
        ((records.lookup id).map fun r => (view r).history) event := by
  refine (KeyMap.view_of_tryModify _ ?_ h id).trans
    (entityLedger_amends hKey (hApart _ hAmending) hAmending).symm
  intro old new hChange
  obtain ⟨amended, hAmended, rfl⟩ := (except_map_eq_ok_iff ..).mp hChange
  rw [hPlace]
  exact EmCommRecord.history_of_append hAmended

end Histories

/-! The histories of the five kinds of incident records. -/

def incidentLedger (id : Uuid) : Ledger CoreEventEnvelope (List RecordChange) :=
  historyLedger [.emcommIncidentOpened] [.emcommIncidentUpdated, .emcommIncidentClosed] id

def periodLedger (id : Uuid) : Ledger CoreEventEnvelope (List RecordChange) :=
  historyLedger [.emcommPeriodOpened] [.emcommPeriodClosed] id

def personLedger (id : Uuid) : Ledger CoreEventEnvelope (List RecordChange) :=
  historyLedger [.emcommPersonCheckedIn] [.emcommPersonUpdated, .emcommPersonCheckedOut] id

def assignmentLedger (id : Uuid) : Ledger CoreEventEnvelope (List RecordChange) :=
  historyLedger [.emcommAssignmentCreated] [.emcommAssignmentUpdated, .emcommAssignmentReleased] id

def messageLedger (id : Uuid) : Ledger CoreEventEnvelope (List RecordChange) :=
  historyLedger [.emcommMessageCreated]
    [.emcommMessageUpdated, .emcommMessageTransmitted, .emcommMessageReceived,
      .emcommMessageAcknowledged, .emcommMessageCancelled] id

/-- An entry of the activity log. -/
def logsActivity (event : CoreEventEnvelope) : Bool :=
  event.eventType = .emcommActivityLogged && event.entityId.isSome

namespace EmCommProjection
variable {projection next : EmCommProjection} {event : CoreEventEnvelope} {entityId : Uuid}

def incidentHistory (projection : EmCommProjection) (id : Uuid) : Option (List RecordChange) :=
  (projection.incidents.lookup id).map fun incident => incident.record.history

def periodHistory (projection : EmCommProjection) (id : Uuid) : Option (List RecordChange) :=
  (projection.periods.lookup id).map fun period => period.record.history

def personHistory (projection : EmCommProjection) (id : Uuid) : Option (List RecordChange) :=
  (projection.people.lookup id).map fun person => person.record.history

def assignmentHistory (projection : EmCommProjection) (id : Uuid) : Option (List RecordChange) :=
  (projection.assignments.lookup id).map fun assignment => assignment.record.history

def messageHistory (projection : EmCommProjection) (id : Uuid) : Option (List RecordChange) :=
  (projection.messages.lookup id).map fun message => message.record.history

/-- The tables before and after an event are related by their ledgers, and the
activity log is longer by what the event logs. -/
structure FollowsLedgers (projection : EmCommProjection) (event : CoreEventEnvelope)
    (next : EmCommProjection) : Prop where
  incidents : ∀ id, next.incidentHistory id =
    (incidentLedger id).replace (projection.incidentHistory id) event
  periods : ∀ id, next.periodHistory id =
    (periodLedger id).replace (projection.periodHistory id) event
  people : ∀ id, next.personHistory id =
    (personLedger id).replace (projection.personHistory id) event
  assignments : ∀ id, next.assignmentHistory id =
    (assignmentLedger id).replace (projection.assignmentHistory id) event
  messages : ∀ id, next.messageHistory id =
    (messageLedger id).replace (projection.messageHistory id) event
  activity : next.activity.map ActivityLogEntry.eventHash =
    projection.activity.map ActivityLogEntry.eventHash ++
      if logsActivity event then [event.eventHash] else []

/-- The types of the events about each table. -/
def incidentTypes : List EventType :=
  [.emcommIncidentOpened, .emcommIncidentUpdated, .emcommIncidentClosed]

def periodTypes : List EventType :=
  [.emcommPeriodOpened, .emcommPeriodClosed]

def personTypes : List EventType :=
  [.emcommPersonCheckedIn, .emcommPersonUpdated, .emcommPersonCheckedOut]

def assignmentTypes : List EventType :=
  [.emcommAssignmentCreated, .emcommAssignmentUpdated, .emcommAssignmentReleased]

def messageTypes : List EventType :=
  [.emcommMessageCreated, .emcommMessageUpdated, .emcommMessageTransmitted,
    .emcommMessageReceived, .emcommMessageAcknowledged, .emcommMessageCancelled]

namespace FollowsLedgers

theorem no_activity {types : List EventType} (hType : event.eventType ∈ types)
    (hApart : .emcommActivityLogged ∉ types) (hashes : List String) :
    hashes = hashes ++ if logsActivity event then [event.eventHash] else [] := by
  have hOther : event.eventType ≠ .emcommActivityLogged := by
    intro hSame
    exact hApart (hSame ▸ hType)
  simp [logsActivity, hOther]

/-- An event about one of the tables leaves the others alone. -/
theorem of_incidents {incidents : KeyMap Uuid IncidentRecord}
    (hType : event.eventType ∈ incidentTypes)
    (h : ∀ id, (incidents.lookup id).map (fun incident => incident.record.history) =
      (incidentLedger id).replace (projection.incidentHistory id) event) :
    FollowsLedgers projection event { projection with incidents := incidents } where
  incidents := h
  periods id := (entityLedger_apart hType (by decide)).symm
  people id := (entityLedger_apart hType (by decide)).symm
  assignments id := (entityLedger_apart hType (by decide)).symm
  messages id := (entityLedger_apart hType (by decide)).symm
  activity := no_activity hType (by decide) _

theorem of_periods {periods : KeyMap Uuid OperationalPeriodRecord}
    (hType : event.eventType ∈ periodTypes)
    (h : ∀ id, (periods.lookup id).map (fun period => period.record.history) =
      (periodLedger id).replace (projection.periodHistory id) event) :
    FollowsLedgers projection event { projection with periods := periods } where
  incidents id := (entityLedger_apart hType (by decide)).symm
  periods := h
  people id := (entityLedger_apart hType (by decide)).symm
  assignments id := (entityLedger_apart hType (by decide)).symm
  messages id := (entityLedger_apart hType (by decide)).symm
  activity := no_activity hType (by decide) _

theorem of_people {people : KeyMap Uuid PersonRecord} (hType : event.eventType ∈ personTypes)
    (h : ∀ id, (people.lookup id).map (fun person => person.record.history) =
      (personLedger id).replace (projection.personHistory id) event) :
    FollowsLedgers projection event { projection with people := people } where
  incidents id := (entityLedger_apart hType (by decide)).symm
  periods id := (entityLedger_apart hType (by decide)).symm
  people := h
  assignments id := (entityLedger_apart hType (by decide)).symm
  messages id := (entityLedger_apart hType (by decide)).symm
  activity := no_activity hType (by decide) _

theorem of_assignments {assignments : KeyMap Uuid AssignmentRecord}
    (hType : event.eventType ∈ assignmentTypes)
    (h : ∀ id, (assignments.lookup id).map (fun assignment => assignment.record.history) =
      (assignmentLedger id).replace (projection.assignmentHistory id) event) :
    FollowsLedgers projection event { projection with assignments := assignments } where
  incidents id := (entityLedger_apart hType (by decide)).symm
  periods id := (entityLedger_apart hType (by decide)).symm
  people id := (entityLedger_apart hType (by decide)).symm
  assignments := h
  messages id := (entityLedger_apart hType (by decide)).symm
  activity := no_activity hType (by decide) _

theorem of_messages {messages : KeyMap Uuid MessageRecord}
    (hType : event.eventType ∈ messageTypes)
    (h : ∀ id, (messages.lookup id).map (fun message => message.record.history) =
      (messageLedger id).replace (projection.messageHistory id) event) :
    FollowsLedgers projection event { projection with messages := messages } where
  incidents id := (entityLedger_apart hType (by decide)).symm
  periods id := (entityLedger_apart hType (by decide)).symm
  people id := (entityLedger_apart hType (by decide)).symm
  assignments id := (entityLedger_apart hType (by decide)).symm
  messages := h
  activity := no_activity hType (by decide) _

end FollowsLedgers

theorem commit_ok {result : Except EmCommProjectionError EmCommProjection}
    (h : projection.commit result = (next, .ok ())) : result = .ok next := by
  cases result with
  | ok found => rw [(Prod.mk.inj h).1]
  | error error => cases (Prod.mk.inj h).2

section Apply
variable (hKey : event.entityId = some entityId)
include hKey

theorem amendIncident_follows {status : IncidentStatus → IncidentStatus}
    (hType : event.eventType ∈ [.emcommIncidentUpdated, .emcommIncidentClosed])
    (h : projection.amendIncident entityId event status = .ok next) :
    FollowsLedgers projection event next := by
  obtain ⟨incidents, hModify, rfl⟩ := (except_map_eq_ok_iff ..).mp h
  refine .of_incidents (List.mem_cons_of_mem _ hType) fun id => ?_
  exact histories_of_amended _ (fun _ _ => rfl) hKey hType (by decide) hModify id

theorem amendPeriod_follows {status : OperationalPeriodStatus}
    (hType : event.eventType ∈ [.emcommPeriodClosed])
    (h : projection.amendPeriod entityId event status = .ok next) :
    FollowsLedgers projection event next := by
  obtain ⟨periods, hModify, rfl⟩ := (except_map_eq_ok_iff ..).mp h
  refine .of_periods (List.mem_cons_of_mem _ hType) fun id => ?_
  exact histories_of_amended _ (fun _ _ => rfl) hKey hType (by decide) hModify id

theorem amendPerson_follows {status : PersonStatus → PersonStatus}
    (hType : event.eventType ∈ [.emcommPersonUpdated, .emcommPersonCheckedOut])
    (h : projection.amendPerson entityId event status = .ok next) :
    FollowsLedgers projection event next := by
  obtain ⟨people, hModify, rfl⟩ := (except_map_eq_ok_iff ..).mp h
  refine .of_people (List.mem_cons_of_mem _ hType) fun id => ?_
  exact histories_of_amended _ (fun _ _ => rfl) hKey hType (by decide) hModify id

theorem amendAssignment_follows {status : AssignmentStatus → AssignmentStatus}
    (hType : event.eventType ∈ [.emcommAssignmentUpdated, .emcommAssignmentReleased])
    (h : projection.amendAssignment entityId event status = .ok next) :
    FollowsLedgers projection event next := by
  obtain ⟨assignments, hModify, rfl⟩ := (except_map_eq_ok_iff ..).mp h
  refine .of_assignments (List.mem_cons_of_mem _ hType) fun id => ?_
  exact histories_of_amended _ (fun _ _ => rfl) hKey hType (by decide) hModify id

theorem amendMessage_follows {status : MessageStatus → MessageStatus}
    {precedence : MessagePrecedence → MessagePrecedence}
    (hType : event.eventType ∈ [.emcommMessageUpdated, .emcommMessageTransmitted,
      .emcommMessageReceived, .emcommMessageAcknowledged, .emcommMessageCancelled])
    (h : projection.amendMessage entityId event status precedence = .ok next) :
    FollowsLedgers projection event next := by
  obtain ⟨messages, hModify, rfl⟩ := (except_map_eq_ok_iff ..).mp h
  refine .of_messages (List.mem_cons_of_mem _ hType) fun id => ?_
  exact histories_of_amended MessageRecord.record (fun _ _ => rfl) hKey hType
    (by decide) hModify id

variable [UuidCrate] {payload : Fields}

theorem openPeriod_follows (hType : event.eventType = .emcommPeriodOpened)
    (h : projection.openPeriod entityId event payload = .ok next) :
    FollowsLedgers projection event next := by
  obtain ⟨incidentId, _, rfl⟩ := (except_map_eq_ok_iff ..).mp h
  refine .of_periods (by simp [periodTypes, hType]) fun id => ?_
  exact histories_of_created _ hKey (by simp [hType]) rfl id

theorem checkInPerson_follows (hType : event.eventType = .emcommPersonCheckedIn)
    (h : projection.checkInPerson entityId event payload = .ok next) :
    FollowsLedgers projection event next := by
  obtain ⟨incidentId, _, hRest⟩ := (except_bind_eq_ok_iff ..).mp h
  obtain ⟨periodId, _, hNext⟩ := (except_bind_eq_ok_iff ..).mp hRest
  rw [← Except.ok.inj hNext]
  refine .of_people (by simp [personTypes, hType]) fun id => ?_
  exact histories_of_created _ hKey (by simp [hType]) rfl id

theorem createAssignment_follows (hType : event.eventType = .emcommAssignmentCreated)
    (h : projection.createAssignment entityId event payload = .ok next) :
    FollowsLedgers projection event next := by
  obtain ⟨incidentId, _, hRest⟩ := (except_bind_eq_ok_iff ..).mp h
  obtain ⟨personId, _, hNext⟩ := (except_bind_eq_ok_iff ..).mp hRest
  rw [← Except.ok.inj hNext]
  refine .of_assignments (by simp [assignmentTypes, hType]) fun id => ?_
  exact histories_of_created _ hKey (by simp [hType]) rfl id

theorem createMessage_follows (hType : event.eventType = .emcommMessageCreated)
    (h : projection.createMessage entityId event payload = .ok next) :
    FollowsLedgers projection event next := by
  obtain ⟨incidentId, _, hRest⟩ := (except_bind_eq_ok_iff ..).mp h
  obtain ⟨number, _, hNext⟩ := (except_bind_eq_ok_iff ..).mp hRest
  rw [← Except.ok.inj hNext]
  refine .of_messages (by simp [messageTypes, hType]) fun id => ?_
  exact histories_of_created MessageRecord.record hKey (by simp [hType]) rfl id

/-- A correction of a person is one more amendment, whatever period it names. -/
theorem updatePerson_follows (hType : event.eventType = .emcommPersonUpdated)
    (h : projection.updatePerson entityId event payload = (next, .ok ())) :
    FollowsLedgers projection event next := by
  unfold updatePerson at h
  cases hPerson : projection.people.lookup entityId with
  | none =>
      rw [hPerson] at h
      rw [← (Prod.mk.inj h).1]
      refine .of_people (by simp [personTypes, hType]) fun id => ?_
      refine ((entityLedger_amends hKey (by simp [hType]) (by simp [hType])).trans ?_).symm
      split
      · next hSame => rw [hSame, personHistory, hPerson, Option.map_none, Option.map_none]
      · rfl
  | some person =>
      rw [hPerson] at h
      dsimp only at h
      cases hAppend : person.record.append event person.record.status with
      | error error =>
          rw [hAppend] at h
          cases (Prod.mk.inj h).2
      | ok amended =>
          rw [hAppend] at h
          dsimp only at h
          have hPlaced : ∀ changed : PersonRecord, changed.record = amended →
              FollowsLedgers projection event
                { projection with people := projection.people.insert entityId changed } := by
            intro changed hRecord
            refine .of_people (by simp [personTypes, hType]) fun id => ?_
            refine Eq.trans ?_
              (entityLedger_amends hKey (by simp [hType]) (by simp [hType])).symm
            rw [KeyMap.lookup_insert_eq_ite]
            split
            · next hSame =>
                rw [hSame, personHistory, hPerson, Option.map_some, hRecord,
                  EmCommRecord.history_of_append hAppend]
                rfl
            · rfl
          split at h
          · cases (Prod.mk.inj h).2
          · rw [← (Prod.mk.inj h).1]
            exact hPlaced _ rfl
          · rw [← (Prod.mk.inj h).1]
            exact hPlaced _ rfl

theorem logActivity_follows [ChronoCrate] (hType : event.eventType = .emcommActivityLogged)
    (h : projection.logActivity entityId event payload = .ok next) :
    FollowsLedgers projection event next := by
  obtain ⟨incidentId, _, hRest⟩ := (except_bind_eq_ok_iff ..).mp h
  obtain ⟨periodId, _, hNext⟩ := (except_bind_eq_ok_iff ..).mp hRest
  rw [← Except.ok.inj hNext]
  constructor
  case activity => simp [logsActivity, hType, hKey]
  all_goals exact fun id => (entityLedger_ignores (by simp [hType]) (by simp [hType])).symm

theorem applyRecords_follows [ChronoCrate]
    (h : projection.applyRecords event entityId payload = (next, .ok ())) :
    FollowsLedgers projection event next := by
  unfold applyRecords at h
  split at h
  · next hType =>
      rw [← (Prod.mk.inj h).1]
      refine .of_incidents (by simp [incidentTypes, hType]) fun id => ?_
      exact histories_of_created _ hKey (by simp [hType]) rfl id
  · next hType => exact amendIncident_follows hKey (by simp [hType]) (commit_ok h)
  · next hType => exact amendIncident_follows hKey (by simp [hType]) (commit_ok h)
  · next hType => exact openPeriod_follows hKey hType (commit_ok h)
  · next hType => exact amendPeriod_follows hKey (by simp [hType]) (commit_ok h)
  · next hType => exact checkInPerson_follows hKey hType (commit_ok h)
  · next hType => exact updatePerson_follows hKey hType h
  · next hType => exact amendPerson_follows hKey (by simp [hType]) (commit_ok h)
  · next hType => exact createAssignment_follows hKey hType (commit_ok h)
  · next hType => exact amendAssignment_follows hKey (by simp [hType]) (commit_ok h)
  · next hType => exact amendAssignment_follows hKey (by simp [hType]) (commit_ok h)
  · next hType => exact createMessage_follows hKey hType (commit_ok h)
  · next hType => exact amendMessage_follows hKey (by simp [hType]) (commit_ok h)
  · next hType => exact amendMessage_follows hKey (by simp [hType]) (commit_ok h)
  · next hType => exact amendMessage_follows hKey (by simp [hType]) (commit_ok h)
  · next hType => exact amendMessage_follows hKey (by simp [hType]) (commit_ok h)
  · next hType => exact amendMessage_follows hKey (by simp [hType]) (commit_ok h)
  · next hType => exact logActivity_follows hKey hType (commit_ok h)
  · rw [← (Prod.mk.inj h).1]
    constructor
    case activity => simp_all [logsActivity]
    all_goals exact fun id => (entityLedger_ignores (by simp_all) (by simp_all)).symm

end Apply

/-- One event does to each incident record what its ledger says. -/
theorem followsLedgers_apply [UuidCrate] [ChronoCrate]
    (h : Projection.apply projection event = .ok next) : FollowsLedgers projection event next := by
  have hApply := (emcomm_step_eq_ok_iff projection next event).mp h
  unfold apply at hApply
  cases hKey : event.entityId with
  | none =>
      rw [hKey] at hApply
      rw [← (Prod.mk.inj hApply).1]
      constructor
      case activity => simp [logsActivity, hKey]
      all_goals exact fun id => (entityLedger_none hKey).symm
  | some entityId =>
      rw [hKey] at hApply
      dsimp only at hApply
      split at hApply
      · next hOther =>
          have hNone : ∀ types : List EventType, (∀ eventType ∈ types, eventType.isEmComm = true) →
              event.eventType ∉ types := by
            intro types hTypes hMem
            rw [hTypes _ hMem] at hOther
            cases hOther
          rw [← (Prod.mk.inj hApply).1]
          constructor
          case activity =>
            have hType := hNone [.emcommActivityLogged] (by decide)
            simp_all [logsActivity]
          all_goals exact fun id =>
            (entityLedger_ignores (hNone _ (by decide)) (hNone _ (by decide))).symm
      · split at hApply
        · cases (Prod.mk.inj hApply).2
        · exact applyRecords_follows hKey hApply

end EmCommProjection
end HamLogger
