import HamLogger.Core.ContactRules
import HamLogger.Core.EmCommLedgers

/-! What the records of a logbook keep of the events that proposals lead to. An
event that creates a record replaces an older one of its entity with all that
was added to it, and the checks let it through. As long as nothing is created
twice, every record holds what its events add up to. -/
namespace HamLogger

open Projection (rebuild Rebuilds)
open Replay (Accepted)
open Transition (Run)

/-- The types of the events that create the records of each table. -/
def creationKinds : List (List EventType) :=
  [[.qsoCreated], [.activationCreated, .activationStarted], [.netTemplateCreated],
    [.netSessionStarted], [.netCheckinCreated], [.netTrafficCreated], [.emcommIncidentOpened],
    [.emcommPeriodOpened], [.emcommPersonCheckedIn], [.emcommAssignmentCreated],
    [.emcommMessageCreated]]

/-- An event creates no record of an entity that has one. -/
def CreatesNew (eventType : EventType) (entityId : Option Uuid) (seen : List CoreEventEnvelope) :
    Prop :=
  ∀ kinds ∈ creationKinds, eventType ∈ kinds → ∀ id, entityId = some id →
    ¬ CreatedEarlier kinds seen id

/-- No event of the log creates a record of an entity that has one. -/
def CreatesOnce (log : List CoreEventEnvelope) : Prop :=
  Accepted (fun seen event => CreatesNew event.eventType event.entityId seen) log

section Ledgers
variable {Contents : Type} {log : List CoreEventEnvelope}

/-- Then no ledger of a table sees a creation of what it has. -/
theorem CreatesOnce.ledger (h : CreatesOnce log) {ledger : Ledger CoreEventEnvelope Contents}
    {kinds : List EventType} {id : Uuid} (hKinds : kinds ∈ creationKinds)
    (hCreates : ∀ event, ledger.creates event ≠ none →
      event.eventType ∈ kinds ∧ event.entityId = some id) :
    Accepted (fun seen event => ledger.creates event = none ∨ ledger.accumulated seen = none)
      log := by
  refine h.mono fun seen event hNew => ?_
  by_cases hCreated : ledger.creates event = none
  · exact Or.inl hCreated
  · obtain ⟨hType, hId⟩ := hCreates event hCreated
    refine Or.inr (ledger.accumulated_eq_none fun earlier hEarlier => ?_)
    by_contra hAgain
    obtain ⟨hEarlierType, hEarlierId⟩ := hCreates earlier hAgain
    exact hNew kinds hKinds hType id hId ⟨earlier, hEarlier, hEarlierType, hEarlierId⟩

theorem entityLedger_creates_of {creating amending : List EventType} {id : Uuid}
    {first : CoreEventEnvelope → Option Contents}
    {amend : CoreEventEnvelope → Contents → Contents} (event : CoreEventEnvelope)
    (h : (entityLedger creating amending id first amend).creates event ≠ none) :
    event.eventType ∈ creating ∧ event.entityId = some id := by
  unfold entityLedger at h
  dsimp only at h
  split at h
  · next hBoth => exact ⟨hBoth.2, hBoth.1⟩
  · exact absurd rfl h

end Ledgers

section Projections
variable [UuidCrate] {log : List CoreEventEnvelope}

theorem activationLedger_creates_of {id : Uuid} (event : CoreEventEnvelope)
    (h : (activationLedger id).creates event ≠ none) :
    event.eventType ∈ [.activationCreated, .activationStarted] ∧ event.entityId = some id := by
  unfold activationLedger at h
  dsimp only at h
  split at h
  · next hBoth => exact ⟨hBoth.2, hBoth.1⟩
  · exact absurd rfl h

/-- Every contact holds what its events add up to. -/
theorem contacts_accumulate (h : CreatesOnce log) {projection : QsoCurrentStateProjection}
    (hRebuild : rebuild QsoCurrentStateProjection log = .ok projection) (id : Uuid) :
    projection.contents id = (contactLedger id).accumulated log :=
  (contactLedger id).accumulated_of_replay (fun projection => projection.contents id)
    (fun _ _ _ hNext => QsoCurrentStateProjection.contents_apply hNext id) rfl
    (h.ledger (by decide) entityLedger_creates_of) hRebuild

/-- So does every activation. -/
theorem activations_accumulate (h : CreatesOnce log) {projection : ActivationProjection}
    (hRebuild : rebuild ActivationProjection log = .ok projection) (id : Uuid) :
    projection.contents id = (activationLedger id).accumulated log :=
  (activationLedger id).accumulated_of_replay (fun projection => projection.contents id)
    (fun _ _ _ hNext => ActivationProjection.contents_apply hNext id) rfl
    (h.ledger (by decide) activationLedger_creates_of) hRebuild

/-- The payloads of the net records are what the events of each add up to. -/
structure NetControlProjection.HoldsLedgers (projection : NetControlProjection)
    (log : List CoreEventEnvelope) : Prop where
  templates : ∀ id, projection.templatePayload id = (netTemplateLedger id).accumulated log
  sessions : ∀ id, projection.sessionPayload id = (netSessionLedger id).accumulated log
  checkins : ∀ id, projection.checkinPayload id = (netCheckinLedger id).accumulated log
  traffic : ∀ id, projection.trafficPayload id = (netTrafficLedger id).accumulated log

theorem nets_accumulate (h : CreatesOnce log) {projection : NetControlProjection}
    (hRebuild : rebuild NetControlProjection log = .ok projection) :
    projection.HoldsLedgers log where
  templates id := (netTemplateLedger id).accumulated_of_replay (fun p => p.templatePayload id)
    (fun _ _ _ hNext => (NetControlProjection.followsLedgers_apply hNext).templates id) rfl
    (h.ledger (by decide) entityLedger_creates_of) hRebuild
  sessions id := (netSessionLedger id).accumulated_of_replay (fun p => p.sessionPayload id)
    (fun _ _ _ hNext => (NetControlProjection.followsLedgers_apply hNext).sessions id) rfl
    (h.ledger (by decide) entityLedger_creates_of) hRebuild
  checkins id := (netCheckinLedger id).accumulated_of_replay (fun p => p.checkinPayload id)
    (fun _ _ _ hNext => (NetControlProjection.followsLedgers_apply hNext).checkins id) rfl
    (h.ledger (by decide) entityLedger_creates_of) hRebuild
  traffic id := (netTrafficLedger id).accumulated_of_replay (fun p => p.trafficPayload id)
    (fun _ _ _ hNext => (NetControlProjection.followsLedgers_apply hNext).traffic id) rfl
    (h.ledger (by decide) entityLedger_creates_of) hRebuild

variable [ChronoCrate]

/-- The histories of the incident records are what the events of each add up
to, and the activity log has an entry for every event that logs one. -/
structure EmCommProjection.HoldsLedgers (projection : EmCommProjection)
    (log : List CoreEventEnvelope) : Prop where
  incidents : ∀ id, projection.incidentHistory id = (incidentLedger id).accumulated log
  periods : ∀ id, projection.periodHistory id = (periodLedger id).accumulated log
  people : ∀ id, projection.personHistory id = (personLedger id).accumulated log
  assignments : ∀ id, projection.assignmentHistory id = (assignmentLedger id).accumulated log
  messages : ∀ id, projection.messageHistory id = (messageLedger id).accumulated log
  activity : projection.activity.map ActivityLogEntry.eventHash =
    (log.filter logsActivity).map CoreEventEnvelope.eventHash

/-- Nothing that creates anew takes an entry of the activity log away. -/
theorem activity_logged {projection : EmCommProjection}
    (hRebuild : rebuild EmCommProjection log = .ok projection) :
    projection.activity.map ActivityLogEntry.eventHash =
      (log.filter logsActivity).map CoreEventEnvelope.eventHash := by
  have hAll : Accepted (fun _ _ => True) ([] ++ log) := fun _ _ _ _ => trivial
  refine Replay.replay_invariant (fun seen (state : EmCommProjection) =>
    state.activity.map ActivityLogEntry.eventHash =
      (seen.filter logsActivity).map CoreEventEnvelope.eventHash) ?_ [] rfl hAll hRebuild
  intro seen state event next _ hState hNext
  rw [(EmCommProjection.followsLedgers_apply hNext).activity, hState, List.filter_append,
    List.map_append]
  cases hLogs : logsActivity event <;> simp [hLogs]

theorem incidents_accumulate (h : CreatesOnce log) {projection : EmCommProjection}
    (hRebuild : rebuild EmCommProjection log = .ok projection) :
    projection.HoldsLedgers log where
  incidents id := (incidentLedger id).accumulated_of_replay (fun p => p.incidentHistory id)
    (fun _ _ _ hNext => (EmCommProjection.followsLedgers_apply hNext).incidents id) rfl
    (h.ledger (by decide) entityLedger_creates_of) hRebuild
  periods id := (periodLedger id).accumulated_of_replay (fun p => p.periodHistory id)
    (fun _ _ _ hNext => (EmCommProjection.followsLedgers_apply hNext).periods id) rfl
    (h.ledger (by decide) entityLedger_creates_of) hRebuild
  people id := (personLedger id).accumulated_of_replay (fun p => p.personHistory id)
    (fun _ _ _ hNext => (EmCommProjection.followsLedgers_apply hNext).people id) rfl
    (h.ledger (by decide) entityLedger_creates_of) hRebuild
  assignments id := (assignmentLedger id).accumulated_of_replay (fun p => p.assignmentHistory id)
    (fun _ _ _ hNext => (EmCommProjection.followsLedgers_apply hNext).assignments id) rfl
    (h.ledger (by decide) entityLedger_creates_of) hRebuild
  messages id := (messageLedger id).accumulated_of_replay (fun p => p.messageHistory id)
    (fun _ _ _ hNext => (EmCommProjection.followsLedgers_apply hNext).messages id) rfl
    (h.ledger (by decide) entityLedger_creates_of) hRebuild
  activity := activity_logged hRebuild

end Projections

/-! What was added up stays, in its order, whatever comes later. -/

section Growth
variable {before : List CoreEventEnvelope} (after : List CoreEventEnvelope)

theorem historyLedger_keeps {creating amending : List EventType} {id : Uuid}
    {history : List RecordChange}
    (h : (historyLedger creating amending id).accumulated before = some history) :
    ∃ later, (historyLedger creating amending id).accumulated (before ++ after) = some later ∧
      history <+: later := by
  refine Ledger.accumulated_relation _ List.prefix_refl (fun _ _ _ => List.IsPrefix.trans) ?_ h
    after
  intro event history
  unfold historyLedger entityLedger
  dsimp only
  split
  · exact List.prefix_append _ _
  · exact List.prefix_refl _

variable [UuidCrate]

theorem contactLedger_keeps {id : Uuid} {contents : ContactContents}
    (h : (contactLedger id).accumulated before = some contents) :
    ∃ later, (contactLedger id).accumulated (before ++ after) = some later ∧
      contents.notes <+: later.notes := by
  refine Ledger.accumulated_relation _ (R := fun a b => a.notes <+: b.notes)
    (fun _ => List.prefix_refl _) (fun _ _ _ => List.IsPrefix.trans) ?_ h after
  intro event contents
  unfold contactLedger entityLedger
  dsimp only
  split
  · split
    · exact List.prefix_append _ _
    · exact List.prefix_refl _
  · exact List.prefix_refl _

theorem activationLedger_keeps {id : Uuid} {contents : ActivationContents}
    (h : (activationLedger id).accumulated before = some contents) :
    ∃ later, (activationLedger id).accumulated (before ++ after) = some later ∧
      contents.notes <+: later.notes := by
  refine Ledger.accumulated_relation _ (R := fun a b => a.notes <+: b.notes)
    (fun _ => List.prefix_refl _) (fun _ _ _ => List.IsPrefix.trans) ?_ h after
  intro event contents
  unfold activationLedger
  dsimp only
  split
  all_goals try split
  all_goals first | exact List.prefix_refl _ | exact List.prefix_append _ _

end Growth

section Runs
variable {B : Type} [EventBus B] [UuidCrate] [ChronoCrate] [RustFmt] [CanonicalJson] [Sha2Crate]

/-- The accepted proposal creates no record of an entity that has one. -/
def RecreatesNothing (seen : List CoreEventEnvelope) (newEvent : NewLogbookEvent) : Prop :=
  CreatesNew newEvent.eventType newEvent.entityId seen

/-- As long as no accepted proposal creates a record of an entity that has
one, every record holds what the events of its entity add up to. -/
theorem records_accumulate {logbookId : Uuid} {start : InMemoryLogbookEventStore} {bus : B}
    {calls : List SubmitCall} {final : InMemoryLogbookEventStore × B} (hStart : start.Consistent)
    (hEmpty : start.listEvents logbookId = [])
    (run : Run ((proposalSystem B).restrict (AcceptsOnly logbookId RecreatesNothing)) (start, bus)
      calls final) :
    let log := final.1.listEvents logbookId
    (∃ contacts, rebuild QsoCurrentStateProjection log = .ok contacts ∧
      ∀ id, contacts.contents id = (contactLedger id).accumulated log) ∧
    (∃ activations, rebuild ActivationProjection log = .ok activations ∧
      ∀ id, activations.contents id = (activationLedger id).accumulated log) ∧
    (∃ nets, rebuild NetControlProjection log = .ok nets ∧ nets.HoldsLedgers log) ∧
    ∀ incidents, rebuild EmCommProjection log = .ok incidents → incidents.HoldsLedgers log := by
  intro log
  have hLog : Accepted (fun seen event => Readable seen event ∧
      CreatesNew event.eventType event.entityId seen) log := by
    refine (accepted_run ?_ run hStart (by rw [hEmpty]; exact Replay.accepted_nil _)).2
    intro store context proposal fresh newEvent stamp hAccepts _ hNew
    refine ⟨hAccepts.readable _ _ _, ?_⟩
    rw [officialEventAt, CoreEventEnvelope.fromNew_eventType, CoreEventEnvelope.fromNew_entityId]
    exact hNew
  obtain ⟨hReadable, hOnce⟩ := (Replay.accepted_and _ _ _).mp hLog
  obtain ⟨⟨contacts, hContacts⟩, ⟨activations, hActivations⟩, ⟨nets, hNets⟩⟩ :=
    (rebuilds_iff_readable _).mpr hReadable
  exact ⟨⟨contacts, hContacts, contacts_accumulate hOnce hContacts⟩,
    ⟨activations, hActivations, activations_accumulate hOnce hActivations⟩,
    ⟨nets, hNets, nets_accumulate hOnce hNets⟩,
    fun _ hIncidents => incidents_accumulate hOnce hIncidents⟩

end Runs

section
open Crates

/-- A note on the contact. -/
def sampleNote : SubmitCall :=
  sampleSubmit .qsoNoteAdd .qsoNoteAdd 2 [("note", .string "first contact")] 5

/-- The same contact created once more. -/
def sampleContactAgain : SubmitCall :=
  { sampleContact with stamp := { freshEntityId := 3, event := sampleStamp 6 } }

theorem records_accumulate_noted :
    let log := ([sampleContact, sampleNote].foldl afterSubmission emptyLogbooks).1.listEvents 1
    ∃ contacts, rebuild QsoCurrentStateProjection log = .ok contacts ∧
      ∀ id, contacts.contents id = (contactLedger id).accumulated log := by
  have hCreate : AcceptsOnly 1 RecreatesNothing emptyLogbooks sampleContact := by
    intro _ newEvent _ kinds _ _ id _ hEarlier
    obtain ⟨event, hEvent, _⟩ := hEarlier
    cases hEvent
  have hNote : AcceptsOnly 1 RecreatesNothing (afterSubmission emptyLogbooks sampleContact)
      sampleNote := by
    intro _ newEvent hAccepts kinds hKinds hType
    rw [← Except.ok.inj hAccepts.official] at hType
    have hApart : ∀ kinds ∈ creationKinds, .qsoNoteAdded ∉ kinds := by decide
    exact absurd hType (hApart kinds hKinds)
  have hSubmits : SubmitsOnly (AcceptsOnly 1 RecreatesNothing) emptyLogbooks
      [sampleContact, sampleNote] := ⟨hCreate, rfl, hNote, by decide +kernel, trivial⟩
  exact (records_accumulate ⟨[], InMemoryLogbookEventStore.represents_empty⟩ rfl hSubmits.run).1

/-- A contact is created once more, and its note is gone. -/
theorem recreated_contact_loses_note :
    ∃ final, Run (proposalSystem InMemoryEventBus) emptyLogbooks
        [sampleContact, sampleNote, sampleContactAgain] final ∧
      (∃ event ∈ final.1.listEvents 1, event.eventType = .qsoNoteAdded ∧
        event.entityId = some 2) ∧
      ∃ projection, rebuild QsoCurrentStateProjection (final.1.listEvents 1) = .ok projection ∧
        ∃ record, projection.get 2 = some record ∧ record.noteHistory = [] := by
  have hRun : SubmitsOnly (fun _ _ => True) emptyLogbooks
      [sampleContact, sampleNote, sampleContactAgain] :=
    ⟨trivial, rfl, trivial, by decide +kernel, trivial, by decide +kernel, trivial⟩
  refine ⟨_, hRun.run.of_restrict, by decide +kernel, ?_⟩
  have hNotes : ((rebuild QsoCurrentStateProjection
      (([sampleContact, sampleNote, sampleContactAgain].foldl afterSubmission
        emptyLogbooks).1.listEvents 1)).toOption.bind fun projection =>
          projection.get 2).map QsoRecord.noteHistory = some [] := by
    decide +kernel
  obtain ⟨record, hRecord, hNone⟩ := Option.map_eq_some_iff.mp hNotes
  obtain ⟨projection, hProjection, hFound⟩ := Option.bind_eq_some_iff.mp hRecord
  exact ⟨projection, (except_toOption_eq_some_iff ..).mp hProjection, record, hFound, hNone⟩

end
end HamLogger
