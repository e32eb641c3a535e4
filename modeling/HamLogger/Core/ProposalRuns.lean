import HamLogger.Core.Submission
import HamLogger.Core.StoreRuns

/-! Sequences of submissions to the in-memory store, by any operators, over
any bus and any number of logbooks. -/
namespace HamLogger

open InMemoryLogbookEventStore
open Replay (Accepted)
open Transition (Run System)

/-- An entity that is created is the one the proposal names, if it names one. -/
theorem officialEntityId_ok {proposal : ProposalEnvelope} {creates : Bool} {fresh id : Uuid}
    (h : officialEntityId proposal creates fresh = .ok id) :
    ∀ named, proposal.entityId = some named → id = named := by
  intro named hNamed
  unfold officialEntityId requireEntityId at h
  rw [hNamed] at h
  split at h
  · exact (Except.ok.inj h).symm
  · exact (Except.ok.inj h).symm

variable [UuidCrate]

/-- How the official event of a proposal is made. -/
structure IsOfficialEventOf (proposal : ProposalEnvelope) (newEvent : NewLogbookEvent) : Prop where
  eventType : ∃ creates,
    officialEventType proposal.proposalType = some (newEvent.eventType, creates)
  entity : ∃ id, newEvent.entityId = some id ∧
    (∀ named, proposal.entityId = some named → id = named) ∧
    proposal.payload.set (entityKey proposal.proposalType) (uuidJson id) = some newEvent.payload
  logbook : newEvent.logbookId = proposal.logbookId
  version : newEvent.schemaVersion = proposal.schemaVersion

theorem toOfficialEvent_ok {proposal : ProposalEnvelope} {fresh : Uuid} {newEvent : NewLogbookEvent}
    (h : toOfficialEvent proposal fresh = .ok newEvent) : IsOfficialEventOf proposal newEvent := by
  unfold toOfficialEvent at h
  split at h
  · cases h
  · rename_i eventType creates hType
    obtain ⟨id, hId, hRest⟩ := (except_bind_eq_ok_iff ..).mp h
    obtain ⟨payload, hPayload, hEvent⟩ := (except_bind_eq_ok_iff ..).mp hRest
    obtain rfl := Except.ok.inj hEvent
    unfold assignField at hPayload
    split at hPayload
    · rename_i result hSet
      obtain rfl := Except.ok.inj hPayload
      exact ⟨⟨creates, hType⟩, ⟨id, rfl, officialEntityId_ok hId, hSet⟩, rfl, rfl⟩
    · cases hPayload

variable [ChronoCrate]

/-- A proposal that passes the schema checks has a version and an object. -/
theorem validateQsoSchema_ok {S : Type} [LogbookEventStore S] {store : S}
    {proposal : ProposalEnvelope} (h : validateQsoSchema store proposal = .ok ()) :
    proposal.schemaVersion ≠ 0 ∧ ∃ payload, proposal.payload = .object payload ∧
      validatePayload store proposal payload = .ok () := by
  unfold validateQsoSchema at h
  split at h
  · cases h
  · rename_i hVersion
    refine ⟨hVersion, ?_⟩
    cases hPayload : proposal.payload with
    | object payload =>
        rw [hPayload] at h
        exact ⟨payload, rfl, h⟩
    | _ =>
        rw [hPayload] at h
        cases h

/-- One submission to a store. -/
structure SubmitCall where
  context : ProposalContext
  proposal : ProposalEnvelope
  stamp : SubmissionStamp

section Runs
variable {B : Type} [EventBus B] [CanonicalJson] [Sha2Crate] [RustFmt]

/-- Submissions that draw an event identifier the store does not hold. -/
def proposalSystem (B : Type) [EventBus B] : System (InMemoryLogbookEventStore × B) SubmitCall where
  step state call next := state.1.getEvent call.stamp.event.eventId = none ∧
    ((submitProposal call.context call.proposal call.stamp).execute state).1 = next

/-- The event that a submission appends. -/
def officialEventAt (store : InMemoryLogbookEventStore) (newEvent : NewLogbookEvent)
    (stamp : EventStamp) : CoreEventEnvelope :=
  .fromNew newEvent (store.getHead newEvent.logbookId) stamp

/-- A submission leaves the store as it was, or inserts the official event of
a proposal that passed every check. -/
theorem proposalSystem_cases {state next : InMemoryLogbookEventStore × B} {call : SubmitCall}
    (h : (proposalSystem B).step state call next) :
    next.1 = state.1 ∨ ∃ newEvent,
      Accepts state.1 call.context call.proposal call.stamp.freshEntityId newEvent ∧
      next.1 = state.1.insertEvent (officialEventAt state.1 newEvent call.stamp.event) := by
  obtain ⟨store, bus⟩ := state
  have hLeaves := submitProposal_ensures store call.context call.proposal call.stamp bus
  rw [← h.2]
  rcases hLeaves with ⟨hSame, _⟩ | ⟨newEvent, hAccepts, hLater, _⟩
  · exact Or.inl hSame
  · exact Or.inr ⟨newEvent, hAccepts, hLater⟩

/-- A submission leaves the events of a logbook alone, or appends the official
event of an accepted proposal to them. -/
theorem listEvents_step {state next : InMemoryLogbookEventStore × B} {call : SubmitCall}
    (hConsistent : state.1.Consistent) (h : (proposalSystem B).step state call next)
    (logbookId : Uuid) : next.1.Consistent ∧
      (next.1.listEvents logbookId = state.1.listEvents logbookId ∨ ∃ newEvent,
        Accepts state.1 call.context call.proposal call.stamp.freshEntityId newEvent ∧
        call.proposal.logbookId = logbookId ∧
        next.1.listEvents logbookId = state.1.listEvents logbookId ++
          [officialEventAt state.1 newEvent call.stamp.event]) := by
  rcases proposalSystem_cases h with hSame | ⟨newEvent, hAccepts, hNext⟩
  · rw [hSame]
    exact ⟨hConsistent, Or.inl rfl⟩
  · obtain ⟨history, hHistory⟩ := hConsistent
    have hLogbook := (toOfficialEvent_ok hAccepts.official).logbook
    have hLater : next.1.Represents
        (history ++ [officialEventAt state.1 newEvent call.stamp.event]) := by
      rw [hNext]
      exact hHistory.insertEvent h.1
    refine ⟨⟨_, hLater⟩, ?_⟩
    rw [hLater.listEvents, ofLogbook_append, ← hHistory.listEvents]
    by_cases hOwn : newEvent.logbookId = logbookId
    · refine Or.inr ⟨newEvent, hAccepts, hLogbook.symm.trans hOwn, ?_⟩
      simp [ofLogbook, officialEventAt, hOwn]
    · left
      simp [ofLogbook, officialEventAt, hOwn]

/-- If the submission is accepted into the logbook, its official event meets a
condition, which may look at the events before it. -/
def AcceptsOnly (logbookId : Uuid) (condition : List CoreEventEnvelope → NewLogbookEvent → Prop)
    (state : InMemoryLogbookEventStore × B) (call : SubmitCall) : Prop :=
  call.proposal.logbookId = logbookId → ∀ newEvent,
    Accepts state.1 call.context call.proposal call.stamp.freshEntityId newEvent →
      condition (state.1.listEvents logbookId) newEvent

/-- What holds of every event that is accepted holds of the events of the
logbook after every run. -/
theorem accepted_run {logbookId : Uuid}
    {condition : List CoreEventEnvelope → NewLogbookEvent → Prop}
    {accepts : List CoreEventEnvelope → CoreEventEnvelope → Prop}
    (hAccepts : ∀ (store : InMemoryLogbookEventStore) context proposal fresh newEvent stamp,
      Accepts store context proposal fresh newEvent → proposal.logbookId = logbookId →
        condition (store.listEvents logbookId) newEvent →
          accepts (store.listEvents logbookId) (officialEventAt store newEvent stamp))
    {start final : InMemoryLogbookEventStore × B} {calls : List SubmitCall}
    (run : Run ((proposalSystem B).restrict (AcceptsOnly logbookId condition)) start calls final)
    (hStart : start.1.Consistent)
    (hLog : Accepted accepts (start.1.listEvents logbookId)) :
    final.1.Consistent ∧ Accepted accepts (final.1.listEvents logbookId) := by
  refine run.invariant (P := fun state =>
    state.1.Consistent ∧ Accepted accepts (state.1.listEvents logbookId)) ?_ ⟨hStart, hLog⟩
  intro state call next h hStep
  obtain ⟨hGuard, hStep⟩ := hStep
  obtain ⟨hNext, hSame | ⟨newEvent, hAccepted, hLogbook, hMore⟩⟩ :=
    listEvents_step h.1 hStep logbookId
  · rw [hSame]
    exact ⟨hNext, h.2⟩
  · refine ⟨hNext, ?_⟩
    rw [hMore, Replay.accepted_snoc]
    exact ⟨h.2, hAccepts _ _ _ _ _ _ hAccepted hLogbook (hGuard hLogbook newEvent hAccepted)⟩

/-- Later events of a logbook come after the earlier ones. -/
theorem listEvents_run {start final : InMemoryLogbookEventStore × B} {calls : List SubmitCall}
    (run : Run (proposalSystem B) start calls final) (hStart : start.1.Consistent)
    (logbookId : Uuid) : final.1.Consistent ∧
      ∃ more, final.1.listEvents logbookId = start.1.listEvents logbookId ++ more := by
  refine run.invariant (P := fun state => state.1.Consistent ∧
    ∃ more, state.1.listEvents logbookId = start.1.listEvents logbookId ++ more) ?_
    ⟨hStart, [], (List.append_nil _).symm⟩
  intro state call next h hStep
  obtain ⟨hConsistent, more, hEvents⟩ := h
  obtain ⟨hNext, hSame | ⟨newEvent, _, _, hMore⟩⟩ := listEvents_step hConsistent hStep logbookId
  · exact ⟨hNext, more, hSame.trans hEvents⟩
  · exact ⟨hNext, more ++ [_], by rw [hMore, hEvents, List.append_assoc]⟩

/-- The state after one submission. -/
def afterSubmission (state : InMemoryLogbookEventStore × B) (call : SubmitCall) :
    InMemoryLogbookEventStore × B :=
  ((submitProposal call.context call.proposal call.stamp).execute state).1

/-- Submissions that draw new event identifiers and meet a guard, one after
another. -/
def SubmitsOnly (allowed : InMemoryLogbookEventStore × B → SubmitCall → Prop) :
    InMemoryLogbookEventStore × B → List SubmitCall → Prop
  | _, [] => True
  | state, call :: rest =>
      allowed state call ∧ state.1.getEvent call.stamp.event.eventId = none ∧
        SubmitsOnly allowed (afterSubmission state call) rest

theorem SubmitsOnly.run {allowed : InMemoryLogbookEventStore × B → SubmitCall → Prop}
    {state : InMemoryLogbookEventStore × B} {calls : List SubmitCall}
    (h : SubmitsOnly allowed state calls) :
    Run ((proposalSystem B).restrict allowed) state calls (calls.foldl afterSubmission state) := by
  induction calls generalizing state with
  | nil => exact Run.nil state
  | cons call rest ih =>
      obtain ⟨hAllowed, hFresh, hRest⟩ := h
      have hFirst : ((proposalSystem B).restrict allowed).step state call
          (afterSubmission state call) := ⟨hAllowed, hFresh, rfl⟩
      exact (Run.single hFirst).trans (ih hRest)

end Runs
end HamLogger
