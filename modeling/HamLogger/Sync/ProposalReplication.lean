import HamLogger.Core.Crates
import HamLogger.Core.ProposalRuns
import HamLogger.Sync.PullGuarantees

/-! Whether peers accept what was appended here. The checks on a proposal and
the checks on a remote event are independent of each other; they agree except
on the version of the schema and on the incident record model. -/
namespace HamLogger

open InMemoryLogbookEventStore
open Transition (Run)

/-- The official event types are those that peers accept and those of the
incident record model. -/
theorem officialEventType_supported {proposalType : ProposalType} {eventType : EventType}
    {creates : Bool} (h : officialEventType proposalType = some (eventType, creates)) :
    isSupportedRemoteType eventType = !eventType.isEmComm ∧
      eventType.isEmComm = proposalType.isEmComm := by
  cases proposalType <;> simp only [officialEventType, Option.some.injEq, Prod.mk.injEq,
    reduceCtorEq] at h <;> obtain ⟨rfl, rfl⟩ := h <;> exact ⟨rfl, rfl⟩

section Append
variable [UuidCrate] [ChronoCrate] [RustFmt] [CanonicalJson] [Sha2Crate]
variable {B : Type} [EventBus B]

/-- Peers accept the event of a successful submission exactly when it has
version 1 and is not about an incident. -/
theorem accepted_event_valid_iff {store : InMemoryLogbookEventStore} {bus : B}
    {context : ProposalContext} {proposal : ProposalEnvelope} {stamp : SubmissionStamp}
    {accepted : ProposalOutcome}
    (h : ((submitProposal context proposal stamp).execute (store, bus)).2 = .ok accepted) :
    validateSupportedRemoteEvent accepted.officialEvent = .ok () ↔
      proposal.schemaVersion = 1 ∧ proposal.proposalType.isEmComm = false := by
  rcases submitProposal_ensures store context proposal stamp bus with ⟨_, hNot⟩ |
    ⟨newEvent, hAccepts, _, hAppended⟩
  · exact absurd h (hNot accepted)
  · have hOfficial := toOfficialEvent_ok hAccepts.official
    obtain ⟨creates, hType⟩ := hOfficial.eventType
    obtain ⟨hSupported, hEmComm⟩ := officialEventType_supported hType
    have hEvent : officialEventAt store newEvent stamp.event = accepted.officialEvent :=
      Except.ok.inj (hAppended accepted h)
    rw [← hEvent, officialEventAt, validateSupportedRemoteEvent_fromNew, hOfficial.version,
      hSupported, hEmComm]
    simp

/-- What every logbook built by submissions satisfies. -/
structure BuiltByProposals (logbookId : Uuid) (store : InMemoryLogbookEventStore) : Prop where
  consistent : store.Consistent
  chain : ChainOk (store.listEvents logbookId)
  types : ∀ event ∈ store.listEvents logbookId,
    isSupportedRemoteType event.eventType = !event.eventType.isEmComm

/-- A submission keeps what it finds. -/
theorem BuiltByProposals.step {logbookId : Uuid} {state next : InMemoryLogbookEventStore × B}
    {call : SubmitCall} (h : BuiltByProposals logbookId state.1)
    (hStep : (proposalSystem B).step state call next) : BuiltByProposals logbookId next.1 := by
  rcases proposalSystem_cases hStep with hSame | ⟨newEvent, hAccepts, hNext⟩
  · rw [hSame]
    exact h
  · obtain ⟨⟨history, hHistory⟩, hChain, hTypes⟩ := h
    rw [hHistory.listEvents] at hChain hTypes
    let event := officialEventAt state.1 newEvent call.stamp.event
    have hLater : next.1.Represents (history ++ [event]) := by
      rw [hNext]
      exact hHistory.insertEvent hStep.1
    refine ⟨⟨_, hLater⟩, ?_, ?_⟩
    · rw [hLater.listEvents]
      exact hHistory.chainOk_insert (CoreEventEnvelope.fromNew_hashIsValid ..) rfl hChain
    · rw [hLater.listEvents, ofLogbook_append]
      intro other hMem
      rcases List.mem_append.mp hMem with hOld | hNew
      · exact hTypes other hOld
      · obtain rfl := List.mem_singleton.mp (mem_ofLogbook.mp hNew).1
        obtain ⟨creates, hType⟩ := (toOfficialEvent_ok hAccepts.official).eventType
        exact (officialEventType_supported hType).1

/-- What is appended here and what peers accept: a successful submission gives
an event that peers accept exactly when its proposal has version 1 and is not
about an incident, and a logbook built by submissions is reproduced in an
empty store exactly when it holds an event and only such events. -/
theorem proposals_replicate_iff :
    (∀ (store : InMemoryLogbookEventStore) (bus : B) (context : ProposalContext)
        (proposal : ProposalEnvelope) (stamp : SubmissionStamp) (accepted : ProposalOutcome),
      ((submitProposal context proposal stamp).execute (store, bus)).2 = .ok accepted →
      (validateSupportedRemoteEvent accepted.officialEvent = .ok () ↔
        proposal.schemaVersion = 1 ∧ proposal.proposalType.isEmComm = false)) ∧
    ∀ (start : InMemoryLogbookEventStore) (bus : B) (calls : List SubmitCall)
        (final : InMemoryLogbookEventStore × B) (request : PullEventsRequest),
      start.Consistent → start.listEvents request.logbookId = [] →
      Run (proposalSystem B) (start, bus) calls final →
      (((pullMissingEvents ({} : InMemoryLogbookEventStore) request
            (final.1.listEvents request.logbookId)).2.status = .pulled ∧
          (pullMissingEvents ({} : InMemoryLogbookEventStore) request
            (final.1.listEvents request.logbookId)).1.listEvents request.logbookId =
            final.1.listEvents request.logbookId) ↔
        final.1.listEvents request.logbookId ≠ [] ∧
          ∀ event ∈ final.1.listEvents request.logbookId,
            event.schemaVersion = 1 ∧ event.eventType.isEmComm = false) := by
  refine ⟨fun store bus context proposal stamp accepted h => accepted_event_valid_iff h, ?_⟩
  intro start bus calls final request hConsistent hEmpty hRun
  have hStart : BuiltByProposals request.logbookId start :=
    ⟨hConsistent, by rw [hEmpty]; exact ⟨by simp, trivial⟩, by rw [hEmpty]; simp⟩
  have hBuilt : BuiltByProposals request.logbookId final.1 :=
    hRun.invariant (P := fun state => BuiltByProposals request.logbookId state.1)
      (fun state call next h hStep => h.step hStep) hStart
  obtain ⟨⟨history, hHistory⟩, hChain, hTypes⟩ := hBuilt
  have hList := hHistory.listEvents request.logbookId
  have hLogbook : ∀ event ∈ final.1.listEvents request.logbookId,
      event.logbookId = request.logbookId := by
    rw [hList]
    exact fun event hMem => (mem_ofLogbook.mp hMem).2
  have hDistinct : DistinctIds (final.1.listEvents request.logbookId) := by
    rw [hList]
    exact hHistory.distinct.ofLogbook _
  rw [pull_into_empty_iff request hLogbook hDistinct hChain.2]
  refine and_congr_right fun _ => forall₂_congr fun event hMem => ?_
  rw [validateSupportedRemoteEvent_ok_iff, hTypes event hMem]
  simp [hChain.1 event hMem]

end Append

open scoped Crates in
theorem proposals_replicate_iff_template :
    let call : SubmitCall :=
      { context := .localAdmin (Crates.sampleManifest .netTemplateCreate) .admin
        proposal := Crates.sampleProposal .netTemplateCreate 1 (some 2)
          (.object [("name", .string "weekly")])
        stamp := { freshEntityId := 3, event := Crates.sampleStamp 4 } }
    let start : InMemoryLogbookEventStore × InMemoryEventBus := ({}, { receiverCount := 0 })
    let request : PullEventsRequest := { peerId := "peer", logbookId := 1, localHeadHash := none }
    ∃ accepted final,
      ((submitProposal call.context call.proposal call.stamp).execute start).2 = .ok accepted ∧
      (validateSupportedRemoteEvent accepted.officialEvent = .ok () ↔
        call.proposal.schemaVersion = 1 ∧ call.proposal.proposalType.isEmComm = false) ∧
      Run (proposalSystem InMemoryEventBus) start [call] final ∧
      (((pullMissingEvents ({} : InMemoryLogbookEventStore) request
            (final.1.listEvents 1)).2.status = .pulled ∧
          (pullMissingEvents ({} : InMemoryLogbookEventStore) request
            (final.1.listEvents 1)).1.listEvents 1 = final.1.listEvents 1) ↔
        final.1.listEvents 1 ≠ [] ∧ ∀ event ∈ final.1.listEvents 1,
          event.schemaVersion = 1 ∧ event.eventType.isEmComm = false) := by
  intro call start request
  obtain ⟨hEvents, hPull⟩ := proposals_replicate_iff (B := InMemoryEventBus)
  obtain ⟨final, hRun⟩ : ∃ final, Run (proposalSystem InMemoryEventBus) start [call] final :=
    ⟨_, Run.single ⟨rfl, rfl⟩⟩
  obtain ⟨accepted, hAccepted⟩ : ∃ accepted,
      ((submitProposal call.context call.proposal call.stamp).execute start).2 = .ok accepted :=
    ⟨_, rfl⟩
  refine ⟨accepted, final, hAccepted, ?_, hRun, ?_⟩
  · exact hEvents start.1 start.2 call.context call.proposal call.stamp accepted hAccepted
  · exact hPull start.1 start.2 [call] final request ⟨[], represents_empty⟩ rfl hRun

open scoped Crates in
/-- An administrator opens an incident: the event is appended and no peer
accepts it. -/
theorem incident_appended_and_refused :
    let context : ProposalContext :=
      .localAdmin (Crates.sampleManifest .emCommIncidentManage) .admin
    let proposal := Crates.sampleProposal .emcommIncidentOpen 1 (some 2)
      (.object [("incident_name", .string "flood"), ("opened_at", .string "")])
    let stamp : SubmissionStamp := { freshEntityId := 3, event := Crates.sampleStamp 4 }
    ∃ accepted, ((submitProposal context proposal stamp).execute
        (({} : InMemoryLogbookEventStore), ({ receiverCount := 0 } : InMemoryEventBus))).2 =
          .ok accepted ∧
      validateSupportedRemoteEvent accepted.officialEvent ≠ .ok () := by
  intro context proposal stamp
  obtain ⟨accepted, hRun⟩ : ∃ accepted, ((submitProposal context proposal stamp).execute
      (({} : InMemoryLogbookEventStore), ({ receiverCount := 0 } : InMemoryEventBus))).2 =
        .ok accepted := ⟨_, rfl⟩
  refine ⟨accepted, hRun, ?_⟩
  rw [ne_eq, accepted_event_valid_iff hRun]
  simp [proposal, Crates.sampleProposal, ProposalType.isEmComm]

end HamLogger
