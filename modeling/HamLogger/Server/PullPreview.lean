import HamLogger.Server.SyncHandlers
import HamLogger.Sync.PullGuarantees

/-! A preview of a pull against the pull itself. The two look for the local
head in the remote list by code of their own. -/
namespace HamLogger

open InMemoryLogbookEventStore
open Replay (Accepted)

/-- The events after an event of a chain continue it. -/
theorem linked_missingEventsAfter {log missing : List CoreEventEnvelope} {head : Option String}
    (hLinked : eventChain.Linked none log) (h : missingEventsAfter log head = some missing) :
    missing <:+ log ∧ eventChain.Linked head missing := by
  cases head with
  | none =>
      obtain rfl : log = missing := Option.some.inj h
      exact ⟨List.suffix_refl _, hLinked⟩
  | some hash =>
      simp only [missingEventsAfter, Option.map_eq_some_iff] at h
      obtain ⟨index, hIndex, rfl⟩ := h
      obtain ⟨hLt, hFound, _⟩ := List.findIdx?_eq_some_iff_getElem.mp hIndex
      refine ⟨List.drop_suffix _ _, ?_⟩
      have hParts := hLinked
      rw [← List.take_append_drop (index + 1) log, HashChain.Scheme.linked_append] at hParts
      have hTip : eventChain.tip none (log.take (index + 1)) = some hash := by
        rw [List.take_add_one, List.getElem?_eq_getElem hLt, HashChain.Scheme.tip_append]
        show some log[index].eventHash = some hash
        rw [beq_iff_eq.mp hFound]
      rw [hTip] at hParts
      exact hParts.2

/-- A list from the beginning of a chain is no tail of another one. -/
theorem missingBatch_of_linked {log : List CoreEventEnvelope} {head : Option String}
    (hLinked : eventChain.Linked none log) :
    missingBatch log head = missingEventsAfter log head := by
  unfold missingBatch
  cases hAfter : missingEventsAfter log head with
  | some missing => rfl
  | none =>
      have hTail : remoteEventsAreMissingTail log head = false := by
        cases head with
        | none => rfl
        | some hash =>
            cases log with
            | nil => rfl
            | cons first rest =>
                have hFirst : first.previousHash = none := hLinked.1
                simp [remoteEventsAreMissingTail, hFirst]
      rw [hTail]
      rfl

/-- What the store does not hold of a chain is new to it, where the local
chain goes on with it. -/
theorem missing_new [CanonicalJson] [Sha2Crate] {store : InMemoryLogbookEventStore}
    {logbookId : Uuid} {log history missing : List CoreEventEnvelope} (h : store.Verified history)
    (hAcyclic : eventChain.Acyclic fun event => event ∈ log ∨ event ∈ history)
    (hLog : ∀ event ∈ log, event.logbookId = logbookId)
    (hClash : ∀ event ∈ log, ∀ stored,
      store.getEvent event.eventId = some stored → stored = event)
    (hSuffix : missing <:+ log)
    (hLinked : eventChain.Linked (store.getHead logbookId) missing) :
    ∀ event ∈ missing, store.getEvent event.eventId = none := by
  have hJoined : eventChain.Linked none (ofLogbook history logbookId ++ missing) := by
    rw [HashChain.Scheme.linked_append, ← h.represents.head]
    exact ⟨(h.chain _).2, hLinked⟩
  have hNodup : (ofLogbook history logbookId ++ missing).Nodup := by
    refine hAcyclic.nodup hJoined ?_
    intro event hMem
    rcases List.mem_append.mp hMem with hOld | hNew
    · exact Or.inr (mem_ofLogbook.mp hOld).1
    · exact Or.inl (hSuffix.subset hNew)
  intro event hMem
  rw [Option.eq_none_iff_forall_ne_some]
  intro stored hStored
  obtain rfl := hClash event (hSuffix.subset hMem) stored hStored
  have hOld := mem_ofLogbook.mpr ⟨((h.represents.event _ _).mp hStored).1,
    hLog stored (hSuffix.subset hMem)⟩
  exact (List.nodup_append.mp hNodup).2.2 stored hOld stored hMem rfl

section Preview
variable [UuidCrate] [RustFmt] [CanonicalJson] [Sha2Crate]

/-- The preview of a pull, made with the head that the store has. -/
def previewOf (store : InMemoryLogbookEventStore) (request : PullEventsRequest)
    (remoteEvents : List CoreEventEnvelope) : PreviewPullResponse :=
  previewPullFromEvents request.peerId
    { logbookId := request.logbookId, localHeadHash := store.getHead request.logbookId }
    remoteEvents

/-- The preview says what the pull does. -/
structure Predicts (store : InMemoryLogbookEventStore) (request : PullEventsRequest)
    (remoteEvents : List CoreEventEnvelope) : Prop where
  inSync : (previewOf store request remoteEvents).status = .inSync ↔
    (pullMissingEvents store request remoteEvents).2.status = .inSync
  remoteAhead : ∀ events, ((previewOf store request remoteEvents).status = .remoteAhead ∧
      (previewOf store request remoteEvents).events = events) ↔
    (pullMissingEvents store request remoteEvents).2.status = .pulled ∧
      ∃ appended, events = appended.map metadataForEvent ∧
        (pullMissingEvents store request remoteEvents).1.listEvents request.logbookId =
          store.listEvents request.logbookId ++ appended ∧
        ∀ other, other ≠ request.logbookId →
          (pullMissingEvents store request remoteEvents).1.listEvents other =
            store.listEvents other
  missingEventCount : (previewOf store request remoteEvents).missingEventCount =
    (pullMissingEvents store request remoteEvents).2.acceptedCount
  diverged : (previewOf store request remoteEvents).status = .diverged ↔
    (pullMissingEvents store request remoteEvents).2.status = .diverged ∧
      (pullMissingEvents store request remoteEvents).1 = store

variable {store : InMemoryLogbookEventStore} {request : PullEventsRequest}
  {log : List CoreEventEnvelope}

/-- A pull of a whole chain with identifiers of its own does what the preview
says, for every relation of the two chains. -/
theorem preview_predicts_pull (hConsistent : store.Consistent)
    (hChains : ∀ logbookId, store.verifyChain logbookId = .ok ())
    (hVerify : verifyIncomingChain request.logbookId none log = .ok ())
    (hClash : ∀ event ∈ log, ∀ stored,
      store.getEvent event.eventId = some stored → stored = event)
    (hDistinct : DistinctIds log)
    (hAcyclic : eventChain.Acyclic fun event =>
      event ∈ log ∨ ∃ logbookId, event ∈ store.listEvents logbookId) :
    Predicts store request log := by
  obtain ⟨hChecked, hLinked⟩ := (verifyIncomingChain_ok_iff _ _ _).mp hVerify
  have hLog : ∀ event ∈ log, event.logbookId = request.logbookId := fun e he => (hChecked e he).1
  have hOwn : ofLogbook log request.logbookId = log := ofLogbook_self hLog
  have hGet : LogbookEventStore.getHead store request.logbookId =
      .ok (store.getHead request.logbookId) := rfl
  by_cases hHead : store.getHead request.logbookId = headHash log
  · have hPreview : (previewOf store request log).status = .inSync ∧
        (previewOf store request log).missingEventCount = 0 := by
      simp [previewOf, previewPullFromEvents, hOwn, hHead]
    have hPull : (pullMissingEvents store request log).2.status = .inSync ∧
        (pullMissingEvents store request log).2.acceptedCount = 0 := by
      simp [pullMissingEvents, hGet, hOwn, hHead]
    constructor <;> simp [hPreview, hPull]
  · cases hMissing : missingEventsAfter log (store.getHead request.logbookId) with
    | none =>
        have hBatch : missingBatch log (store.getHead request.logbookId) = none :=
          (missingBatch_of_linked hLinked).trans hMissing
        have hPreview : (previewOf store request log).status = .diverged ∧
            (previewOf store request log).missingEventCount = 0 := by
          simp [previewOf, previewPullFromEvents, hOwn, hHead, hMissing]
        have hPull : (pullMissingEvents store request log).2.status = .diverged ∧
            (pullMissingEvents store request log).2.acceptedCount = 0 ∧
              (pullMissingEvents store request log).1 = store := by
          simp [pullMissingEvents, hGet, hOwn, hHead, hBatch]
        constructor <;> simp [hPreview, hPull]
    | some missing =>
        have hBatch : missingBatch log (store.getHead request.logbookId) = some missing :=
          (missingBatch_of_linked hLinked).trans hMissing
        obtain ⟨hSuffix, hContinues⟩ := linked_missingEventsAfter hLinked hMissing
        have hPart : ∀ event ∈ missing, event.logbookId = request.logbookId ∧
            validateSupportedRemoteEvent event = .ok () :=
          fun e he => hChecked e (hSuffix.subset he)
        have hOk : verifyIncomingChain request.logbookId (store.getHead request.logbookId) missing =
            .ok () := (verifyIncomingChain_ok_iff _ _ _).mpr ⟨hPart, hContinues⟩
        obtain ⟨history, hVerified⟩ := hConsistent.verified hChains
        have hNew : ∀ event ∈ missing, store.getEvent event.eventId = none := by
          refine missing_new hVerified (hAcyclic.mono ?_) hLog hClash hSuffix hContinues
          rintro event (hRemote | hStored)
          · exact Or.inl hRemote
          · refine Or.inr ⟨event.logbookId, ?_⟩
            rw [hVerified.represents.listEvents]
            exact mem_ofLogbook.mpr ⟨hStored, rfl⟩
        have hIds : DistinctIds missing := hDistinct.sublist (hSuffix.sublist.map _)
        have hThrough : AppliedThrough store missing (applyMissing { store := store } missing) := by
          rcases applyMissing_cases store missing hPart with ⟨_, hThrough⟩ |
            ⟨seen, event, rest, hSplit, _, hOffends, _⟩
          · exact hThrough
          · exact absurd hOffends
              (not_offends_of_distinct store hIds hNew hContinues seen event rest hSplit)
        have hSelf := store.firstSeen_of_distinct hIds hNew
        have hLater := hVerified.represents.insertAll hIds hNew
        have hPreview : (previewOf store request log).status = .remoteAhead ∧
            (previewOf store request log).events = missing.map metadataForEvent ∧
              (previewOf store request log).missingEventCount = missing.length := by
          simp [previewOf, previewPullFromEvents, hOwn, hHead, hMissing]
        have hPull : (pullMissingEvents store request log).2.status = .pulled ∧
            (pullMissingEvents store request log).2.acceptedCount = missing.length ∧
              (pullMissingEvents store request log).1 = store.insertAll missing := by
          simp [pullMissingEvents, hGet, hOwn, hHead, hBatch, hOk, hThrough.errors,
            hThrough.accepted, hThrough.store_eq, hSelf]
        have hMissingOwn : ∀ event ∈ missing, event.logbookId = request.logbookId :=
          fun e he => (hPart e he).1
        have hAppended : (store.insertAll missing).listEvents request.logbookId =
            store.listEvents request.logbookId ++ missing := by
          rw [hLater.listEvents, hVerified.represents.listEvents, ofLogbook_append,
            ofLogbook_self hMissingOwn]
        have hOthers : ∀ other, other ≠ request.logbookId →
            (store.insertAll missing).listEvents other = store.listEvents other := by
          intro other hOther
          rw [hLater.listEvents, hVerified.represents.listEvents, ofLogbook_append,
            ofLogbook_eq_nil hMissingOwn hOther, List.append_nil]
        refine ⟨?_, ?_, ?_, ?_⟩
        · simp [hPreview, hPull]
        · intro events
          rw [hPreview.1, hPreview.2.1, hPull.1, hPull.2.2, and_iff_right rfl, and_iff_right rfl]
          constructor
          · rintro rfl
            exact ⟨missing, rfl, hAppended, hOthers⟩
          · rintro ⟨appended, rfl, hList, _⟩
            rw [List.append_cancel_left (hAppended.symm.trans hList)]
        · rw [hPreview.2.2, hPull.2.1]
        · simp [hPreview, hPull]

end Preview

section
open Crates

/-- A request of the empty store. -/
def firstPull : PullEventsRequest where
  peerId := "peer"
  logbookId := 1
  localHeadHash := none

def remoteContact : CoreEventEnvelope :=
  CoreEventEnvelope.fromNew (sampleEvent .qsoCreated 1 (some 2) .null) none (sampleStamp 3)

/-- A note that goes on from the contact, under the identifier given. -/
def remoteNote (eventId : Uuid) : CoreEventEnvelope :=
  CoreEventEnvelope.fromNew (sampleEvent .qsoNoteAdded 1 (some 2) .null)
    (some remoteContact.eventHash) (sampleStamp eventId)

theorem verifyIncomingChain_contact (eventId : Uuid) :
    verifyIncomingChain 1 none [remoteContact, remoteNote eventId] = .ok () := by
  refine (verifyIncomingChain_ok_iff _ _ _).mpr ⟨?_, rfl, rfl, trivial⟩
  intro event hEvent
  rcases List.mem_pair.mp hEvent with rfl | rfl
  · exact ⟨rfl, (validateSupportedRemoteEvent_fromNew _ _ _).mpr ⟨rfl, by decide⟩⟩
  · exact ⟨rfl, (validateSupportedRemoteEvent_fromNew _ _ _).mpr ⟨rfl, by decide⟩⟩

/-- Neither the contact nor its note runs in a cycle. -/
theorem acyclic_contact {eventId : Uuid}
    (hHash : (remoteNote eventId).eventHash ≠ remoteContact.eventHash) :
    eventChain.Acyclic fun event => event ∈ [remoteContact, remoteNote eventId] ∨
      ∃ logbookId, event ∈ ({} : InMemoryLogbookEventStore).listEvents logbookId := by
  have hOnly : ∀ start event, eventChain.previous event = some start →
      (event ∈ [remoteContact, remoteNote eventId] ∨
        ∃ logbookId, event ∈ ({} : InMemoryLogbookEventStore).listEvents logbookId) →
      event = remoteNote eventId ∧ start = remoteContact.eventHash := by
    rintro start event hPrevious (hMem | ⟨_, hMem⟩)
    · rcases List.mem_pair.mp hMem with rfl | rfl
      · cases hPrevious
      · exact ⟨rfl, (Option.some.inj hPrevious).symm⟩
    · cases hMem
  rintro start (_ | ⟨event, rest⟩) hSome hKnown ⟨hPrevious, hRest⟩
  · exact absurd rfl hSome
  · obtain ⟨rfl, rfl⟩ := hOnly start event hPrevious (hKnown event List.mem_cons_self)
    cases rest with
    | nil => exact fun h => hHash (Option.some.inj h)
    | cons next others =>
        obtain ⟨_, hSame⟩ := hOnly _ next hRest.1
          (hKnown next (List.mem_cons_of_mem _ List.mem_cons_self))
        exact absurd hSame hHash

theorem preview_predicts_pull_contact : Predicts {} firstPull [remoteContact, remoteNote 4] := by
  refine preview_predicts_pull ⟨[], represents_empty⟩ verified_empty.verifyChain
    (verifyIncomingChain_contact 4) ?_ ?_ ?_
  · intro event _ stored hStored
    cases hStored
  · unfold DistinctIds
    decide +kernel
  · exact acyclic_contact (by decide +kernel)

/-- The note takes the identifier of the contact. The preview announces both
events, and the pull rejects the note. -/
theorem repeated_identifier_previewed :
    verifyIncomingChain 1 none [remoteContact, remoteNote 3] = .ok () ∧
      (∀ event ∈ [remoteContact, remoteNote 3], ∀ stored,
        ({} : InMemoryLogbookEventStore).getEvent event.eventId = some stored → stored = event) ∧
      ¬ Predicts {} firstPull [remoteContact, remoteNote 3] := by
  refine ⟨verifyIncomingChain_contact 3, ?_, fun hPredicts => ?_⟩
  · intro event _ stored hStored
    cases hStored
  · have hAhead : (previewOf {} firstPull [remoteContact, remoteNote 3]).status =
        .remoteAhead := by decide +kernel
    have hRejected : (pullMissingEvents ({} : InMemoryLogbookEventStore) firstPull
        [remoteContact, remoteNote 3]).2.status = .rejected := by decide +kernel
    have hPulled := ((hPredicts.remoteAhead _).mp ⟨hAhead, rfl⟩).1
    rw [hRejected] at hPulled
    cases hPulled

end
end HamLogger
