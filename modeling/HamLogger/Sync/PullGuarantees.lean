import HamLogger.Core.Crates
import HamLogger.Sync.PullOutcome

/-! Guarantees of a pull: when a refusal leaves the store untouched, and what
a successful pull does to the chains. -/
namespace HamLogger

open InMemoryLogbookEventStore
open Replay (Accepted)

theorem headHash_eq_tip (events : List CoreEventEnvelope) :
    headHash events = eventChain.tip none events :=
  (eventChain.tip_none events).symm

/-- The batch is a part at the end of the list, and empty only if the list
ends with the local head. -/
theorem missingBatch_spec {events batch : List CoreEventEnvelope} {head : Option String}
    (hBatch : missingBatch events head = some batch) (hHead : head ≠ headHash events) :
    batch <:+ events ∧ batch ≠ [] := by
  unfold missingBatch at hBatch
  cases hAfter : missingEventsAfter events head with
  | none =>
      rw [hAfter] at hBatch
      simp only [Option.ite_none_right_eq_some, Option.some.injEq] at hBatch
      obtain ⟨hTail, rfl⟩ := hBatch
      refine ⟨List.suffix_refl _, ?_⟩
      rintro rfl
      cases head <;> simp [remoteEventsAreMissingTail] at hTail
  | some after =>
      rw [hAfter] at hBatch
      obtain rfl := Option.some.inj hBatch
      cases head with
      | none =>
          obtain rfl : events = after := Option.some.inj hAfter
          refine ⟨List.suffix_refl _, ?_⟩
          rintro rfl
          exact hHead rfl
      | some hash =>
          simp only [missingEventsAfter, Option.map_eq_some_iff] at hAfter
          obtain ⟨index, hIndex, rfl⟩ := hAfter
          refine ⟨List.drop_suffix _ _, ?_⟩
          intro hEmpty
          obtain ⟨hLt, hFound, _⟩ := List.findIdx?_eq_some_iff_getElem.mp hIndex
          have hLast : events.length - 1 = index := by
            have hLe := List.drop_eq_nil_iff.mp hEmpty
            omega
          apply hHead
          rw [headHash, List.getLast?_eq_getElem?, hLast, List.getElem?_eq_getElem hLt]
          simpa using (beq_iff_eq.mp hFound).symm

section Refusal
variable [UuidCrate] [RustFmt] [CanonicalJson] [Sha2Crate]
variable (store : InMemoryLogbookEventStore) (request : PullEventsRequest)
  (remoteEvents : List CoreEventEnvelope)

/-- A pull finds nothing to do, refuses the batch before touching the store,
or runs the append loop over a verified batch. -/
theorem pullMissingEvents_cases :
    (store.getHead request.logbookId = headHash (ofLogbook remoteEvents request.logbookId) ∧
      (pullMissingEvents store request remoteEvents).1 = store ∧
      (pullMissingEvents store request remoteEvents).2.status = .inSync) ∨
    (store.getHead request.logbookId ≠ headHash (ofLogbook remoteEvents request.logbookId) ∧
      (pullMissingEvents store request remoteEvents).1 = store ∧
      (pullMissingEvents store request remoteEvents).2.status ≠ .inSync ∧
      (pullMissingEvents store request remoteEvents).2.status ≠ .pulled ∧
      ∀ batch, missingBatch (ofLogbook remoteEvents request.logbookId)
          (store.getHead request.logbookId) = some batch →
        verifyIncomingChain request.logbookId (store.getHead request.logbookId) batch ≠ .ok ()) ∨
    (store.getHead request.logbookId ≠ headHash (ofLogbook remoteEvents request.logbookId) ∧
      ∃ batch, missingBatch (ofLogbook remoteEvents request.logbookId)
          (store.getHead request.logbookId) = some batch ∧
        verifyIncomingChain request.logbookId (store.getHead request.logbookId) batch = .ok () ∧
        (pullMissingEvents store request remoteEvents).1 =
          (applyMissing { store := store } batch).store ∧
        (pullMissingEvents store request remoteEvents).2.status =
          (if (applyMissing { store := store } batch).errors = [] then .pulled else .rejected) ∧
        (pullMissingEvents store request remoteEvents).2.acceptedCount =
          (applyMissing { store := store } batch).acceptedCount) := by
  have hGet : LogbookEventStore.getHead store request.logbookId =
      .ok (store.getHead request.logbookId) := rfl
  by_cases hHead : store.getHead request.logbookId =
      headHash (ofLogbook remoteEvents request.logbookId)
  · refine Or.inl ⟨hHead, ?_, ?_⟩ <;> simp [pullMissingEvents, hGet, hHead]
  · cases hBatch : missingBatch (ofLogbook remoteEvents request.logbookId)
        (store.getHead request.logbookId) with
    | none =>
        refine Or.inr (Or.inl ⟨hHead, ?_, ?_, ?_, fun batch h => by cases h⟩) <;>
          simp [pullMissingEvents, hGet, hHead, hBatch]
    | some batch =>
        cases hVerify : verifyIncomingChain request.logbookId
            (store.getHead request.logbookId) batch with
        | error error =>
            refine Or.inr (Or.inl ⟨hHead, ?_, ?_, ?_, ?_⟩)
            · simp [pullMissingEvents, hGet, hHead, hBatch, hVerify]
            · cases error <;>
                simp [pullMissingEvents, hGet, hHead, hBatch, hVerify, ReplicationError.status]
            · cases error <;>
                simp [pullMissingEvents, hGet, hHead, hBatch, hVerify, ReplicationError.status]
            · intro other hOther
              obtain rfl := Option.some.inj hOther
              simp [hVerify]
        | ok _ =>
            refine Or.inr (Or.inr ⟨hHead, batch, rfl, hVerify, ?_, ?_, ?_⟩) <;>
              simp [pullMissingEvents, hGet, hHead, hBatch, hVerify]

/-- A pull that reports a divergence or a rejection leaves the store as it was
exactly when no verified batch has its first offending event after an event
that is new to the store. -/
theorem pull_refusal_unchanged_iff :
    (((pullMissingEvents store request remoteEvents).2.status = .diverged ∨
        (pullMissingEvents store request remoteEvents).2.status = .rejected) →
      (pullMissingEvents store request remoteEvents).1 = store) ↔
    ∀ batch, store.getHead request.logbookId ≠
        headHash (ofLogbook remoteEvents request.logbookId) →
      missingBatch (ofLogbook remoteEvents request.logbookId)
        (store.getHead request.logbookId) = some batch →
      verifyIncomingChain request.logbookId (store.getHead request.logbookId) batch = .ok () →
      ¬store.OffendsLate request.logbookId batch := by
  rcases pullMissingEvents_cases store request remoteEvents with ⟨hHead, hSame, _⟩ |
    ⟨_, hSame, _, _, hFails⟩ | ⟨hHead, batch, hBatch, hVerify, hStore, hStatus, _⟩
  · exact iff_of_true (fun _ => hSame) fun batch hNe => absurd hHead hNe
  · exact iff_of_true (fun _ => hSame) fun batch _ hBatch hVerify =>
      absurd hVerify (hFails batch hBatch)
  · have hChecked := ((verifyIncomingChain_ok_iff _ _ _).mp hVerify).1
    have hOnly : (∀ batch', store.getHead request.logbookId ≠
          headHash (ofLogbook remoteEvents request.logbookId) →
        missingBatch (ofLogbook remoteEvents request.logbookId)
          (store.getHead request.logbookId) = some batch' →
        verifyIncomingChain request.logbookId (store.getHead request.logbookId) batch' = .ok () →
        ¬store.OffendsLate request.logbookId batch') ↔
        ¬store.OffendsLate request.logbookId batch := by
      constructor
      · intro h
        exact h batch hHead hBatch hVerify
      · intro h other _ hOther _
        rw [hBatch] at hOther
        obtain rfl := Option.some.inj hOther
        exact h
    rw [hOnly, hStore, hStatus]
    rcases applyMissing_cases store batch hChecked with ⟨hAccepted, hThrough⟩ |
      ⟨seen, event, rest, rfl, hAccepted, hOffends, hErrors, hLeft⟩
    · rw [if_pos hThrough.errors]
      refine iff_of_true (fun h => by simp at h) ?_
      rintro ⟨seen, event, rest, rfl, _, hOffends, _⟩
      exact hAccepted seen event rest rfl hOffends
    · rw [if_neg hErrors, hLeft]
      simp only [reduceCtorEq, or_true, forall_const]
      constructor
      · rintro hSame ⟨seen', event', rest', hSplit, hAccepted', hOffends', hNew⟩
        obtain rfl : seen' = seen :=
          Accepted.first_unique hAccepted' hAccepted (not_not.mpr hOffends')
            (not_not.mpr hOffends) hSplit.symm
        obtain ⟨hUnknown, hDistinct⟩ := store.firstSeen_spec seen'
        exact store.insertAll_ne hDistinct (fun e he => (hUnknown e he).2) hNew hSame
      · intro hNotLate
        have hNothing : store.firstSeen seen = [] := by
          by_contra hNew
          exact hNotLate ⟨seen, event, rest, rfl, hAccepted, hOffends, hNew⟩
        rw [hNothing]
        rfl

end Refusal

open scoped Crates in
/-- The second event of a verified batch reuses the identifier of the first.
The pull is rejected with the first event already stored. -/
theorem reused_identifier_rejected_late :
    let request : PullEventsRequest := { peerId := "peer", logbookId := 1, localHeadHash := none }
    let first := CoreEventEnvelope.fromNew
      (Crates.sampleEvent .qsoCreated 1 (some 2) (.object [])) none (Crates.sampleStamp 3)
    let second := CoreEventEnvelope.fromNew
      (Crates.sampleEvent .qsoNoteAdded 1 (some 2) (.object [])) (some first.eventHash)
      (Crates.sampleStamp 3)
    let result := pullMissingEvents ({} : InMemoryLogbookEventStore) request [first, second]
    (∀ logbookId, ({} : InMemoryLogbookEventStore).verifyChain logbookId = .ok ()) ∧
      result.2.status = .rejected ∧ result.1 ≠ {} ∧ result.1.listEvents 1 = [first] := by
  intro request first second result
  have hFirst : validateSupportedRemoteEvent first = .ok () :=
    (validateSupportedRemoteEvent_fromNew ..).mpr ⟨rfl, rfl⟩
  have hSecond : validateSupportedRemoteEvent second = .ok () :=
    (validateSupportedRemoteEvent_fromNew ..).mpr ⟨rfl, rfl⟩
  have hDiffer : first ≠ second := by
    intro hSame
    have hPrevious := congrArg CoreEventEnvelope.previousHash hSame
    cases hPrevious
  have hVerify : verifyIncomingChain 1 none [first, second] = .ok () := by
    rw [verifyIncomingChain_ok_iff]
    refine ⟨fun event hMem => ?_, rfl, rfl, trivial⟩
    rcases List.mem_pair.mp hMem with rfl | rfl
    · exact ⟨rfl, hFirst⟩
    · exact ⟨rfl, hSecond⟩
  let one := ({} : InMemoryLogbookEventStore).insertEvent first
  have hStored : one.getEvent second.eventId = some first :=
    (getEvent_insertEvent ..).trans (if_pos rfl)
  have hInsert : applyEvent { store := {} } first = { store := one, acceptedCount := 1 } :=
    applyEvent_connected { store := {} } hFirst rfl rfl
  obtain ⟨error, hConflict⟩ :=
    applyEvent_conflict { store := one, acceptedCount := 1 } hStored hDiffer
  have hLoop : applyMissing { store := ({} : InMemoryLogbookEventStore) } [first, second] =
      { store := one, acceptedCount := 1, errors := [error] } := by
    simp [applyMissing, hInsert, hConflict]
  rcases pullMissingEvents_cases {} request [first, second] with ⟨hHead, _⟩ |
    ⟨_, _, _, _, hFails⟩ | ⟨_, batch, hBatch, _, hStore, hStatus, _⟩
  · cases hHead
  · exact absurd hVerify (hFails [first, second] rfl)
  · obtain rfl : [first, second] = batch := Option.some.inj hBatch
    rw [hLoop] at hStore hStatus
    rw [if_neg (List.cons_ne_nil error [])] at hStatus
    have hOne : one.Represents [first] := represents_empty.insertEvent rfl
    have hResult : result = pullMissingEvents {} request [first, second] := rfl
    rw [hResult, hStatus, hStore]
    refine ⟨verified_empty.verifyChain, rfl, ?_, ?_⟩
    · intro hSame
      have hEmpty : one = {} := hSame
      rw [hEmpty] at hStored
      cases hStored
    · rw [hOne.listEvents]
      rfl

section Success
variable [UuidCrate] [RustFmt] [CanonicalJson] [Sha2Crate]
variable {store : InMemoryLogbookEventStore} (request : PullEventsRequest)
  (remoteEvents : List CoreEventEnvelope)

/-- Every pull, whatever it reports, keeps the chains of a verified store: it
appends events of its own logbook that it was given. -/
theorem verified_pull {history : List CoreEventEnvelope} (h : store.Verified history) :
    ∃ added, (∀ event ∈ added, event ∈ ofLogbook remoteEvents request.logbookId) ∧
      (pullMissingEvents store request remoteEvents).1.Verified (history ++ added) := by
  rcases pullMissingEvents_cases store request remoteEvents with ⟨_, hSame, _⟩ |
    ⟨_, hSame, _⟩ | ⟨hHead, batch, hBatch, hVerify, hStore, _, _⟩
  · exact ⟨[], by simp, by rw [hSame, List.append_nil]; exact h⟩
  · exact ⟨[], by simp, by rw [hSame, List.append_nil]; exact h⟩
  · obtain ⟨hSuffix, _⟩ := missingBatch_spec hBatch hHead
    obtain ⟨hChecked, _⟩ := (verifyIncomingChain_ok_iff _ _ _).mp hVerify
    obtain ⟨seen, hPrefix, hFine, hLeft⟩ : ∃ seen, seen <+: batch ∧
        Accepted (fun before event => ¬store.Offends request.logbookId before event) seen ∧
        (applyMissing { store := store } batch).store = store.insertAll (store.firstSeen seen) := by
      rcases applyMissing_cases store batch hChecked with ⟨hFine, hThrough⟩ |
        ⟨seen, event, rest, hSplit, hFine, _, _, hLeft⟩
      · exact ⟨batch, List.prefix_refl _, hFine, hThrough.store_eq⟩
      · exact ⟨seen, ⟨event :: rest, hSplit.symm⟩, hFine, hLeft⟩
    obtain ⟨hNew, hDistinct⟩ := store.firstSeen_spec seen
    have hIn : ∀ event ∈ store.firstSeen seen, event ∈ batch :=
      fun e he => hPrefix.subset (hNew e he).1
    refine ⟨store.firstSeen seen, fun e he => hSuffix.subset (hIn e he), ?_⟩
    rw [hStore, hLeft]
    refine h.insertAll (fun e he => (hChecked e (hIn e he)).1) ?_ hDistinct
      (fun e he => (hNew e he).2) (store.firstSeen_linked hFine)
    intro event hMem
    exact ((validateSupportedRemoteEvent_ok_iff event).mp (hChecked event (hIn event hMem)).2).1

/-- Pulling a whole chain into an empty store reproduces it exactly when there
is something to pull and every event passes the checks on remote events. -/
theorem pull_into_empty_iff (request : PullEventsRequest) {log : List CoreEventEnvelope}
    (hLogbook : ∀ event ∈ log, event.logbookId = request.logbookId) (hDistinct : DistinctIds log)
    (hLinked : eventChain.Linked none log) :
    ((pullMissingEvents ({} : InMemoryLogbookEventStore) request log).2.status = .pulled ∧
      (pullMissingEvents ({} : InMemoryLogbookEventStore) request log).1.listEvents
        request.logbookId = log) ↔
      log ≠ [] ∧ ∀ event ∈ log, validateSupportedRemoteEvent event = .ok () := by
  have hOwn : ofLogbook log request.logbookId = log := ofLogbook_self hLogbook
  have hHead : ({} : InMemoryLogbookEventStore).getHead request.logbookId = none := rfl
  have hBatch : missingBatch log none = some log := rfl
  have hVerify : verifyIncomingChain request.logbookId none log = .ok () ↔
      ∀ event ∈ log, validateSupportedRemoteEvent event = .ok () := by
    rw [verifyIncomingChain_ok_iff]
    exact ⟨fun h event hMem => (h.1 event hMem).2,
      fun h => ⟨fun event hMem => ⟨hLogbook event hMem, h event hMem⟩, hLinked⟩⟩
  rcases pullMissingEvents_cases {} request log with ⟨hSame, _, hStatus⟩ |
    ⟨hNe, _, _, hStatus, hFails⟩ | ⟨hNe, batch, hMissing, hOk, hStore, hStatus, _⟩
  · rw [hOwn, hHead] at hSame
    have hEmpty : log = [] := by
      rw [headHash, eq_comm, Option.map_eq_none_iff] at hSame
      exact List.getLast?_eq_none_iff.mp hSame
    refine iff_of_false ?_ fun h => h.1 hEmpty
    rw [hStatus]
    rintro ⟨hPulled, _⟩
    cases hPulled
  · rw [hOwn, hHead] at hFails
    exact iff_of_false (fun h => hStatus h.1) fun h => hFails log hBatch (hVerify.mpr h.2)
  · rw [hOwn, hHead] at hNe hMissing
    rw [hHead] at hOk
    obtain rfl : log = batch := Option.some.inj (hBatch.symm.trans hMissing)
    have hNew : ∀ event ∈ log, ({} : InMemoryLogbookEventStore).getEvent event.eventId = none :=
      fun _ _ => rfl
    have hChecked := ((verifyIncomingChain_ok_iff _ _ _).mp hOk).1
    have hThrough : AppliedThrough {} log
        (applyMissing ({ store := {} } : PullProgress InMemoryLogbookEventStore) log) := by
      rcases applyMissing_cases {} log hChecked with ⟨_, hThrough⟩ | ⟨seen, event, rest, hSplit, _,
        hOffends, _⟩
      · exact hThrough
      · have hFine : Accepted (fun seen event =>
            ¬Offends {} request.logbookId seen event) log :=
          not_offends_of_distinct {} hDistinct hNew hLinked
        exact absurd hOffends (hFine seen event rest hSplit)
    have hSelf := firstSeen_of_distinct {} hDistinct hNew
    have hLater := represents_empty.insertAll hDistinct hNew
    refine iff_of_true ⟨?_, ?_⟩ ⟨?_, hVerify.mp hOk⟩
    · rw [hStatus, if_pos hThrough.errors]
    · rw [hStore, hThrough.store_eq, hSelf, hLater.listEvents, List.nil_append, hOwn]
    · rintro rfl
      exact hNe rfl

/-- The first event of a logbook is pulled into an empty store when it passes
the checks. -/
theorem pull_first_event (request : PullEventsRequest) {event : CoreEventEnvelope}
    (hLogbook : event.logbookId = request.logbookId) (hFirst : event.previousHash = none)
    (hValid : validateSupportedRemoteEvent event = .ok ()) :
    (pullMissingEvents ({} : InMemoryLogbookEventStore) request [event]).2.status = .pulled ∧
      (pullMissingEvents ({} : InMemoryLogbookEventStore) request [event]).1.listEvents
        request.logbookId = [event] := by
  have hOwn : ∀ e ∈ [event], e.logbookId = request.logbookId := by simpa using hLogbook
  have hDistinct : DistinctIds [event] := List.nodup_singleton _
  have hLinked : eventChain.Linked none [event] := ⟨hFirst, trivial⟩
  refine (pull_into_empty_iff request hOwn hDistinct hLinked).mpr ⟨List.cons_ne_nil _ _, ?_⟩
  simpa using hValid

variable {remoteEvents}

/-- The core of a successful pull into a verified store: without hash cycles
every event of the batch is new, and the batch is appended as a whole. -/
theorem pulled_appends_batch {history : List CoreEventEnvelope} (h : store.Verified history)
    (hAcyclic : eventChain.Acyclic fun event => event ∈ remoteEvents ∨ event ∈ history)
    (hPulled : (pullMissingEvents store request remoteEvents).2.status = .pulled) :
    ∃ batch, batch <:+ ofLogbook remoteEvents request.logbookId ∧
      (pullMissingEvents store request remoteEvents).2.acceptedCount = batch.length ∧
      (pullMissingEvents store request remoteEvents).1.Verified (history ++ batch) ∧
      (pullMissingEvents store request remoteEvents).1.getHead request.logbookId =
        headHash (ofLogbook remoteEvents request.logbookId) ∧
      ∀ event ∈ batch, store.getEvent event.eventId = none := by
  rcases pullMissingEvents_cases store request remoteEvents with ⟨_, _, hStatus⟩ |
    ⟨_, _, _, hStatus, _⟩ | ⟨hHead, batch, hBatch, hVerify, hStore, hStatus, hCount⟩
  · rw [hStatus] at hPulled
    cases hPulled
  · exact absurd hPulled hStatus
  · obtain ⟨hSuffix, hSome⟩ := missingBatch_spec hBatch hHead
    obtain ⟨hChecked, hLinked⟩ := (verifyIncomingChain_ok_iff _ _ _).mp hVerify
    have hErrors : (applyMissing { store := store } batch).errors = [] := by
      by_contra hNe
      rw [hStatus, if_neg hNe] at hPulled
      cases hPulled
    obtain ⟨hAccepted, hThrough⟩ : Accepted
        (fun seen event => ¬store.Offends request.logbookId seen event) batch ∧
        AppliedThrough store batch (applyMissing { store := store } batch) := by
      rcases applyMissing_cases store batch hChecked with hFine |
        ⟨_, _, _, _, _, _, hNe, _⟩
      · exact hFine
      · exact absurd hErrors hNe
    -- the local chain and the batch form one chain, which repeats no event
    have hJoined : eventChain.Linked none (ofLogbook history request.logbookId ++ batch) := by
      rw [HashChain.Scheme.linked_append, ← h.represents.head]
      exact ⟨(h.chain _).2, hLinked⟩
    have hNodup : (ofLogbook history request.logbookId ++ batch).Nodup := by
      refine hAcyclic.nodup hJoined ?_
      intro event hMem
      rcases List.mem_append.mp hMem with hOld | hNew
      · exact Or.inr (mem_ofLogbook.mp hOld).1
      · exact Or.inl (mem_ofLogbook.mp (hSuffix.subset hNew)).1
    obtain ⟨_, hBatchNodup, hDisjoint⟩ := List.nodup_append.mp hNodup
    have hAllNew : store.firstSeen batch = batch := by
      refine store.firstSeen_eq_self ?_ ?_ hBatchNodup
      · exact hAccepted.mono fun _ _ hFine hConflict => hFine (Or.inl hConflict)
      · intro event hMem hHeld
        have hOld := ((h.represents.event _ _).mp hHeld).1
        have hOwn := mem_ofLogbook.mpr ⟨hOld, (hChecked event hMem).1⟩
        exact hDisjoint event hOwn event hMem rfl
    obtain ⟨hUnknown, hDistinct⟩ := store.firstSeen_spec batch
    have hHash : ∀ event ∈ batch, event.hashIsValid = true := fun e he =>
      ((validateSupportedRemoteEvent_ok_iff e).mp (hChecked e he).2).1
    have hLogbook : ∀ event ∈ batch, event.logbookId = request.logbookId :=
      fun e he => (hChecked e he).1
    rw [hAllNew] at hUnknown hDistinct
    have hNew : ∀ event ∈ batch, store.getEvent event.eventId = none :=
      fun e he => (hUnknown e he).2
    have hLeft : (pullMissingEvents store request remoteEvents).1 = store.insertAll batch := by
      rw [hStore, hThrough.store_eq, hAllNew]
    refine ⟨batch, hSuffix, ?_, ?_, ?_, hNew⟩
    · rw [hCount, hThrough.accepted, hAllNew]
    · rw [hLeft]
      exact h.insertAll hLogbook hHash hDistinct hNew hLinked
    · obtain ⟨before, hBefore⟩ := hSuffix
      rw [hLeft, store.getHead_insertAll hLogbook, headHash_eq_tip, ← hBefore,
        HashChain.Scheme.tip_append]
      exact eventChain.tip_of_ne_nil hSome _ _

end Success

end HamLogger
