import HamLogger.Server.DivergenceReview
import HamLogger.Server.PushAgreement

/-! What the review of a divergence promises, against what pushing the events
of the client and pulling those of the server come to. -/
namespace HamLogger

open InMemoryLogbookEventStore
open Replay (Accepted)

/-- A preview has one of three ends. -/
theorem previewPullFromEvents_status (peerId : String) (request : PreviewSyncRequest)
    (events : List CoreEventEnvelope) :
    (previewPullFromEvents peerId request events).status = .inSync ∨
      (previewPullFromEvents peerId request events).status = .remoteAhead ∨
      (previewPullFromEvents peerId request events).status = .diverged := by
  unfold previewPullFromEvents
  dsimp only
  split
  · exact .inl rfl
  · split
    · exact .inr (.inr rfl)
    · exact .inr (.inl rfl)

theorem canSafelyPush_iff (reportId : Uuid) (input : DivergenceReviewRequest)
    (events : List CoreEventEnvelope) :
    (reviewEvents reportId input events).canSafelyPush = true ↔
      ((∃ first ∈ input.clientEvents.head?, first.previousHash = headHash events) ∨
        input.clientEvents = [] ∧ input.localHeadHash = headHash events) ∧
      (reviewEvents reportId input events).divergenceDetected = false := by
  simp [reviewEvents, Option.any_eq_true]

/-- Neither chain starts with the other one. -/
def Forked (first second : List CoreEventEnvelope) : Prop :=
  ¬ first <+: second ∧ ¬ second <+: first

section Reviews
variable [Sha2Crate] [CanonicalJson]

/-- The events whose hashes count: those of the two chains, and those of the
client that a server can check. -/
def HashedEvent (server chain pushed : List CoreEventEnvelope) (event : CoreEventEnvelope) :
    Prop :=
  event ∈ server ∨ event ∈ chain ∨
    event ∈ pushed ∧ validateSupportedRemoteEvent event = .ok ()

/-- What a review is made of: a server whose chain verifies, a chain of the
client with its head, and the events that follow it in the store of the
client. -/
structure Reviewed (server client : InMemoryLogbookEventStore) (input : DivergenceReviewRequest)
    (chain : List CoreEventEnvelope) : Prop where
  serverConsistent : server.Consistent
  serverChain : server.verifyChain input.logbookId = .ok ()
  clientConsistent : client.Consistent
  clientChain : ChainOk chain
  head : input.localHeadHash = eventChain.tip none chain
  holds : client.listEvents input.logbookId = chain ++ input.clientEvents
  hashes : eventChain.CollisionFree
    (HashedEvent (server.listEvents input.logbookId) chain input.clientEvents)

variable {server client : InMemoryLogbookEventStore} {input : DivergenceReviewRequest}
  {chain : List CoreEventEnvelope} {reportId : Uuid}

namespace Reviewed

theorem linked (h : Reviewed server client input chain) :
    eventChain.Linked none (server.listEvents input.logbookId) := by
  obtain ⟨history, hRepresents⟩ := h.serverConsistent
  exact ((hRepresents.verifyChain_eq_ok_iff _).mp h.serverChain).2

theorem own (h : Reviewed server client input chain) :
    ∀ event ∈ server.listEvents input.logbookId, event.logbookId = input.logbookId := by
  obtain ⟨history, hRepresents⟩ := h.serverConsistent
  rw [hRepresents.listEvents]
  exact fun event hMem => (mem_ofLogbook.mp hMem).2

theorem distinct (h : Reviewed server client input chain) :
    DistinctIds (server.listEvents input.logbookId) := by
  obtain ⟨history, hRepresents⟩ := h.serverConsistent
  rw [hRepresents.listEvents]
  exact hRepresents.distinct.ofLogbook _

theorem preview_iff (h : Reviewed server client input chain) :
    (previewPullFromEvents "hosted-server"
      { logbookId := input.logbookId, localHeadHash := input.localHeadHash }
      (server.listEvents input.logbookId)).status = .diverged ↔
        ¬ chain <+: server.listEvents input.logbookId := by
  rw [h.head]
  exact preview_diverged_iff h.hashes h.clientChain.2 h.linked (fun _ hMem => .inr (.inl hMem))
    (fun _ hMem => .inl hMem) (h.distinct.of_map _) h.own

/-- A server that a client has caught up with has its head. -/
theorem eq_of_tip (h : Reviewed server client input chain)
    (hTip : eventChain.tip none chain = headHash (server.listEvents input.logbookId)) :
    chain = server.listEvents input.logbookId := by
  rw [headHash_eq_tip] at hTip
  exact h.hashes.eq_of_tip_eq h.clientChain.2 h.linked (fun _ hMem => .inr (.inl hMem))
    (fun _ hMem => .inl hMem) hTip

/-- The first event of the client goes on from the head of the server, and the
client has not caught up with it: the two chains have forked. -/
theorem forked_of_ahead (h : Reviewed server client input chain)
    (hBehind : chain ≠ server.listEvents input.logbookId) {first : CoreEventEnvelope}
    {others : List CoreEventEnvelope} (hFirst : input.clientEvents = first :: others)
    (hPrefix : chain <+: server.listEvents input.logbookId)
    (hPrevious : first.previousHash = headHash (server.listEvents input.logbookId)) :
    Forked (client.listEvents input.logbookId) (server.listEvents input.logbookId) := by
  obtain ⟨rest, hRest⟩ := hPrefix
  have hLinked := h.linked
  rw [← hRest, HashChain.Scheme.linked_append] at hLinked
  -- an event of the rest that names the head of the server would be the first of the rest
  have hOther : ∀ later, rest ≠ first :: later := by
    rintro later rfl
    exact hBehind (h.eq_of_tip (hLinked.2.1.symm.trans hPrevious))
  rw [h.holds, hFirst, ← hRest]
  constructor
  · intro hFront
    rw [List.prefix_append_right_inj] at hFront
    obtain ⟨later, hLater⟩ := hFront
    exact hOther (others ++ later) hLater.symm
  · intro hBack
    rw [List.prefix_append_right_inj] at hBack
    cases rest with
    | nil => exact hBehind ((List.append_nil chain).symm.trans hRest)
    | cons next later =>
        obtain rfl := (List.cons_prefix_cons.mp hBack).1
        exact hOther later rfl

end Reviewed

/-- A client can pull, says the review, from a server that goes on from its
chain. -/
theorem canSafelyPull_iff (h : Reviewed server client input chain) :
    (reviewEvents reportId input (server.listEvents input.logbookId)).canSafelyPull = true ↔
      chain <+: server.listEvents input.logbookId := by
  have hPreview := h.preview_iff
  have hThree := previewPullFromEvents_status "hosted-server"
    { logbookId := input.logbookId, localHeadHash := input.localHeadHash }
    (server.listEvents input.logbookId)
  simp only [reviewEvents, Bool.or_eq_true, decide_eq_true_eq]
  constructor
  · intro hAhead
    by_contra hOther
    have hDiverged := hPreview.mpr hOther
    rw [hDiverged] at hAhead
    rcases hAhead with hAhead | hSync
    · cases hAhead
    · cases hSync
  · intro hPrefix
    have hNot := mt hPreview.mp (not_not.mpr hPrefix)
    tauto

theorem divergenceDetected_iff (h : Reviewed server client input chain) :
    (reviewEvents reportId input (server.listEvents input.logbookId)).divergenceDetected = true ↔
      ¬ chain <+: server.listEvents input.logbookId ∨
        ∃ first ∈ input.clientEvents.head?,
          first.previousHash ≠ headHash (server.listEvents input.logbookId) := by
  simp only [reviewEvents, Bool.or_eq_true, decide_eq_true_eq, h.preview_iff, Option.any_eq_true]
  simp

end Reviews

section Verdict
variable [UuidCrate] [Sha2Crate] [RustFmt] [CanonicalJson]

/-- A push of the events is not refused and meets no error. -/
def PushedInFull (store : InMemoryLogbookEventStore) (logbookId : Uuid)
    (events : List CoreEventEnvelope) : Prop :=
  (∀ event ∈ events, event.logbookId = logbookId) ∧
    (HostedServer.syncPushLoop store {} events).2.errors = []

/-- A pull ends well. -/
def PullSucceeds (store : InMemoryLogbookEventStore) (request : PullEventsRequest)
    (remoteEvents : List CoreEventEnvelope) : Prop :=
  (pullMissingEvents store request remoteEvents).2.status = .pulled ∨
    (pullMissingEvents store request remoteEvents).2.status = .inSync

/-- The flags of a review say what a push, a pull and the two chains are. -/
structure ReviewHolds (review : DivergenceReview) (server client : InMemoryLogbookEventStore)
    (request : PullEventsRequest) (pushed : List CoreEventEnvelope) : Prop where
  push : review.canSafelyPush = true → PushedInFull server request.logbookId pushed
  pull : review.canSafelyPull = true →
    PullSucceeds client request (server.listEvents request.logbookId)
  divergence : review.divergenceDetected = true ↔
    Forked (client.listEvents request.logbookId) (server.listEvents request.logbookId)
  flags : Forked (client.listEvents request.logbookId) (server.listEvents request.logbookId) →
    review.canSafelyPull = false ∧ review.canSafelyPush = false

/-- What a push without errors has gone through: events the store had, and
events it could check. -/
theorem forall_of_syncPushLoop {P : CoreEventEnvelope → Prop}
    (hValid : ∀ event, validateSupportedRemoteEvent event = .ok () → P event)
    {store : InMemoryLogbookEventStore} {progress : PushProgress}
    {events : List CoreEventEnvelope}
    (hStored : ∀ eventId event, store.getEvent eventId = some event → P event)
    (h : (HostedServer.syncPushLoop store progress events).2.errors = []) :
    ∀ event ∈ events, P event := by
  induction events generalizing store progress with
  | nil => intro event hMem; cases hMem
  | cons event rest ih =>
      unfold HostedServer.syncPushLoop at h
      split at h
      · rename_i existing hFound
        split at h
        · rename_i hSame
          exact List.forall_mem_cons.mpr ⟨hSame ▸ hStored _ _ hFound, ih hStored h⟩
        · simp [PushProgress.failed] at h
      · rename_i hNone
        rcases store.appendVerifiedRemoteEvent_cases event with ⟨error, hError⟩ |
          ⟨_, hFound, _⟩ | ⟨hOk, _, _, hInsert⟩
        · simp [hError, PushProgress.failed] at h
        · rw [hNone] at hFound
          cases hFound
        · rw [hInsert] at h
          refine List.forall_mem_cons.mpr ⟨hValid event hOk, ih ?_ h⟩
          intro eventId other hOther
          rw [getEvent_insertEvent] at hOther
          split at hOther
          · obtain rfl := Option.some.inj hOther
            exact hValid event hOk
          · exact hStored eventId other hOther

section Pulls
variable {store : InMemoryLogbookEventStore} {request : PullEventsRequest}
  {chain rest : List CoreEventEnvelope} {known : CoreEventEnvelope → Prop}

/-- A client that holds the beginning of a chain can pull the rest of it where
it can check every event, and has no other event of the same identifier. -/
theorem pullSucceeds_iff (hConsistent : store.Consistent)
    (hHolds : store.listEvents request.logbookId = chain)
    (hLog : eventChain.Linked none (chain ++ rest))
    (hOwn : ∀ event ∈ chain ++ rest, event.logbookId = request.logbookId)
    (hDistinct : DistinctIds (chain ++ rest)) (hFree : eventChain.CollisionFree known)
    (hKnown : ∀ event ∈ chain ++ rest, known event) :
    PullSucceeds store request (chain ++ rest) ↔
      ∀ event ∈ rest, validateSupportedRemoteEvent event = .ok () ∧
        store.getEvent event.eventId = none := by
  obtain ⟨history, hRepresents⟩ := hConsistent
  have hNodup : (chain ++ rest).Nodup := hDistinct.of_map _
  have hSelf : ofLogbook (chain ++ rest) request.logbookId = chain ++ rest := ofLogbook_self hOwn
  have hHead : store.getHead request.logbookId = eventChain.tip none chain := by
    rw [hRepresents.getHead, hHolds]
  have hParts := (HashChain.Scheme.linked_append ..).mp hLog
  have hMissing : missingBatch (chain ++ rest) (eventChain.tip none chain) = some rest := by
    rw [missingBatch_of_linked hLog]
    exact missingEventsAfter_append hFree hNodup fun event hMem => hKnown event (by simp [hMem])
  have hRestOwn : ∀ event ∈ rest, event.logbookId = request.logbookId := fun event hMem =>
    hOwn event (by simp [hMem])
  have hRestIds : DistinctIds rest := hDistinct.sublist ((List.sublist_append_right ..).map _)
  unfold PullSucceeds
  rcases pullMissingEvents_cases store request (chain ++ rest) with ⟨hSame, _, hStatus⟩ |
    ⟨_, _, hNotSync, hNotPulled, hRefused⟩ | ⟨_, batch, hBatch, hVerify, _, hStatus, _⟩
  · rw [hSelf, hHead, headHash_eq_tip] at hSame
    have hWhole : chain = chain ++ rest := hFree.eq_of_tip_eq hParts.1 hLog
      (fun event hMem => hKnown event (by simp [hMem])) hKnown hSame
    obtain rfl : rest = [] := List.self_eq_append_right.mp hWhole
    exact ⟨fun _ event hMem => (by cases hMem), fun _ => .inr hStatus⟩
  · refine ⟨fun h => absurd h (not_or.mpr ⟨hNotPulled, hNotSync⟩), fun h => ?_⟩
    rw [hSelf, hHead] at hRefused
    refine absurd ((verifyIncomingChain_ok_iff ..).mpr ⟨?_, hParts.2⟩) (hRefused rest hMissing)
    exact fun event hMem => ⟨hRestOwn event hMem, (h event hMem).1⟩
  · rw [hSelf, hHead, hMissing] at hBatch
    obtain rfl := Option.some.inj hBatch
    obtain ⟨hChecked, hLinked⟩ := (verifyIncomingChain_ok_iff ..).mp hVerify
    rcases applyMissing_cases store rest hChecked with ⟨hFine, hThrough⟩ |
      ⟨seen, event, later, hSplit, _, hOffends, hErrors, _⟩
    · rw [hThrough.errors] at hStatus
      refine ⟨fun _ event hMem => ⟨(hChecked event hMem).2, ?_⟩, fun _ => .inl hStatus⟩
      rw [Option.eq_none_iff_forall_ne_some]
      intro stored hStored
      have hSame : stored = event := by
        by_contra hOther
        obtain ⟨seen, later, hSplit⟩ := List.append_of_mem hMem
        exact hFine seen event later hSplit (.inl ⟨stored, .inl hStored, hOther⟩)
      obtain rfl := hSame
      have hOld : stored ∈ chain := by
        rw [← hHolds, hRepresents.listEvents]
        exact mem_ofLogbook.mpr ⟨((hRepresents.event _ _).mp hStored).1, hRestOwn stored hMem⟩
      exact (List.nodup_append.mp hNodup).2.2 stored hOld stored hMem rfl
    · rw [if_neg hErrors] at hStatus
      refine ⟨fun h => ?_, fun h => ?_⟩
      · rw [hStatus] at h
        rcases h with hPulled | hSync
        · cases hPulled
        · cases hSync
      · exact absurd hOffends (not_offends_of_distinct store hRestIds
          (fun other hMem => (h other hMem).2) hLinked seen event later hSplit)

/-- A client whose head is in no event of the server cannot pull. -/
theorem not_pullSucceeds {log : List CoreEventEnvelope} {hash : String}
    (hHead : store.getHead request.logbookId = some hash)
    (hLog : eventChain.Linked none log) (hOwn : ∀ event ∈ log, event.logbookId = request.logbookId)
    (hAbsent : ∀ event ∈ log, event.eventHash ≠ hash) : ¬ PullSucceeds store request log := by
  have hSelf : ofLogbook log request.logbookId = log := ofLogbook_self hOwn
  have hNothing : missingBatch log (some hash) = none := by
    rw [missingBatch_of_linked hLog, missingEventsAfter, Option.map_eq_none_iff,
      List.findIdx?_eq_none_iff]
    exact fun event hMem => beq_eq_false_iff_ne.mpr (hAbsent event hMem)
  unfold PullSucceeds
  rcases pullMissingEvents_cases store request log with ⟨hSame, _, _⟩ |
    ⟨_, _, hNotSync, hNotPulled, _⟩ | ⟨_, batch, hBatch, _⟩
  · rw [hSelf, hHead, headHash] at hSame
    obtain ⟨last, hLast, hHash⟩ := Option.map_eq_some_iff.mp hSame.symm
    exact absurd hHash (hAbsent last (List.mem_of_getLast? hLast))
  · exact not_or.mpr ⟨hNotPulled, hNotSync⟩
  · rw [hSelf, hHead, hNothing] at hBatch
    cases hBatch

end Pulls

/-! The verdict. -/

variable {server client : InMemoryLogbookEventStore} {input : DivergenceReviewRequest}
  {chain : List CoreEventEnvelope} {request : PullEventsRequest} {reportId : Uuid}

namespace Reviewed

/-- Events that go on from the head of the server cannot all be pushed and the
server be pulled from as well. -/
theorem not_both (h : Reviewed server client input chain)
    (hRequest : request.logbookId = input.logbookId)
    (hCaughtUp : chain = server.listEvents input.logbookId) (hSome : input.clientEvents ≠ [])
    (hPush : PushedInFull server input.logbookId input.clientEvents) :
    ¬ PullSucceeds client request (server.listEvents input.logbookId) := by
  obtain ⟨history, hServer⟩ := h.serverConsistent
  obtain ⟨clientHistory, hClient⟩ := h.clientConsistent
  have hLast := List.getLast_mem hSome
  have hHolds := h.holds
  rw [hClient.listEvents] at hHolds
  have hDistinct : (chain ++ input.clientEvents).Nodup := by
    rw [← hHolds]
    exact (hClient.distinct.ofLogbook _).of_map _
  have hAbsent : input.clientEvents.getLast hSome ∉ server.listEvents input.logbookId := by
    rw [← hCaughtUp]
    exact fun hMem => (List.nodup_append.mp hDistinct).2.2 _ hMem _ hLast rfl
  have hChecked : validateSupportedRemoteEvent (input.clientEvents.getLast hSome) = .ok () := by
    have hGone := @forall_of_syncPushLoop _ _ _ _
      (fun event => event ∈ history ∨ validateSupportedRemoteEvent event = .ok ())
      (fun _ hOk => .inr hOk) _ _ _
      (fun eventId event hFound => .inl ((hServer.event eventId event).mp hFound).1) hPush.2
    rcases hGone _ hLast with hOld | hOk
    · refine absurd ?_ hAbsent
      rw [hServer.listEvents]
      exact mem_ofLogbook.mpr ⟨hOld, hPush.1 _ hLast⟩
    · exact hOk
  have hHead : client.getHead request.logbookId =
      some (input.clientEvents.getLast hSome).eventHash := by
    rw [hRequest, hClient.getHead, h.holds, HashChain.Scheme.tip_append,
      HashChain.Scheme.tip_eq_getLast?, List.getLast?_eq_getLast_of_ne_nil hSome]
    rfl
  refine not_pullSucceeds hHead h.linked (hRequest ▸ h.own) fun event hMem hHash => ?_
  have hSame := h.hashes event _ (.inl hMem) (.inr (.inr ⟨hLast, hChecked⟩)) hHash
  exact hAbsent (hSame ▸ hMem)

end Reviewed

/-- A review says what a push and a pull come to if and only if the client has
nothing to push, its chain is the beginning of the chain of the server, and it
can check and store the rest of it, or else the two chains have forked before
the head of the client. -/
theorem reviewEvents_holds_iff (h : Reviewed server client input chain)
    (hRequest : request.logbookId = input.logbookId) :
    ReviewHolds (reviewEvents reportId input (server.listEvents input.logbookId)) server client
        request input.clientEvents ↔
      (input.clientEvents = [] ∧ chain <+: server.listEvents input.logbookId ∧
        ∀ event ∈ (server.listEvents input.logbookId).drop chain.length,
          validateSupportedRemoteEvent event = .ok () ∧
            client.getEvent event.eventId = none) ∨
      ¬ chain <+: server.listEvents input.logbookId ∧
        ¬ server.listEvents input.logbookId <+: chain ++ input.clientEvents := by
  have hPull := @canSafelyPull_iff _ _ server client input chain reportId h
  have hDivergence := @divergenceDetected_iff _ _ server client input chain reportId h
  have hPush := canSafelyPush_iff reportId input (server.listEvents input.logbookId)
  have hSame : client.listEvents request.logbookId = chain ++ input.clientEvents := by
    rw [hRequest, h.holds]
  by_cases hPrefix : chain <+: server.listEvents input.logbookId
  · have hCanPull := hPull.mpr hPrefix
    cases hEvents : input.clientEvents with
    | nil =>
        rw [hEvents, List.append_nil] at hSame
        have hNotForked : ¬ Forked (client.listEvents request.logbookId)
            (server.listEvents request.logbookId) := by
          rw [hSame, hRequest]
          exact fun hForked => hForked.1 hPrefix
        have hNotDivergent : ¬ (reviewEvents reportId input
            (server.listEvents input.logbookId)).divergenceDetected = true := by
          rw [hDivergence, hEvents]
          simp [hPrefix]
        have hRest : PullSucceeds client request (server.listEvents request.logbookId) ↔
            ∀ event ∈ (server.listEvents input.logbookId).drop chain.length,
              validateSupportedRemoteEvent event = .ok () ∧
                client.getEvent event.eventId = none := by
          have hLinked := h.linked
          have hOwn := h.own
          have hDistinct := h.distinct
          have hHashes := h.hashes
          obtain ⟨rest, hLog⟩ := hPrefix
          rw [← hLog] at hLinked hOwn hDistinct hHashes
          rw [hRequest, ← hLog, List.drop_left]
          exact pullSucceeds_iff h.clientConsistent hSame hLinked
            (fun event hMem => (hOwn event hMem).trans hRequest.symm) hDistinct hHashes
            fun _ hMem => .inl hMem
        constructor
        · intro hReview
          exact .inl ⟨rfl, hPrefix, hRest.mp (hReview.pull hCanPull)⟩
        · rintro (⟨_, _, hAll⟩ | ⟨hOther, _⟩)
          · exact {
              push := fun _ => ⟨fun _ hMem => (by cases hMem), rfl⟩
              pull := fun _ => hRest.mpr hAll
              divergence := iff_of_false hNotDivergent hNotForked
              flags := fun hForked => absurd hForked hNotForked }
          · exact absurd hPrefix hOther
    | cons first others =>
        refine iff_of_false ?_ ?_
        · intro hReview
          by_cases hPrevious : first.previousHash = headHash (server.listEvents input.logbookId)
          · have hNotDivergent : ¬ (reviewEvents reportId input
                (server.listEvents input.logbookId)).divergenceDetected = true := by
              rw [hDivergence, hEvents]
              simp [hPrefix, hPrevious]
            by_cases hCaughtUp : chain = server.listEvents input.logbookId
            · have hCanPush := hPush.mpr ⟨.inl ⟨first, by simp [hEvents], hPrevious⟩,
                Bool.eq_false_iff.mpr hNotDivergent⟩
              have hPushed := hReview.push hCanPush
              have hPulled := hReview.pull hCanPull
              rw [hRequest] at hPushed hPulled
              exact h.not_both hRequest hCaughtUp (by simp [hEvents]) (hEvents ▸ hPushed) hPulled
            · refine hNotDivergent (hReview.divergence.mpr ?_)
              rw [hRequest]
              exact h.forked_of_ahead hCaughtUp hEvents hPrefix hPrevious
          · have hDivergent := hDivergence.mpr (.inr ⟨first, by simp [hEvents], hPrevious⟩)
            have hFlags := hReview.flags (hReview.divergence.mp hDivergent)
            rw [hCanPull] at hFlags
            cases hFlags.1
        · rintro (⟨hNil, _⟩ | ⟨hOther, _⟩)
          · cases hNil
          · exact hOther hPrefix
  · have hDivergent := hDivergence.mpr (.inl hPrefix)
    have hNoPull := Bool.eq_false_iff.mpr (mt hPull.mp hPrefix)
    have hNoPush : (reviewEvents reportId input
        (server.listEvents input.logbookId)).canSafelyPush = false := by
      refine Bool.eq_false_iff.mpr fun hTrue => ?_
      have hNone := (hPush.mp hTrue).2
      rw [hDivergent] at hNone
      cases hNone
    have hForked : Forked (client.listEvents request.logbookId)
        (server.listEvents request.logbookId) ↔
          ¬ server.listEvents input.logbookId <+: chain ++ input.clientEvents := by
      rw [Forked, hSame, hRequest, and_iff_right]
      exact fun hLonger => hPrefix ((List.prefix_append _ _).trans hLonger)
    constructor
    · intro hReview
      exact .inr ⟨hPrefix, hForked.mp (hReview.divergence.mp hDivergent)⟩
    · rintro (⟨_, hOther, _⟩ | ⟨_, hFork⟩)
      · exact absurd hOther hPrefix
      · exact {
          push := fun hTrue => by rw [hNoPush] at hTrue; cases hTrue
          pull := fun hTrue => by rw [hNoPull] at hTrue; cases hTrue
          divergence := iff_of_true hDivergent (hForked.mpr hFork)
          flags := fun _ => ⟨hNoPull, hNoPush⟩ }

/-- The same of a review that the server answers. -/
theorem divergence_review_holds_iff [DivergenceReviewJson] {context : RequestContext}
    {state later : HostedState} {review : DivergenceReview}
    (hAnswer : (HostedServer.divergenceReview context reportId (.ok input)).execute state =
      (later, .ok review))
    (h : Reviewed state.store client input chain)
    (hRequest : request.logbookId = input.logbookId) :
    ReviewHolds review state.store client request input.clientEvents ↔
      (input.clientEvents = [] ∧ chain <+: state.store.listEvents input.logbookId ∧
        ∀ event ∈ (state.store.listEvents input.logbookId).drop chain.length,
          validateSupportedRemoteEvent event = .ok () ∧
            client.getEvent event.eventId = none) ∨
      ¬ chain <+: state.store.listEvents input.logbookId ∧
        ¬ state.store.listEvents input.logbookId <+: chain ++ input.clientEvents := by
  rw [HostedServer.divergenceReview_ok hAnswer]
  exact reviewEvents_holds_iff h hRequest

end Verdict

section
open Crates

/-- A store with one contact. -/
def contactStore : InMemoryLogbookEventStore := insertEvent {} firstContact

theorem represents_contactStore : contactStore.Represents [firstContact] :=
  represents_empty.insertEvent rfl

theorem listEvents_contactStore : contactStore.listEvents 102 = [firstContact] := by
  rw [represents_contactStore.listEvents]
  rfl

theorem chainOk_contact : ChainOk [firstContact] :=
  ⟨fun _ hMem => List.mem_singleton.mp hMem ▸ CoreEventEnvelope.fromNew_hashIsValid _ _ _,
    rfl, trivial⟩

def contactPull : PullEventsRequest where
  peerId := "server"
  logbookId := 102
  localHeadHash := none

/-- The contact is with the client and goes on from the empty log of the
server. -/
def newContact : DivergenceReviewRequest where
  logbookId := 102
  localHeadHash := none
  clientEvents := [firstContact]

/-- The contact is with both. -/
def sharedContact : DivergenceReviewRequest where
  logbookId := 102
  localHeadHash := some firstContact.eventHash

/-- The value of a review in which no events are missing. -/
local instance reviewJson : DivergenceReviewJson where
  toValue review := .object [
    ("can_safely_pull", .bool review.canSafelyPull),
    ("can_safely_push", .bool review.canSafelyPush),
    ("common_ancestor", (review.commonAncestor.map Value.string).getD .null),
    ("divergence_detected", .bool review.divergenceDetected),
    ("local_head_hash", (review.localHeadHash.map Value.string).getD .null),
    ("logbook_id", uuidJson review.logbookId),
    ("missing_local_events", .array []),
    ("missing_remote_events", .array []),
    ("recommended_action", .string review.recommendedAction),
    ("remote_head_hash", (review.remoteHeadHash.map Value.string).getD .null),
    ("report_id", uuidJson review.reportId)]

theorem divergence_review_holds_iff_shared :
    ReviewHolds (reviewEvents 5 sharedContact [firstContact]) contactStore contactStore
        contactPull [] ↔
      (([] : List CoreEventEnvelope) = [] ∧ [firstContact] <+: contactStore.listEvents 102 ∧
        ∀ event ∈ (contactStore.listEvents 102).drop 1,
          validateSupportedRemoteEvent event = .ok () ∧
            contactStore.getEvent event.eventId = none) ∨
      ¬ [firstContact] <+: contactStore.listEvents 102 ∧
        ¬ contactStore.listEvents 102 <+: [firstContact] ++ [] := by
  have hAnswer : (HostedServer.divergenceReview administratorRequest 5
      (.ok sharedContact)).execute (hostedWith contactStore) =
        (_, .ok (reviewEvents 5 sharedContact [firstContact])) :=
    Prod.ext rfl ((except_toOption_eq_some_iff _ _).mp (by decide +kernel))
  have hReviewed : Reviewed (hostedWith contactStore).store contactStore sharedContact
      [firstContact] := {
    serverConsistent := ⟨_, represents_contactStore⟩
    serverChain := by
      rw [hostedWith, represents_contactStore.verifyChain_eq_ok_iff]
      exact listEvents_contactStore ▸ chainOk_contact
    clientConsistent := ⟨_, represents_contactStore⟩
    clientChain := chainOk_contact
    head := rfl
    holds := listEvents_contactStore
    hashes := by
      have hOnly : ∀ event, HashedEvent ((hostedWith contactStore).store.listEvents
          sharedContact.logbookId) [firstContact] sharedContact.clientEvents event →
            event = firstContact := by
        rintro event (hServer | hChain | ⟨hPushed, _⟩)
        · rw [show (hostedWith contactStore).store.listEvents sharedContact.logbookId =
            [firstContact] from listEvents_contactStore] at hServer
          exact List.mem_singleton.mp hServer
        · exact List.mem_singleton.mp hChain
        · cases hPushed
      exact fun first second hFirst hSecond _ =>
        (hOnly first hFirst).trans (hOnly second hSecond).symm }
  exact divergence_review_holds_iff hAnswer hReviewed rfl

/-- A client with one contact and a server without any: the review lets the
client pull, and the pull finds the two diverged. -/
theorem pull_called_safe_diverges :
    Reviewed {} contactStore newContact [] ∧
      (reviewEvents 5 newContact []).canSafelyPull = true ∧
      ¬ PullSucceeds contactStore contactPull [] ∧
      ¬ ReviewHolds (reviewEvents 5 newContact
        (({} : InMemoryLogbookEventStore).listEvents 102)) {} contactStore contactPull
          newContact.clientEvents := by
  have hPull : ¬ PullSucceeds contactStore contactPull [] := by
    have hHead : contactStore.getHead contactPull.logbookId = some firstContact.eventHash := rfl
    refine not_pullSucceeds hHead trivial ?_ ?_
    · exact fun event hMem => by cases hMem
    · exact fun event hMem => by cases hMem
  refine ⟨{
    serverConsistent := ⟨[], represents_empty⟩
    serverChain := rfl
    clientConsistent := ⟨_, represents_contactStore⟩
    clientChain := ⟨fun _ hMem => (by cases hMem), trivial⟩
    head := rfl
    holds := listEvents_contactStore
    hashes := by
      rintro first second (hServer | hChain | ⟨hFirst, _⟩) (hServer' | hChain' | ⟨hSecond, _⟩) _
      all_goals first
        | cases hServer
        | cases hChain
        | cases hServer'
        | cases hChain'
        | exact (List.mem_singleton.mp hFirst).trans (List.mem_singleton.mp hSecond).symm },
    rfl, hPull, fun hReview => hPull (hReview.pull rfl)⟩

end
end HamLogger
