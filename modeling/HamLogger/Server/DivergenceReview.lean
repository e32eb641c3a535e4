import HamLogger.Library.ChainSegment
import HamLogger.Server.PullPreview

/-! The review of a divergence: what the server says about its chain and the
chain of a client, from the head of the client and the events it would push. -/
namespace HamLogger

open InMemoryLogbookEventStore

structure DivergenceReviewRequest where
  logbookId : Uuid
  localHeadHash : Option String
  clientEvents : List CoreEventEnvelope := []

structure DivergenceReview where
  reportId : Uuid
  logbookId : Uuid
  localHeadHash : Option String
  remoteHeadHash : Option String
  commonAncestor : Option String
  missingLocalEvents : List EventMetadata
  missingRemoteEvents : List EventMetadata
  canSafelyPull : Bool
  canSafelyPush : Bool
  divergenceDetected : Bool
  recommendedAction : String
  deriving DecidableEq

/-- `json!` of a review. -/
class DivergenceReviewJson where
  toValue : DivergenceReview → Value

/-- The review of a list of events. -/
def reviewEvents (reportId : Uuid) (input : DivergenceReviewRequest)
    (events : List CoreEventEnvelope) : DivergenceReview :=
  let preview := previewPullFromEvents "hosted-server"
    { logbookId := input.logbookId, localHeadHash := input.localHeadHash } events
  let serverHead := headHash events
  let canPush := (input.clientEvents.head?.any fun event => event.previousHash = serverHead) ||
    (input.clientEvents.isEmpty && decide (input.localHeadHash = serverHead))
  let divergent := decide (preview.status = .diverged) ||
    input.clientEvents.head?.any fun event => event.previousHash ≠ serverHead
  { reportId := reportId
    logbookId := input.logbookId
    localHeadHash := input.localHeadHash
    remoteHeadHash := serverHead
    commonAncestor := if divergent then none else preview.localHeadHash
    missingLocalEvents := input.clientEvents.map metadataForEvent
    missingRemoteEvents := preview.events
    canSafelyPull := decide (preview.status = .remoteAhead) || decide (preview.status = .inSync)
    canSafelyPush := canPush && !divergent
    divergenceDetected := divergent
    recommendedAction :=
      if divergent then "export divergence report; do not auto-merge"
      else if canPush then "safe to push"
      else if preview.status = .remoteAhead then "safe to pull"
      else "in sync" }

namespace HostedServer

section Handler
variable [UuidCrate] [Sha2Crate] [DivergenceReviewJson]

def divergenceReview (context : RequestContext) (reportId : Uuid)
    (body : Except String DivergenceReviewRequest) : EventHandler DivergenceReview := do
  let input ← onServer (parseJson body)
  let auth ← onServer (requireLogbookRole context input.logbookId .read)
  onServer (enforceSyncOperationLimit context auth.session)
  let state ← get
  let review := reviewEvents reportId input (state.store.listEvents input.logbookId)
  let report : HostedDivergenceReport :=
    { reportId := reportId, accountId := auth.session.accountId, logbookId := input.logbookId
      createdAt := context.now, review := DivergenceReviewJson.toValue review }
  onServer (modify fun server =>
    { server with divergenceReports := server.divergenceReports.insert report })
  onServer (persistMetadata context)
  return review

/-- A review that is answered is the one of the stored events. -/
theorem divergenceReview_ok {context : RequestContext} {reportId : Uuid}
    {input : DivergenceReviewRequest} {state later : HostedState} {review : DivergenceReview}
    (h : (divergenceReview context reportId (.ok input)).execute state = (later, .ok review)) :
    review = reviewEvents reportId input (state.store.listEvents input.logbookId) := by
  unfold divergenceReview at h
  obtain ⟨_, _, hParse, h⟩ := Program.execute_bind_ok.mp h
  rw [execute_onServer, Prod.mk.injEq] at hParse
  obtain ⟨hFirst, hInput⟩ := hParse
  obtain rfl := Except.ok.inj hInput
  obtain ⟨_, auth, hAuth, h⟩ := Program.execute_bind_ok.mp h
  rw [execute_onServer, Prod.mk.injEq] at hAuth
  obtain ⟨_, _, hLimit, h⟩ := Program.execute_bind_ok.mp h
  rw [execute_onServer, Prod.mk.injEq] at hLimit
  obtain ⟨_, read, hRead, h⟩ := Program.execute_bind_ok.mp h
  rw [Program.execute_get, Prod.mk.injEq] at hRead
  obtain ⟨hSame, hOk⟩ := hRead
  obtain rfl := Except.ok.inj hOk
  obtain ⟨_, _, _, h⟩ := Program.execute_bind_ok.mp h
  obtain ⟨_, _, _, h⟩ := Program.execute_bind_ok.mp h
  obtain rfl := Except.ok.inj (congrArg Prod.snd h)
  rw [← hLimit.1, ← hAuth.1, ← hFirst]

end Handler

end HostedServer

/-! Chains that share their beginning. -/

section Prefixes
variable {chain log : List CoreEventEnvelope} {known : CoreEventEnvelope → Prop}

/-- The rest of a log after a chain it starts with. -/
theorem missingEventsAfter_append {rest : List CoreEventEnvelope}
    (hFree : eventChain.CollisionFree known) (hNodup : (chain ++ rest).Nodup)
    (hKnown : ∀ event ∈ chain, known event) :
    missingEventsAfter (chain ++ rest) (eventChain.tip none chain) = some rest := by
  cases chain using List.reverseRecOn with
  | nil => rfl
  | append_singleton front last =>
      have hTip : eventChain.tip none (front ++ [last]) = some last.eventHash := by
        rw [HashChain.Scheme.tip_append]
        rfl
      have hFront : front.findIdx? (fun event => event.eventHash == last.eventHash) = none := by
        rw [List.findIdx?_eq_none_iff]
        intro event hMem
        rw [beq_eq_false_iff_ne]
        intro hHash
        obtain rfl := hFree event last (hKnown event (by simp [hMem])) (hKnown last (by simp)) hHash
        rw [List.append_assoc] at hNodup
        exact (List.nodup_append.mp hNodup).2.2 event hMem event (by simp) rfl
      rw [hTip, missingEventsAfter, List.append_assoc, List.findIdx?_append, hFront]
      simp [List.findIdx?_cons]

/-- A preview is diverged just where the local chain is no beginning of the
log. -/
theorem preview_diverged_iff {logbookId : Uuid} {peerId : String}
    (hFree : eventChain.CollisionFree known) (hChain : eventChain.Linked none chain)
    (hLog : eventChain.Linked none log) (hKnownChain : ∀ event ∈ chain, known event)
    (hKnownLog : ∀ event ∈ log, known event) (hNodup : log.Nodup)
    (hOwn : ∀ event ∈ log, event.logbookId = logbookId) :
    (previewPullFromEvents peerId
      { logbookId := logbookId, localHeadHash := eventChain.tip none chain } log).status =
        .diverged ↔ ¬ chain <+: log := by
  have hSelf : ofLogbook log logbookId = log := ofLogbook_self hOwn
  by_cases hPrefix : chain <+: log
  · obtain ⟨rest, rfl⟩ := hPrefix
    have hMissing := missingEventsAfter_append hFree hNodup hKnownChain
    have hGoesOn : chain <+: chain ++ rest := List.prefix_append chain rest
    by_cases hHead : eventChain.tip none chain = headHash (chain ++ rest) <;>
      simp [previewPullFromEvents, hSelf, hHead, hMissing, hGoesOn]
  · have hAbsent : ∀ event ∈ log, eventChain.tip none chain ≠ some event.eventHash :=
      fun event hMem hTip =>
        hPrefix (hFree.prefix_of_tip_mem hChain hLog hKnownChain hKnownLog hMem hTip)
    have hHead : eventChain.tip none chain ≠ headHash log := by
      intro hSame
      rw [headHash_eq_tip] at hSame
      exact hPrefix (hFree.eq_of_tip_eq hChain hLog hKnownChain hKnownLog hSame ▸
        List.prefix_refl _)
    have hMissing : missingEventsAfter log (eventChain.tip none chain) = none := by
      cases hTip : eventChain.tip none chain with
      | none =>
          obtain rfl : chain = [] := by
            rw [HashChain.Scheme.tip_none, Option.map_eq_none_iff,
              List.getLast?_eq_none_iff] at hTip
            exact hTip
          exact absurd List.nil_prefix hPrefix
      | some hash =>
          rw [missingEventsAfter, Option.map_eq_none_iff, List.findIdx?_eq_none_iff]
          intro event hMem
          rw [beq_eq_false_iff_ne]
          intro hHash
          exact hAbsent event hMem (hTip.trans (congrArg some hHash.symm))
    simp [previewPullFromEvents, hSelf, hHead, hMissing, hPrefix]

end Prefixes

end HamLogger
