import HamLogger.Core.NetReadability
import HamLogger.Core.StoreBatch
import HamLogger.Core.Crates

/-! What replication lets into a store and what the projections can read of
it. The checks on a remote event never look at its payload, so an accepted
event can leave a logbook that no projection reads again. -/
namespace HamLogger

open Projection (Rebuilds)
open Replay (Accepted replay replay_snoc)

namespace InMemoryLogbookEventStore

section Accept
variable [CanonicalJson] [Sha2Crate]

/-- The store after a remote append, when the append succeeds. -/
def acceptRemote (store : InMemoryLogbookEventStore) (event : CoreEventEnvelope) :
    Except StoreError InMemoryLogbookEventStore :=
  (store.appendVerifiedRemoteEvent event).2.map fun _ => (store.appendVerifiedRemoteEvent event).1

/-- An accepted event is stored already, or is new and inserted. -/
theorem acceptRemote_cases {store later : InMemoryLogbookEventStore} {event : CoreEventEnvelope}
    (h : store.acceptRemote event = .ok later) :
    (store.getEvent event.eventId = some event ∧ later = store) ∨
      (store.getEvent event.eventId = none ∧ later = store.insertEvent event) := by
  unfold acceptRemote at h
  rcases store.appendVerifiedRemoteEvent_cases event with ⟨error, hError⟩ |
    ⟨_, hFound, hOk⟩ | ⟨_, hNone, _, hOk⟩
  · rw [hError] at h
    cases h
  · rw [hOk] at h
    exact Or.inl ⟨hFound, (Except.ok.inj h).symm⟩
  · rw [hOk] at h
    exact Or.inr ⟨hNone, (Except.ok.inj h).symm⟩

theorem acceptRemote_new {store : InMemoryLogbookEventStore} {event : CoreEventEnvelope}
    (hValid : validateSupportedRemoteEvent event = .ok ())
    (hNone : store.getEvent event.eventId = none)
    (hPrevious : event.previousHash = store.getHead event.logbookId) :
    store.acceptRemote event = .ok (store.insertEvent event) := by
  rw [acceptRemote, appendVerifiedRemoteEvent_new hValid hNone hPrevious]
  rfl

/-- Accepting a list of events inserts those of them that are new. -/
theorem replay_acceptRemote {store later : InMemoryLogbookEventStore}
    {remote : List CoreEventEnvelope} (h : replay acceptRemote store remote = .ok later) :
    later = store.insertAll (store.firstSeen remote) := by
  induction remote using List.reverseRecOn generalizing later with
  | nil =>
      obtain rfl : store = later := by simpa [replay] using h
      rfl
  | append_singleton remote event ih =>
      rw [replay_snoc] at h
      cases hPrior : replay acceptRemote store remote with
      | error error => simp [hPrior] at h
      | ok middle =>
          simp only [hPrior] at h
          have hMiddle := ih hPrior
          have hNew := store.isNew_iff remote event
          rw [← hMiddle] at hNew
          rw [firstSeen_snoc]
          rcases acceptRemote_cases h with ⟨hFound, hLater⟩ | ⟨hNone, hLater⟩
          · have hKnown : middle.getEvent event.eventId ≠ none := by
              rw [hFound]
              exact Option.some_ne_none event
            rw [if_neg (fun h => hKnown (hNew.mp h)), hLater]
            exact hMiddle
          · rw [if_pos (hNew.mpr hNone), hLater, insertAll_snoc, ← hMiddle]

/-- A logbook after accepted remote events lists its old events and then
those of the accepted events that are new. -/
theorem listEvents_acceptRemote {store later : InMemoryLogbookEventStore}
    {remote : List CoreEventEnvelope} (hStore : store.Consistent)
    (h : replay acceptRemote store remote = .ok later) (logbookId : Uuid) :
    later.listEvents logbookId =
      store.listEvents logbookId ++ ofLogbook (store.firstSeen remote) logbookId := by
  obtain ⟨history, hHistory⟩ := hStore
  obtain ⟨hMem, hDistinct⟩ := store.firstSeen_spec remote
  have hLater := hHistory.insertAll hDistinct fun event hNew => (hMem event hNew).2
  rw [replay_acceptRemote h, hLater.listEvents, hHistory.listEvents, ofLogbook_append]

end Accept

/-- After remote events are accepted, the projections of a logbook can be
rebuilt exactly when every event it then lists is readable in its place. -/
theorem rebuilds_after_remote_iff [CanonicalJson] [Sha2Crate] [UuidCrate]
    {store later : InMemoryLogbookEventStore} {remote : List CoreEventEnvelope}
    (hStore : store.Consistent) (hAccepted : replay acceptRemote store remote = .ok later)
    (logbookId : Uuid) :
    (Rebuilds QsoCurrentStateProjection (later.listEvents logbookId) ∧
      Rebuilds ActivationProjection (later.listEvents logbookId) ∧
      Rebuilds NetControlProjection (later.listEvents logbookId)) ↔
      Accepted Readable
        (store.listEvents logbookId ++ ofLogbook (store.firstSeen remote) logbookId) := by
  rw [rebuilds_iff_readable, listEvents_acceptRemote hStore hAccepted]

open scoped Crates in
theorem rebuilds_after_remote_iff_contact :
    let contact := CoreEventEnvelope.fromNew
      (Crates.sampleEvent .qsoCreated 1 (some 2) (.object [])) none (Crates.sampleStamp 3)
    let later := ({} : InMemoryLogbookEventStore).insertEvent contact
    ({} : InMemoryLogbookEventStore).Consistent ∧ replay acceptRemote {} [contact] = .ok later ∧
      ((Rebuilds QsoCurrentStateProjection (later.listEvents 1) ∧
        Rebuilds ActivationProjection (later.listEvents 1) ∧
        Rebuilds NetControlProjection (later.listEvents 1)) ↔ Accepted Readable [contact]) := by
  intro contact later
  have hEmpty : ({} : InMemoryLogbookEventStore).Consistent := ⟨[], represents_empty⟩
  have hValid : validateSupportedRemoteEvent contact = .ok () :=
    (validateSupportedRemoteEvent_fromNew ..).mpr ⟨rfl, rfl⟩
  have hAccept : replay acceptRemote {} [contact] = .ok later := by
    rw [replay, acceptRemote_new hValid rfl rfl]
    rfl
  exact ⟨hEmpty, hAccept, rebuilds_after_remote_iff hEmpty hAccept 1⟩

open scoped Crates in
/-- A contact from a peer whose payload is a string is accepted, and from then
on every rebuild of the logbook panics. -/
theorem string_contact_accepted_and_unreadable :
    let contact := CoreEventEnvelope.fromNew
      (Crates.sampleEvent .qsoCreated 1 (some 2) (.string "")) none (Crates.sampleStamp 3)
    let later := ({} : InMemoryLogbookEventStore).insertEvent contact
    replay acceptRemote {} [contact] = .ok later ∧
      Projection.rebuild QsoCurrentStateProjection (later.listEvents 1) = .error .panic := by
  intro contact later
  have hValid : validateSupportedRemoteEvent contact = .ok () :=
    (validateSupportedRemoteEvent_fromNew ..).mpr ⟨rfl, rfl⟩
  refine ⟨?_, rfl⟩
  rw [replay, acceptRemote_new hValid rfl rfl]
  rfl

end InMemoryLogbookEventStore
end HamLogger
