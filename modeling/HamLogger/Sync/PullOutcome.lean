import HamLogger.Core.StoreBatch
import HamLogger.Sync.Pull

/-! What a pull leaves behind. The append loop inserts the new events of the
batch in order and stops at the first event that offends, so everything about
a pull is decided by the batch and the store before it. -/
namespace HamLogger

open InMemoryLogbookEventStore
open Replay (Accepted accepted_snoc accepted_nil)

namespace InMemoryLogbookEventStore

/-- The identifier of the event is in use, by the store or by a new event
before it in the batch, for an event with different content. -/
def Conflicts (store : InMemoryLogbookEventStore) (seen : List CoreEventEnvelope)
    (event : CoreEventEnvelope) : Prop :=
  ∃ other, (store.getEvent event.eventId = some other ∨
    (other ∈ store.firstSeen seen ∧ other.eventId = event.eventId)) ∧ other ≠ event

/-- The identifier of the event is in use nowhere, but the event does not
continue the last new event before it. A chain can do this only where its
hashes run in a cycle. -/
def Disconnects (store : InMemoryLogbookEventStore) (logbookId : Uuid)
    (seen : List CoreEventEnvelope) (event : CoreEventEnvelope) : Prop :=
  store.getEvent event.eventId = none ∧
    (∀ other ∈ store.firstSeen seen, other.eventId ≠ event.eventId) ∧
    event.previousHash ≠ eventChain.tip (store.getHead logbookId) (store.firstSeen seen)

/-- The event is refused when the append loop reaches it. -/
def Offends (store : InMemoryLogbookEventStore) (logbookId : Uuid)
    (seen : List CoreEventEnvelope) (event : CoreEventEnvelope) : Prop :=
  store.Conflicts seen event ∨ store.Disconnects logbookId seen event

/-- The first offending event of the batch comes after an event that is new
to the store. -/
def OffendsLate (store : InMemoryLogbookEventStore) (logbookId : Uuid)
    (batch : List CoreEventEnvelope) : Prop :=
  ∃ seen event rest, batch = seen ++ event :: rest ∧
    Accepted (fun before other => ¬store.Offends logbookId before other) seen ∧
    store.Offends logbookId seen event ∧ store.firstSeen seen ≠ []

variable (store : InMemoryLogbookEventStore)

/-- When nothing conflicts and no event of the batch is stored or repeated,
every event of the batch is new. -/
theorem firstSeen_eq_self {batch : List CoreEventEnvelope}
    (hFine : Accepted (fun seen event => ¬store.Conflicts seen event) batch)
    (hUnknown : ∀ event ∈ batch, store.getEvent event.eventId ≠ some event)
    (hNodup : batch.Nodup) : store.firstSeen batch = batch := by
  induction batch using List.reverseRecOn with
  | nil => rfl
  | append_singleton batch event ih =>
      obtain ⟨hPrior, hEvent⟩ := (accepted_snoc _ _ _).mp hFine
      obtain ⟨hPriorNodup, _, hDisjoint⟩ := List.nodup_append.mp hNodup
      have hPriorSelf : store.firstSeen batch = batch :=
        ih hPrior (fun e he => hUnknown e (by simp [he])) hPriorNodup
      rw [firstSeen_snoc, hPriorSelf, if_pos]
      refine ⟨?_, ?_⟩
      · rw [Option.eq_none_iff_forall_ne_some]
        intro other hOther
        by_cases hSame : other = event
        · exact hUnknown event (by simp) (hSame ▸ hOther)
        · exact hEvent ⟨other, Or.inl hOther, hSame⟩
      · intro other hMem hId
        refine hEvent ⟨other, Or.inr ⟨hPriorSelf.symm ▸ hMem, hId⟩, ?_⟩
        exact hDisjoint other hMem event (by simp)

/-- No event of a chain offends that continues the local head, with unknown
events and distinct identifiers. -/
theorem not_offends_of_distinct {logbookId : Uuid} {batch : List CoreEventEnvelope}
    (hDistinct : DistinctIds batch) (hNew : ∀ event ∈ batch, store.getEvent event.eventId = none)
    (hLinked : eventChain.Linked (store.getHead logbookId) batch) :
    Accepted (fun seen event => ¬store.Offends logbookId seen event) batch := by
  rintro seen event rest rfl
  have hSeen : DistinctIds (seen ++ [event]) := List.Nodup.sublist (by simp) hDistinct
  have hSelf : store.firstSeen seen = seen :=
    store.firstSeen_of_distinct (List.Nodup.sublist (by simp) hSeen)
      fun e he => hNew e (by simp [he])
  rintro (⟨other, hHeld | ⟨hMem, hId⟩, _⟩ | ⟨_, _, hBroken⟩)
  · rw [hNew event (by simp)] at hHeld
    cases hHeld
  · rw [hSelf] at hMem
    exact hSeen.ne_last hMem hId
  · rw [hSelf] at hBroken
    rw [HashChain.Scheme.linked_append, HashChain.Scheme.linked_cons] at hLinked
    exact hBroken hLinked.2.1

/-- As long as nothing offends, the new events form a chain from the head. -/
theorem firstSeen_linked {logbookId : Uuid} {batch : List CoreEventEnvelope}
    (hFine : Accepted (fun seen event => ¬store.Offends logbookId seen event) batch) :
    eventChain.Linked (store.getHead logbookId) (store.firstSeen batch) := by
  induction batch using List.reverseRecOn with
  | nil => trivial
  | append_singleton batch event ih =>
      obtain ⟨hPrior, hEvent⟩ := (accepted_snoc _ _ _).mp hFine
      rw [firstSeen_snoc]
      split_ifs with hNew
      · rw [HashChain.Scheme.linked_append]
        refine ⟨ih hPrior, ?_, trivial⟩
        by_contra hBroken
        exact hEvent (Or.inr ⟨hNew.1, hNew.2, hBroken⟩)
      · exact ih hPrior

end InMemoryLogbookEventStore

/-- What the loop has done when it has gone through a part of the batch. -/
structure AppliedThrough (store : InMemoryLogbookEventStore) (seen : List CoreEventEnvelope)
    (progress : PullProgress InMemoryLogbookEventStore) : Prop where
  store_eq : progress.store = store.insertAll (store.firstSeen seen)
  accepted : progress.acceptedCount = (store.firstSeen seen).length
  errors : progress.errors = []

/-- What the store of the loop answers for an identifier. -/
theorem AppliedThrough.getEvent {store : InMemoryLogbookEventStore}
    {seen : List CoreEventEnvelope} {progress : PullProgress InMemoryLogbookEventStore}
    (h : AppliedThrough store seen progress) (eventId : Uuid) (event : CoreEventEnvelope) :
    progress.store.getEvent eventId = some event ↔
      store.getEvent eventId = some event ∨
        (event ∈ store.firstSeen seen ∧ event.eventId = eventId) := by
  obtain ⟨hMem, hDistinct⟩ := store.firstSeen_spec seen
  rw [h.store_eq]
  exact store.getEvent_insertAll hDistinct (fun e he => (hMem e he).2) eventId event

theorem AppliedThrough.conflicts_iff {store : InMemoryLogbookEventStore}
    {seen : List CoreEventEnvelope} {progress : PullProgress InMemoryLogbookEventStore}
    (h : AppliedThrough store seen progress) (event : CoreEventEnvelope) :
    store.Conflicts seen event ↔
      ∃ other, progress.store.getEvent event.eventId = some other ∧ other ≠ event := by
  simp only [Conflicts, h.getEvent]

theorem AppliedThrough.isNew_iff {store : InMemoryLogbookEventStore}
    {seen : List CoreEventEnvelope} {progress : PullProgress InMemoryLogbookEventStore}
    (h : AppliedThrough store seen progress) (event : CoreEventEnvelope) :
    (store.getEvent event.eventId = none ∧
      ∀ other ∈ store.firstSeen seen, other.eventId ≠ event.eventId) ↔
      progress.store.getEvent event.eventId = none := by
  rw [h.store_eq]
  exact store.isNew_iff seen event

section Loop
variable [UuidCrate] [RustFmt] [CanonicalJson] [Sha2Crate]

/-- The loop continues with the rest of the batch exactly when the part
before it went through. -/
theorem applyMissing_append (progress : PullProgress InMemoryLogbookEventStore)
    (first second : List CoreEventEnvelope) (hStart : progress.errors = []) :
    applyMissing progress (first ++ second) =
      if (applyMissing progress first).errors = [] then
        applyMissing (applyMissing progress first) second
      else applyMissing progress first := by
  induction first generalizing progress with
  | nil => simp [applyMissing, hStart]
  | cons event rest ih =>
      by_cases hNext : (applyEvent progress event).errors = []
      · have hGo : ∀ events, applyMissing progress (event :: events) =
            applyMissing (applyEvent progress event) events := fun events => if_pos hNext
        rw [List.cons_append, hGo, hGo]
        exact ih _ hNext
      · have hStop : ∀ events, applyMissing progress (event :: events) =
            applyEvent progress event := fun events => if_neg hNext
        rw [List.cons_append, hStop, hStop, if_neg hNext]

section Turn
variable (progress : PullProgress InMemoryLogbookEventStore) {event : CoreEventEnvelope}

theorem applyEvent_held (hFound : progress.store.getEvent event.eventId = some event) :
    applyEvent progress event =
      { progress with ignoredDuplicateCount := progress.ignoredDuplicateCount + 1 } := by
  have hGet : LogbookEventStore.getEvent progress.store event.eventId = .ok (some event) :=
    congrArg Except.ok hFound
  simp [applyEvent, hGet]

theorem applyEvent_conflict {existing : CoreEventEnvelope}
    (hFound : progress.store.getEvent event.eventId = some existing) (hNe : existing ≠ event) :
    ∃ error, applyEvent progress event =
      { progress with errors := progress.errors ++ [error] } := by
  have hGet : LogbookEventStore.getEvent progress.store event.eventId = .ok (some existing) :=
    congrArg Except.ok hFound
  exact ⟨_, by simp only [applyEvent, hGet, if_neg hNe]; rfl⟩

theorem applyEvent_connected (hValid : validateSupportedRemoteEvent event = .ok ())
    (hNone : progress.store.getEvent event.eventId = none)
    (hPrevious : event.previousHash = progress.store.getHead event.logbookId) :
    applyEvent progress event =
      { progress with store := progress.store.insertEvent event,
                      acceptedCount := progress.acceptedCount + 1 } := by
  have hGet : LogbookEventStore.getEvent progress.store event.eventId = .ok none :=
    congrArg Except.ok hNone
  have hAppend : LogbookEventStore.appendVerifiedRemoteEvent progress.store event =
      (progress.store.insertEvent event, .ok event) :=
    appendVerifiedRemoteEvent_new hValid hNone hPrevious
  simp [applyEvent, hGet, hAppend]

theorem applyEvent_disconnected (hNone : progress.store.getEvent event.eventId = none)
    (hPrevious : event.previousHash ≠ progress.store.getHead event.logbookId) :
    ∃ error, applyEvent progress event =
      { progress with errors := progress.errors ++ [error] } := by
  have hGet : LogbookEventStore.getEvent progress.store event.eventId = .ok none :=
    congrArg Except.ok hNone
  rcases progress.store.appendVerifiedRemoteEvent_cases event with ⟨error, hError⟩ |
    ⟨_, hSome, _⟩ | ⟨_, _, hOk, _⟩
  · have hAppend : LogbookEventStore.appendVerifiedRemoteEvent progress.store event =
        (progress.store, .error error) := hError
    exact ⟨error.toString, by simp [applyEvent, hGet, hAppend]⟩
  · rw [hNone] at hSome
    cases hSome
  · exact absurd hOk hPrevious

end Turn

variable {store : InMemoryLogbookEventStore} {logbookId : Uuid}

/-- One turn of the loop: an offending event is recorded as an error and
leaves the store alone, every other event is ignored or inserted. -/
theorem AppliedThrough.applyEvent {seen : List CoreEventEnvelope}
    {progress : PullProgress InMemoryLogbookEventStore} (h : AppliedThrough store seen progress)
    (hSeen : ∀ event ∈ seen, event.logbookId = logbookId) {event : CoreEventEnvelope}
    (hLogbook : event.logbookId = logbookId)
    (hValid : validateSupportedRemoteEvent event = .ok ()) :
    (¬store.Offends logbookId seen event ∧
      AppliedThrough store (seen ++ [event]) (applyEvent progress event)) ∨
    (store.Offends logbookId seen event ∧ ∃ error, HamLogger.applyEvent progress event =
      { progress with errors := progress.errors ++ [error] }) := by
  have hConflicts := h.conflicts_iff event
  have hIsNew := h.isNew_iff event
  cases hFound : progress.store.getEvent event.eventId with
  | some existing =>
      rw [hFound] at hConflicts hIsNew
      have hNotNew : ¬(store.getEvent event.eventId = none ∧
          ∀ other ∈ store.firstSeen seen, other.eventId ≠ event.eventId) := fun hNew =>
        Option.some_ne_none existing (hIsNew.mp hNew)
      by_cases hSame : existing = event
      · subst hSame
        have hSkip : store.firstSeen (seen ++ [existing]) = store.firstSeen seen := by
          rw [firstSeen_snoc, if_neg hNotNew]
        refine Or.inl ⟨?_, ?_⟩
        · rintro (hConflict | ⟨hNone, hUnseen, _⟩)
          · obtain ⟨other, hOther, hNe⟩ := hConflicts.mp hConflict
            exact hNe (Option.some.inj hOther).symm
          · exact hNotNew ⟨hNone, hUnseen⟩
        · rw [applyEvent_held progress hFound]
          exact ⟨by rw [hSkip, ← h.store_eq], by rw [hSkip, ← h.accepted], h.errors⟩
      · have hConflict := hConflicts.mpr ⟨existing, rfl, hSame⟩
        exact Or.inr ⟨Or.inl hConflict, applyEvent_conflict progress hFound hSame⟩
  | none =>
      rw [hFound] at hConflicts hIsNew
      have hNew := hIsNew.mpr rfl
      have hHead : progress.store.getHead event.logbookId =
          eventChain.tip (store.getHead logbookId) (store.firstSeen seen) := by
        rw [h.store_eq, hLogbook]
        exact store.getHead_insertAll fun e he =>
          hSeen e ((store.firstSeen_spec seen).1 e he).1
      by_cases hPrevious : event.previousHash = progress.store.getHead event.logbookId
      · have hTake : store.firstSeen (seen ++ [event]) = store.firstSeen seen ++ [event] := by
          rw [firstSeen_snoc, if_pos hNew]
        refine Or.inl ⟨?_, ?_⟩
        · rintro (hConflict | ⟨_, _, hBroken⟩)
          · obtain ⟨other, hOther, _⟩ := hConflicts.mp hConflict
            cases hOther
          · exact hBroken (hPrevious.trans hHead)
        · rw [applyEvent_connected progress hValid hFound hPrevious]
          refine ⟨?_, ?_, h.errors⟩
          · rw [hTake, insertAll_snoc, ← h.store_eq]
          · rw [hTake, List.length_append, ← h.accepted]
            rfl
      · have hStop := applyEvent_disconnected progress hFound hPrevious
        refine Or.inr ⟨Or.inr ⟨hNew.1, hNew.2, ?_⟩, hStop⟩
        rw [← hHead]
        exact hPrevious

/-- The whole loop goes through when nothing offends, and otherwise stops at
the first event that does. -/
theorem applyMissing_cases (store : InMemoryLogbookEventStore) (batch : List CoreEventEnvelope)
    (hBatch : ∀ event ∈ batch, event.logbookId = logbookId ∧
      validateSupportedRemoteEvent event = .ok ()) :
    (Accepted (fun seen event => ¬store.Offends logbookId seen event) batch ∧
      AppliedThrough store batch (applyMissing { store := store } batch)) ∨
    (∃ seen event rest, batch = seen ++ event :: rest ∧
      Accepted (fun before other => ¬store.Offends logbookId before other) seen ∧
      store.Offends logbookId seen event ∧
      (applyMissing { store := store } batch).errors ≠ [] ∧
      (applyMissing { store := store } batch).store = store.insertAll (store.firstSeen seen)) := by
  induction batch using List.reverseRecOn with
  | nil => exact Or.inl ⟨accepted_nil _, rfl, rfl, rfl⟩
  | append_singleton batch event ih =>
      rw [applyMissing_append _ _ _ rfl]
      rcases ih fun e he => hBatch e (by simp [he]) with ⟨hAccepted, hThrough⟩ |
        ⟨seen, other, rest, rfl, hAccepted, hOffends, hErrors, hStore⟩
      · obtain ⟨hLogbook, hValid⟩ := hBatch event (by simp)
        have hTurn : applyMissing (applyMissing { store := store } batch) [event] =
            applyEvent (applyMissing { store := store } batch) event := by
          simp [applyMissing]
        rw [if_pos hThrough.errors, hTurn]
        rcases hThrough.applyEvent (fun e he => (hBatch e (by simp [he])).1) hLogbook hValid with
          ⟨hFine, hNext⟩ | ⟨hOffends, error, hStop⟩
        · exact Or.inl ⟨(accepted_snoc _ _ _).mpr ⟨hAccepted, hFine⟩, hNext⟩
        · refine Or.inr ⟨batch, event, [], rfl, hAccepted, hOffends, ?_, ?_⟩
          · simp [hStop]
          · rw [hStop]
            exact hThrough.store_eq
      · rw [if_neg hErrors]
        exact Or.inr ⟨seen, other, rest ++ [event], by simp, hAccepted, hOffends, hErrors, hStore⟩

end Loop
end HamLogger
