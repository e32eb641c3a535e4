import HamLogger.Core.StoreRuns
import HamLogger.Library.Replay

/-! Storing a batch of events: which of them are new to a store, and what the
store answers once the new ones are inserted. -/
namespace HamLogger
namespace InMemoryLogbookEventStore

/-- Insert events one after the other. -/
def insertAll (store : InMemoryLogbookEventStore) (events : List CoreEventEnvelope) :
    InMemoryLogbookEventStore :=
  events.foldl insertEvent store

/-- The events of a batch whose identifier is held neither by the store nor
by an earlier event of the batch. -/
def firstSeen (store : InMemoryLogbookEventStore) (batch : List CoreEventEnvelope) :
    List CoreEventEnvelope :=
  batch.foldl (fun known event =>
    if store.getEvent event.eventId = none ∧ ∀ other ∈ known, other.eventId ≠ event.eventId then
      known ++ [event]
    else known) []

variable (store : InMemoryLogbookEventStore)

@[simp] theorem insertAll_nil : store.insertAll [] = store := rfl

@[simp] theorem insertAll_snoc (events : List CoreEventEnvelope) (event : CoreEventEnvelope) :
    store.insertAll (events ++ [event]) = (store.insertAll events).insertEvent event := by
  simp [insertAll]

@[simp] theorem firstSeen_nil : store.firstSeen [] = [] := rfl

theorem firstSeen_snoc (batch : List CoreEventEnvelope) (event : CoreEventEnvelope) :
    store.firstSeen (batch ++ [event]) =
      if store.getEvent event.eventId = none ∧
          ∀ other ∈ store.firstSeen batch, other.eventId ≠ event.eventId then
        store.firstSeen batch ++ [event]
      else store.firstSeen batch := by
  unfold firstSeen
  rw [List.foldl_append]
  rfl

/-- The new events are events of the batch that the store does not know, and
no two of them have the same identifier. -/
theorem firstSeen_spec (batch : List CoreEventEnvelope) :
    (∀ event ∈ store.firstSeen batch, event ∈ batch ∧ store.getEvent event.eventId = none) ∧
      DistinctIds (store.firstSeen batch) := by
  induction batch using List.reverseRecOn with
  | nil => exact ⟨by simp, List.nodup_nil⟩
  | append_singleton batch event ih =>
      obtain ⟨hMem, hDistinct⟩ := ih
      rw [firstSeen_snoc]
      split_ifs with hNew
      · refine ⟨?_, ?_⟩
        · intro other hOther
          rcases List.mem_append.mp hOther with hOld | hLast
          · exact ⟨by simp [(hMem other hOld).1], (hMem other hOld).2⟩
          · obtain rfl := List.mem_singleton.mp hLast
            exact ⟨by simp, hNew.1⟩
        · exact hDistinct.snoc hNew.2
      · refine ⟨?_, hDistinct⟩
        intro other hOther
        exact ⟨by simp [(hMem other hOther).1], (hMem other hOther).2⟩

/-- A batch of unknown events with distinct identifiers is new as a whole. -/
theorem firstSeen_of_distinct {batch : List CoreEventEnvelope} (hDistinct : DistinctIds batch)
    (hNew : ∀ event ∈ batch, store.getEvent event.eventId = none) :
    store.firstSeen batch = batch := by
  induction batch using List.reverseRecOn with
  | nil => rfl
  | append_singleton batch event ih =>
      have hPrior : store.firstSeen batch = batch :=
        ih (List.Nodup.sublist (by simp) hDistinct) fun e he => hNew e (by simp [he])
      rw [firstSeen_snoc, hPrior, if_pos]
      exact ⟨hNew event (by simp), fun other hMem => hDistinct.ne_last hMem⟩

/-- Inserting new events with distinct identifiers adds exactly these. -/
theorem getEvent_insertAll {events : List CoreEventEnvelope} (hDistinct : DistinctIds events)
    (hNew : ∀ event ∈ events, store.getEvent event.eventId = none) (eventId : Uuid)
    (event : CoreEventEnvelope) :
    (store.insertAll events).getEvent eventId = some event ↔
      store.getEvent eventId = some event ∨ (event ∈ events ∧ event.eventId = eventId) := by
  induction events using List.reverseRecOn with
  | nil => simp
  | append_singleton events last ih =>
      have hPrior := ih (List.Nodup.sublist (by simp) hDistinct)
        fun e he => hNew e (by simp [he])
      have hLast : ∀ other ∈ events, other.eventId ≠ last.eventId :=
        fun _ hMem => hDistinct.ne_last hMem
      have hUnknown := hNew last (by simp)
      rw [insertAll_snoc, getEvent_insertEvent]
      by_cases hId : eventId = last.eventId
      · subst hId
        simp only [if_true, Option.some.injEq, hUnknown, List.mem_append, List.mem_singleton]
        constructor
        · rintro rfl
          exact Or.inr ⟨Or.inr rfl, rfl⟩
        · rintro (hNone | ⟨hMem | rfl, hEq⟩)
          · cases hNone
          · exact absurd hEq (hLast event hMem)
          · rfl
      · rw [if_neg hId, hPrior]
        simp only [List.mem_append, List.mem_singleton]
        constructor
        · rintro (hOld | ⟨hMem, hEq⟩)
          · exact Or.inl hOld
          · exact Or.inr ⟨Or.inl hMem, hEq⟩
        · rintro (hOld | ⟨hMem | rfl, hEq⟩)
          · exact Or.inl hOld
          · exact Or.inr ⟨hMem, hEq⟩
          · exact absurd hEq.symm hId

/-- An identifier is free after new events are inserted when it was free
before and none of them has it. -/
theorem getEvent_insertAll_eq_none_iff {events : List CoreEventEnvelope}
    (hDistinct : DistinctIds events)
    (hNew : ∀ event ∈ events, store.getEvent event.eventId = none) (eventId : Uuid) :
    (store.insertAll events).getEvent eventId = none ↔
      store.getEvent eventId = none ∧ ∀ event ∈ events, event.eventId ≠ eventId := by
  simp only [Option.eq_none_iff_forall_ne_some]
  constructor
  · intro hFree
    refine ⟨fun event hHeld => hFree event ?_, fun event hMem hId => hFree event ?_⟩
    · exact (store.getEvent_insertAll hDistinct hNew _ _).mpr (Or.inl hHeld)
    · exact (store.getEvent_insertAll hDistinct hNew _ _).mpr (Or.inr ⟨hMem, hId⟩)
  · rintro ⟨hFree, hOthers⟩ event hHeld
    rcases (store.getEvent_insertAll hDistinct hNew _ _).mp hHeld with hOld | ⟨hMem, hId⟩
    · exact hFree event hOld
    · exact hOthers event hMem hId

/-- The next event of a batch is new exactly when its identifier is free in
the store that holds the new events before it. -/
theorem isNew_iff (batch : List CoreEventEnvelope) (event : CoreEventEnvelope) :
    (store.getEvent event.eventId = none ∧
      ∀ other ∈ store.firstSeen batch, other.eventId ≠ event.eventId) ↔
      (store.insertAll (store.firstSeen batch)).getEvent event.eventId = none := by
  obtain ⟨hMem, hDistinct⟩ := store.firstSeen_spec batch
  exact (store.getEvent_insertAll_eq_none_iff hDistinct (fun e he => (hMem e he).2) _).symm

theorem insertAll_ne {events : List CoreEventEnvelope} (hDistinct : DistinctIds events)
    (hNew : ∀ event ∈ events, store.getEvent event.eventId = none) (hSome : events ≠ []) :
    store.insertAll events ≠ store := by
  intro hSame
  obtain ⟨event, hMem⟩ := List.exists_mem_of_ne_nil events hSome
  have hHeld := (store.getEvent_insertAll hDistinct hNew _ event).mpr (Or.inr ⟨hMem, rfl⟩)
  rw [hSame, hNew event hMem] at hHeld
  cases hHeld

theorem getHead_insertAll {events : List CoreEventEnvelope} {logbookId : Uuid}
    (hLogbook : ∀ event ∈ events, event.logbookId = logbookId) :
    (store.insertAll events).getHead logbookId =
      eventChain.tip (store.getHead logbookId) events := by
  induction events using List.reverseRecOn with
  | nil => rfl
  | append_singleton events last ih =>
      rw [insertAll_snoc, getHead_insertEvent, if_pos (hLogbook last (by simp)).symm]
      simp

/-- Inserting new events with distinct identifiers appends them to the history. -/
theorem Represents.insertAll {store : InMemoryLogbookEventStore}
    {history events : List CoreEventEnvelope} (h : store.Represents history)
    (hDistinct : DistinctIds events)
    (hNew : ∀ event ∈ events, store.getEvent event.eventId = none) :
    (store.insertAll events).Represents (history ++ events) := by
  induction events using List.reverseRecOn with
  | nil => simpa using h
  | append_singleton events last ih =>
      have hPriorDistinct : DistinctIds events := List.Nodup.sublist (by simp) hDistinct
      have hPriorNew : ∀ event ∈ events, store.getEvent event.eventId = none :=
        fun e he => hNew e (by simp [he])
      rw [insertAll_snoc, ← List.append_assoc]
      refine (ih hPriorDistinct hPriorNew).insertEvent ?_
      rw [store.getEvent_insertAll_eq_none_iff hPriorDistinct hPriorNew]
      exact ⟨hNew last (by simp), fun other hMem => hDistinct.ne_last hMem⟩

/-- A verified store stays verified when new events are inserted that
continue the head of their logbook. -/
theorem Verified.insertAll [CanonicalJson] [Sha2Crate] {store : InMemoryLogbookEventStore}
    {history events : List CoreEventEnvelope} {logbookId : Uuid} (h : store.Verified history)
    (hLogbook : ∀ event ∈ events, event.logbookId = logbookId)
    (hHash : ∀ event ∈ events, event.hashIsValid = true) (hDistinct : DistinctIds events)
    (hNew : ∀ event ∈ events, store.getEvent event.eventId = none)
    (hLinked : eventChain.Linked (store.getHead logbookId) events) :
    (store.insertAll events).Verified (history ++ events) := by
  refine ⟨h.represents.insertAll hDistinct hNew, fun other => ?_⟩
  obtain ⟨hValid, hChain⟩ := h.chain other
  rw [ofLogbook_append]
  by_cases hOther : other = logbookId
  · subst hOther
    rw [ofLogbook_self hLogbook]
    refine ⟨?_, ?_⟩
    · intro event hMem
      rcases List.mem_append.mp hMem with hOld | hNewer
      · exact hValid event hOld
      · exact hHash event hNewer
    · rw [HashChain.Scheme.linked_append, ← h.represents.head]
      exact ⟨hChain, hLinked⟩
  · rw [ofLogbook_eq_nil hLogbook hOther, List.append_nil]
    exact ⟨hValid, hChain⟩

end InMemoryLogbookEventStore
end HamLogger
