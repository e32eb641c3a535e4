import HamLogger.Core.Store
import HamLogger.Library.Transition
import Mathlib.Data.List.Count

/-! The store refines an append-only history of events with distinct
identifiers. Every query is a function of that history, and every call either
appends one event to it or leaves the store as it was. -/
namespace HamLogger

/-- The events of one logbook, in the order of the history. -/
def ofLogbook (history : List CoreEventEnvelope) (logbookId : Uuid) : List CoreEventEnvelope :=
  history.filter fun event => event.logbookId = logbookId

@[simp] theorem ofLogbook_nil (logbookId : Uuid) : ofLogbook [] logbookId = [] := rfl

@[simp] theorem ofLogbook_append (first second : List CoreEventEnvelope) (logbookId : Uuid) :
    ofLogbook (first ++ second) logbookId =
      ofLogbook first logbookId ++ ofLogbook second logbookId :=
  List.filter_append _ _

theorem ofLogbook_self {events : List CoreEventEnvelope} {logbookId : Uuid}
    (h : ∀ event ∈ events, event.logbookId = logbookId) : ofLogbook events logbookId = events := by
  unfold ofLogbook
  rw [List.filter_eq_self]
  intro event hMem
  simpa using h event hMem

theorem ofLogbook_eq_nil {events : List CoreEventEnvelope} {logbookId other : Uuid}
    (h : ∀ event ∈ events, event.logbookId = logbookId) (hOther : other ≠ logbookId) :
    ofLogbook events other = [] := by
  unfold ofLogbook
  rw [List.filter_eq_nil_iff]
  intro event hMem
  simp [h event hMem, hOther.symm]

theorem mem_ofLogbook {history : List CoreEventEnvelope} {logbookId : Uuid}
    {event : CoreEventEnvelope} :
    event ∈ ofLogbook history logbookId ↔ event ∈ history ∧ event.logbookId = logbookId := by
  simp [ofLogbook]

/-- Lists with the same events in every logbook have the same events. -/
theorem perm_of_ofLogbook_eq {first second : List CoreEventEnvelope}
    (h : ∀ logbookId, ofLogbook first logbookId = ofLogbook second logbookId) :
    first.Perm second := by
  rw [List.perm_iff_count]
  intro event
  have hOwn : ∀ events : List CoreEventEnvelope,
      (ofLogbook events event.logbookId).count event = events.count event :=
    fun events => List.count_filter (by simp)
  rw [← hOwn first, ← hOwn second, h]

/-- Moving the first event of its logbook from one list to the end of another
keeps, logbook by logbook, the events of both lists together. -/
theorem ofLogbook_move {first second : List CoreEventEnvelope} {position : Nat}
    {event : CoreEventEnvelope} (hEvent : second[position]? = some event)
    (hFirst : ∀ earlier ∈ second.take position, earlier.logbookId ≠ event.logbookId)
    (logbookId : Uuid) :
    ofLogbook ((first ++ [event]) ++ second.eraseIdx position) logbookId =
      ofLogbook (first ++ second) logbookId := by
  obtain ⟨hLt, hGet⟩ := List.getElem?_eq_some_iff.mp hEvent
  have hSplit : second = second.take position ++ event :: second.drop (position + 1) := by
    rw [← hGet, List.getElem_cons_drop, List.take_append_drop]
  have hErased : second.eraseIdx position =
      second.take position ++ second.drop (position + 1) := List.eraseIdx_eq_take_drop_succ ..
  rw [hErased]
  conv_rhs => rw [hSplit]
  simp only [ofLogbook_append, List.append_assoc]
  by_cases hLogbook : event.logbookId = logbookId
  · have hNone : ofLogbook (second.take position) logbookId = [] := by
      unfold ofLogbook
      rw [List.filter_eq_nil_iff]
      intro earlier hMem
      simpa [hLogbook] using hFirst earlier hMem
    rw [hNone]
    simp [ofLogbook, hLogbook]
  · simp [ofLogbook, hLogbook]

/-- No two events of the list have the same identifier. -/
def DistinctIds (events : List CoreEventEnvelope) : Prop :=
  (events.map CoreEventEnvelope.eventId).Nodup

theorem DistinctIds.ofLogbook {events : List CoreEventEnvelope} (h : DistinctIds events)
    (logbookId : Uuid) : DistinctIds (ofLogbook events logbookId) :=
  List.Nodup.sublist (List.Sublist.map _ List.filter_sublist) h

theorem DistinctIds.ne_last {events : List CoreEventEnvelope} {last : CoreEventEnvelope}
    (h : DistinctIds (events ++ [last])) {event : CoreEventEnvelope} (hMem : event ∈ events) :
    event.eventId ≠ last.eventId := by
  have hNodup : (events.map CoreEventEnvelope.eventId ++ [last.eventId]).Nodup := by
    simpa [DistinctIds] using h
  exact (List.nodup_append.mp hNodup).2.2 _ (List.mem_map_of_mem hMem) _ (by simp)

/-- An event with an identifier of its own extends a list of distinct ones. -/
theorem DistinctIds.snoc {events : List CoreEventEnvelope} (h : DistinctIds events)
    {last : CoreEventEnvelope} (hLast : ∀ event ∈ events, event.eventId ≠ last.eventId) :
    DistinctIds (events ++ [last]) := by
  unfold DistinctIds
  rw [List.map_append, List.nodup_append]
  refine ⟨h, by simp, ?_⟩
  intro a ha b hb
  obtain ⟨event, hMem, rfl⟩ := List.mem_map.mp ha
  obtain rfl : b = last.eventId := by simpa using hb
  exact hLast event hMem

namespace InMemoryLogbookEventStore

/-- The store holds exactly the events of the history. -/
structure Represents (store : InMemoryLogbookEventStore) (history : List CoreEventEnvelope) :
    Prop where
  distinct : DistinctIds history
  event : ∀ eventId event,
    store.getEvent eventId = some event ↔ event ∈ history ∧ event.eventId = eventId
  logbook : ∀ logbookId, (store.eventsByLogbook.lookup logbookId).getD [] =
    (ofLogbook history logbookId).map CoreEventEnvelope.eventId
  head : ∀ logbookId, store.getHead logbookId = eventChain.tip none (ofLogbook history logbookId)

/-- The three maps of the store agree with each other. -/
def Consistent (store : InMemoryLogbookEventStore) : Prop :=
  ∃ history, store.Represents history

theorem represents_empty : ({} : InMemoryLogbookEventStore).Represents [] where
  distinct := List.nodup_nil
  event := by simp [getEvent]
  logbook := by simp
  head := by simp [getHead]

section Insert
variable (store : InMemoryLogbookEventStore) (event : CoreEventEnvelope)

theorem getEvent_insertEvent (eventId : Uuid) :
    (store.insertEvent event).getEvent eventId =
      if eventId = event.eventId then some event else store.getEvent eventId :=
  KeyMap.lookup_insert_eq_ite ..

theorem getHead_insertEvent (logbookId : Uuid) :
    (store.insertEvent event).getHead logbookId =
      if logbookId = event.logbookId then some event.eventHash else store.getHead logbookId :=
  KeyMap.lookup_insert_eq_ite ..

theorem eventIds_insertEvent (logbookId : Uuid) :
    ((store.insertEvent event).eventsByLogbook.lookup logbookId).getD [] =
      (store.eventsByLogbook.lookup logbookId).getD [] ++
        if event.logbookId = logbookId then [event.eventId] else [] := by
  simp only [insertEvent, KeyMap.lookup_insert_eq_ite]
  by_cases h : logbookId = event.logbookId
  · subst h
    simp
  · simp [h, Ne.symm h]

end Insert

/-- Inserting a new event appends it to the history. -/
theorem Represents.insertEvent {store : InMemoryLogbookEventStore}
    {history : List CoreEventEnvelope} (h : store.Represents history)
    {event : CoreEventEnvelope} (hNew : store.getEvent event.eventId = none) :
    (store.insertEvent event).Represents (history ++ [event]) := by
  have hFresh : ∀ other ∈ history, other.eventId ≠ event.eventId := by
    intro other hMem hId
    have hFound := (h.event event.eventId other).mpr ⟨hMem, hId⟩
    rw [hNew] at hFound
    cases hFound
  refine ⟨?_, ?_, ?_, ?_⟩
  · exact h.distinct.snoc hFresh
  · intro eventId other
    rw [getEvent_insertEvent]
    by_cases hId : eventId = event.eventId
    · subst hId
      simp only [if_true, Option.some.injEq, List.mem_append, List.mem_singleton]
      constructor
      · rintro rfl
        exact ⟨Or.inr rfl, rfl⟩
      · rintro ⟨hMem | rfl, hEq⟩
        · exact absurd hEq (hFresh other hMem)
        · rfl
    · rw [if_neg hId, h.event]
      simp only [List.mem_append, List.mem_singleton]
      constructor
      · rintro ⟨hMem, hEq⟩
        exact ⟨Or.inl hMem, hEq⟩
      · rintro ⟨hMem | rfl, hEq⟩
        · exact ⟨hMem, hEq⟩
        · exact absurd hEq.symm hId
  · intro logbookId
    rw [eventIds_insertEvent, h.logbook]
    by_cases hLogbook : event.logbookId = logbookId <;> simp [ofLogbook, hLogbook]
  · intro logbookId
    rw [getHead_insertEvent, h.head]
    by_cases hLogbook : event.logbookId = logbookId
    · subst hLogbook
      simp [ofLogbook]
    · simp [ofLogbook, hLogbook, Ne.symm hLogbook]

namespace Represents
variable {store : InMemoryLogbookEventStore} {history : List CoreEventEnvelope}

theorem getEvent_of_mem (h : store.Represents history) {event : CoreEventEnvelope}
    (hMem : event ∈ history) : store.getEvent event.eventId = some event :=
  (h.event _ _).mpr ⟨hMem, rfl⟩

theorem getEvent_eq_none_iff (h : store.Represents history) (eventId : Uuid) :
    store.getEvent eventId = none ↔ ∀ event ∈ history, event.eventId ≠ eventId := by
  rw [Option.eq_none_iff_forall_ne_some]
  constructor
  · intro hNone event hMem hId
    exact hNone event ((h.event _ _).mpr ⟨hMem, hId⟩)
  · intro hAbsent event hFound
    obtain ⟨hMem, hId⟩ := (h.event _ _).mp hFound
    exact hAbsent event hMem hId

/-- Looking up the identifiers of stored events gives the events back. -/
theorem filterMap_lookup (h : store.Represents history) {events : List CoreEventEnvelope}
    (hMem : ∀ event ∈ events, event ∈ history) :
    (events.map CoreEventEnvelope.eventId).filterMap
      (fun eventId => store.eventsById.lookup eventId) = events := by
  induction events with
  | nil => rfl
  | cons event rest ih =>
      have hFound : store.eventsById.lookup event.eventId = some event :=
        h.getEvent_of_mem (hMem event (by simp))
      rw [List.map_cons, List.filterMap_cons, hFound]
      simp only [ih fun e he => hMem e (by simp [he])]

/-- Listing a logbook gives its part of the history. -/
theorem listEvents (h : store.Represents history) (logbookId : Uuid) :
    store.listEvents logbookId = ofLogbook history logbookId := by
  have hIds := h.logbook logbookId
  unfold InMemoryLogbookEventStore.listEvents listEventsAfter
  cases hLookup : store.eventsByLogbook.lookup logbookId with
  | none =>
      have hEmpty : ofLogbook history logbookId = [] := by simpa [hLookup] using hIds.symm
      rw [hEmpty]
  | some eventIds =>
      obtain rfl : eventIds = (ofLogbook history logbookId).map CoreEventEnvelope.eventId := by
        simpa [hLookup] using hIds
      exact h.filterMap_lookup fun event hMem => (mem_ofLogbook.mp hMem).1

theorem getHead (h : store.Represents history) (logbookId : Uuid) :
    store.getHead logbookId = eventChain.tip none (store.listEvents logbookId) := by
  rw [h.listEvents, h.head]

end Represents

section Verification
variable [CanonicalJson] [Sha2Crate]

/-- The chain of a logbook: right hashes, each event naming the one before. -/
def ChainOk (events : List CoreEventEnvelope) : Prop :=
  (∀ event ∈ events, event.hashIsValid = true) ∧ eventChain.Linked none events

variable {store : InMemoryLogbookEventStore} {history : List CoreEventEnvelope}

/-- What the verification loop checks on stored events. -/
theorem Represents.verifyEvents_eq_ok_iff (h : store.Represents history)
    {events : List CoreEventEnvelope} (hMem : ∀ event ∈ events, event ∈ history)
    (start head : Option String) :
    store.verifyEvents (events.map CoreEventEnvelope.eventId) start = .ok head ↔
      (∀ event ∈ events, event.hashIsValid = true) ∧ eventChain.Linked start events ∧
        eventChain.tip start events = head := by
  induction events generalizing start with
  | nil => simp [verifyEvents]
  | cons event rest ih =>
      have hFound : store.eventsById.lookup event.eventId = some event :=
        h.getEvent_of_mem (hMem event (by simp))
      have hRest := ih (fun e he => hMem e (by simp [he])) (some event.eventHash)
      simp only [List.map_cons, verifyEvents, hFound]
      split_ifs with hHash hPrevious
      · simp [hHash]
      · simp [hPrevious]
      · rw [hRest]
        simp only [ne_eq, Bool.not_eq_false, not_not] at hHash hPrevious
        simp [hHash, hPrevious]

/-- Verifying a logbook of a consistent store checks its chain, and the head
is right by itself. -/
theorem Represents.verifyChain_eq_ok_iff (h : store.Represents history) (logbookId : Uuid) :
    store.verifyChain logbookId = .ok () ↔ ChainOk (store.listEvents logbookId) := by
  have hIds := h.logbook logbookId
  rw [h.listEvents]
  unfold verifyChain ChainOk
  cases hLookup : store.eventsByLogbook.lookup logbookId with
  | none =>
      have hEmpty : ofLogbook history logbookId = [] := by simpa [hLookup] using hIds.symm
      simp [hEmpty]
  | some eventIds =>
      obtain rfl : eventIds = (ofLogbook history logbookId).map CoreEventEnvelope.eventId := by
        simpa [hLookup] using hIds
      have hVerify := h.verifyEvents_eq_ok_iff
        (fun event hMem => (mem_ofLogbook.mp hMem).1 : ∀ event ∈ ofLogbook history logbookId, _)
        none
      have hHead : store.heads.lookup logbookId =
          eventChain.tip none (ofLogbook history logbookId) := h.head logbookId
      dsimp only
      cases hResult : store.verifyEvents
          ((ofLogbook history logbookId).map CoreEventEnvelope.eventId) none with
      | error error =>
          have hNot := (hVerify (eventChain.tip none (ofLogbook history logbookId))).not.mp
            (by simp [hResult])
          simpa using fun hValid hLinked => hNot ⟨hValid, hLinked, rfl⟩
      | ok head =>
          obtain ⟨hValid, hLinked, hTip⟩ := (hVerify head).mp hResult
          simp only [hHead, hTip, ne_eq, not_true_eq_false, if_false, true_iff]
          exact ⟨hValid, hLinked⟩

end Verification
end InMemoryLogbookEventStore
end HamLogger
