import HamLogger.Core.Crates
import HamLogger.Core.StoreInvariant

/-! Runs of the in-memory store: any sequence of local and remote appends,
each succeeding or failing, over any number of logbooks. -/
namespace HamLogger

open Transition (Run System)

namespace InMemoryLogbookEventStore

/-- A call of one of the two append operations. -/
inductive StoreCall where
  | append (event : NewLogbookEvent) (stamp : EventStamp)
  | remote (event : CoreEventEnvelope)

/-- A random identifier for a local event is one the store does not hold. -/
def StoreCall.Fresh (store : InMemoryLogbookEventStore) : StoreCall → Prop
  | .append _ stamp => store.getEvent stamp.eventId = none
  | .remote _ => True

section Runs
variable [CanonicalJson] [Sha2Crate]

def perform (store : InMemoryLogbookEventStore) :
    StoreCall → InMemoryLogbookEventStore × Except StoreError CoreEventEnvelope
  | .append event stamp => store.appendEvent event stamp
  | .remote event => store.appendVerifiedRemoteEvent event

def storeSystem : System InMemoryLogbookEventStore StoreCall where
  step store call next := call.Fresh store ∧ (store.perform call).1 = next

/-- The event a call newly stores, if any. -/
def newlyStored (store : InMemoryLogbookEventStore) (call : StoreCall) : List CoreEventEnvelope :=
  match (store.perform call).2 with
  | .ok event => if store.getEvent event.eventId = none then [event] else []
  | .error _ => []

/-- The newly stored events of a sequence of calls, in the order of the calls. -/
def recorded (store : InMemoryLogbookEventStore) : List StoreCall → List CoreEventEnvelope
  | [] => []
  | call :: rest => store.newlyStored call ++ recorded (store.perform call).1 rest

/-- A remote append is refused, finds its event stored already, or stores an
event that continues the head of its logbook. -/
theorem appendVerifiedRemoteEvent_cases (store : InMemoryLogbookEventStore)
    (event : CoreEventEnvelope) :
    (∃ error, store.appendVerifiedRemoteEvent event = (store, .error error)) ∨
    (validateSupportedRemoteEvent event = .ok () ∧ store.getEvent event.eventId = some event ∧
      store.appendVerifiedRemoteEvent event = (store, .ok event)) ∨
    (validateSupportedRemoteEvent event = .ok () ∧ store.getEvent event.eventId = none ∧
      event.previousHash = store.getHead event.logbookId ∧
      store.appendVerifiedRemoteEvent event = (store.insertEvent event, .ok event)) := by
  unfold appendVerifiedRemoteEvent getEvent getHead
  split
  · exact Or.inl ⟨_, rfl⟩
  · rename_i hValid
    split
    · rename_i existing hFound
      split_ifs with hSame
      · subst hSame
        exact Or.inr (Or.inl ⟨hValid, hFound, rfl⟩)
      · exact Or.inl ⟨_, rfl⟩
    · rename_i hNone
      dsimp only
      split_ifs with hPrevious
      · exact Or.inl ⟨_, rfl⟩
      · exact Or.inr (Or.inr ⟨hValid, hNone, not_not.mp hPrevious, rfl⟩)

/-- A valid event with a new identifier that continues its logbook is stored. -/
theorem appendVerifiedRemoteEvent_new {store : InMemoryLogbookEventStore}
    {event : CoreEventEnvelope} (hValid : validateSupportedRemoteEvent event = .ok ())
    (hNone : store.getEvent event.eventId = none)
    (hPrevious : event.previousHash = store.getHead event.logbookId) :
    store.appendVerifiedRemoteEvent event = (store.insertEvent event, .ok event) := by
  have hLookup : store.eventsById.lookup event.eventId = none := hNone
  have hHead : store.heads.lookup event.logbookId = event.previousHash := hPrevious.symm
  simp [appendVerifiedRemoteEvent, hValid, hLookup, hHead]

/-- A call with a fresh identifier stores one new event that continues its
logbook, or leaves the store as it was. -/
theorem perform_cases {store : InMemoryLogbookEventStore} {call : StoreCall}
    (hFresh : call.Fresh store) :
    (∃ event, store.perform call = (store.insertEvent event, .ok event) ∧
      event.hashIsValid = true ∧ store.getEvent event.eventId = none ∧
      event.previousHash = store.getHead event.logbookId) ∨
    ((store.perform call).1 = store ∧ store.newlyStored call = []) := by
  cases call with
  | append event stamp =>
      exact Or.inl ⟨_, rfl, CoreEventEnvelope.fromNew_hashIsValid .., hFresh, rfl⟩
  | remote event =>
      rcases store.appendVerifiedRemoteEvent_cases event with ⟨error, hError⟩ |
        ⟨_, hFound, hOk⟩ | ⟨hValid, hNone, hPrevious, hOk⟩
      · exact Or.inr ⟨by simp [perform, hError], by simp [newlyStored, perform, hError]⟩
      · exact Or.inr ⟨by simp [perform, hOk], by simp [newlyStored, perform, hOk, hFound]⟩
      · have hHash := ((validateSupportedRemoteEvent_ok_iff event).mp hValid).1
        exact Or.inl ⟨event, hOk, hHash, hNone, hPrevious⟩

/-- An event with a right hash that continues its logbook keeps every chain. -/
theorem Represents.chainOk_insert {store : InMemoryLogbookEventStore}
    {history : List CoreEventEnvelope} (h : store.Represents history) {event : CoreEventEnvelope}
    (hHash : event.hashIsValid = true)
    (hPrevious : event.previousHash = store.getHead event.logbookId)
    {logbookId : Uuid} (hChain : ChainOk (ofLogbook history logbookId)) :
    ChainOk (ofLogbook (history ++ [event]) logbookId) := by
  obtain ⟨hValid, hLinked⟩ := hChain
  by_cases hLogbook : event.logbookId = logbookId
  · have hOwn : ofLogbook [event] logbookId = [event] := by simp [ofLogbook, hLogbook]
    rw [ofLogbook_append, hOwn]
    refine ⟨?_, ?_⟩
    · intro other hMem
      rcases List.mem_append.mp hMem with hOld | hLast
      · exact hValid other hOld
      · obtain rfl := List.mem_singleton.mp hLast
        exact hHash
    · have hTip : event.previousHash = eventChain.tip none (ofLogbook history logbookId) := by
        rw [hPrevious, hLogbook, h.head]
      simp only [HashChain.Scheme.linked_append, HashChain.Scheme.linked_cons,
        eventChain_previous, HashChain.Scheme.linked_nil, and_true]
      exact ⟨hLinked, hTip⟩
  · have hOther : ofLogbook [event] logbookId = [] := by simp [ofLogbook, hLogbook]
    rw [ofLogbook_append, hOther, List.append_nil]
    exact ⟨hValid, hLinked⟩

/-- The store holds the history, and the chain of every logbook is in order. -/
structure Verified (store : InMemoryLogbookEventStore) (history : List CoreEventEnvelope) :
    Prop where
  represents : store.Represents history
  chain : ∀ logbookId, ChainOk (ofLogbook history logbookId)

theorem verified_empty : ({} : InMemoryLogbookEventStore).Verified [] where
  represents := represents_empty
  chain := fun _ => ⟨by simp, trivial⟩

/-- A consistent store whose chains verify holds a verified history. -/
theorem Consistent.verified {store : InMemoryLogbookEventStore} (h : store.Consistent)
    (hChains : ∀ logbookId, store.verifyChain logbookId = .ok ()) :
    ∃ history, store.Verified history := by
  obtain ⟨history, hRepresents⟩ := h
  refine ⟨history, hRepresents, fun logbookId => ?_⟩
  rw [← hRepresents.listEvents]
  exact (hRepresents.verifyChain_eq_ok_iff logbookId).mp (hChains logbookId)

namespace Verified
variable {store : InMemoryLogbookEventStore} {history : List CoreEventEnvelope}

/-- A new event with a right hash that continues its logbook keeps all chains. -/
theorem insertEvent (h : store.Verified history) {event : CoreEventEnvelope}
    (hHash : event.hashIsValid = true) (hNew : store.getEvent event.eventId = none)
    (hPrevious : event.previousHash = store.getHead event.logbookId) :
    (store.insertEvent event).Verified (history ++ [event]) :=
  ⟨h.represents.insertEvent hNew,
    fun logbookId => h.represents.chainOk_insert hHash hPrevious (h.chain logbookId)⟩

theorem verifyChain (h : store.Verified history) (logbookId : Uuid) :
    store.verifyChain logbookId = .ok () := by
  rw [h.represents.verifyChain_eq_ok_iff, h.represents.listEvents]
  exact h.chain logbookId

/-- One call extends the history by the event it newly stores. -/
theorem perform (h : store.Verified history) {call : StoreCall} (hFresh : call.Fresh store) :
    (store.perform call).1.Verified (history ++ store.newlyStored call) := by
  rcases perform_cases hFresh with ⟨event, hCall, hHash, hNew, hPrevious⟩ | ⟨hSame, hNothing⟩
  · have hStored : store.newlyStored call = [event] := by simp [newlyStored, hCall, hNew]
    rw [hStored, hCall]
    exact h.insertEvent hHash hNew hPrevious
  · rw [hSame, hNothing, List.append_nil]
    exact h

end Verified

/-- A store read back from a file with the same logbooks as a verified history
answers as the store that holds the history. -/
theorem verified_of_ofLogbook_eq {memory : InMemoryLogbookEventStore}
    {history written : List CoreEventEnvelope} (h : memory.Verified history)
    (hSame : ∀ logbookId, ofLogbook written logbookId = ofLogbook history logbookId) :
    (written.foldl insertEvent {}).Verified written := by
  have hDistinct : DistinctIds written :=
    ((perm_of_ofLogbook_eq hSame).map CoreEventEnvelope.eventId).nodup_iff.mpr
      h.represents.distinct
  refine ⟨?_, fun logbookId => by rw [hSame]; exact h.chain logbookId⟩
  clear hSame
  induction written using List.reverseRecOn with
  | nil => exact represents_empty
  | append_singleton written event ih =>
      have hPrior := ih (List.Nodup.sublist (by simp) hDistinct)
      rw [List.foldl_append]
      refine hPrior.insertEvent ?_
      rw [hPrior.getEvent_eq_none_iff]
      exact fun _ hMem => hDistinct.ne_last hMem

theorem recorded_append (store : InMemoryLogbookEventStore) (first second : List StoreCall) :
    store.recorded (first ++ second) = store.recorded first ++
      (first.foldl (fun store call => (store.perform call).1) store).recorded second := by
  induction first generalizing store with
  | nil => rfl
  | cons call rest ih => simp [recorded, ih]

/-- A run is determined by its calls. -/
theorem run_eq_foldl {store later : InMemoryLogbookEventStore} {calls : List StoreCall}
    (run : Run storeSystem store calls later) :
    later = calls.foldl (fun store call => (store.perform call).1) store := by
  induction run with
  | nil => rfl
  | snoc prior last ih =>
      rw [List.foldl_append, ← ih]
      exact last.2.symm

/-- A run extends the history by the events its calls newly store. -/
theorem Verified.run {store later : InMemoryLogbookEventStore}
    {history : List CoreEventEnvelope} {calls : List StoreCall} (h : store.Verified history)
    (run : Run storeSystem store calls later) :
    later.Verified (history ++ store.recorded calls) := by
  induction run with
  | nil => simpa [recorded] using h
  | @snoc middle _ labels call prior last ih =>
      obtain ⟨hFresh, rfl⟩ := last
      rw [recorded_append, ← run_eq_foldl prior, ← List.append_assoc]
      simpa [recorded] using ih.perform hFresh

/-- Whatever the calls, a store that starts empty keeps every chain verified
and append-only, and a call that fails or repeats an event changes nothing. -/
theorem run_from_empty {calls : List StoreCall} {store : InMemoryLogbookEventStore}
    (run : Run storeSystem {} calls store) :
    (∀ logbookId, store.verifyChain logbookId = .ok ()) ∧
    (∀ logbookId, DistinctIds (store.listEvents logbookId) ∧
      store.listEvents logbookId = ofLogbook (recorded {} calls) logbookId) ∧
    (∀ logbookId, store.getHead logbookId =
      (store.listEvents logbookId).getLast?.map CoreEventEnvelope.eventHash) ∧
    (∀ more later, Run storeSystem store more later →
      ∀ logbookId, store.listEvents logbookId <+: later.listEvents logbookId) ∧
    (∀ call, ((∃ error, (store.perform call).2 = .error error) ∨
        (∃ event, call = .remote event ∧ store.getEvent event.eventId = some event)) →
      (store.perform call).1 = store) := by
  have hVerified : store.Verified (recorded {} calls) := by
    simpa using verified_empty.run run
  refine ⟨hVerified.verifyChain, ?_, ?_, ?_, ?_⟩
  · intro logbookId
    rw [hVerified.represents.listEvents]
    exact ⟨hVerified.represents.distinct.ofLogbook logbookId, rfl⟩
  · intro logbookId
    rw [hVerified.represents.getHead, HashChain.Scheme.tip_none]
    rfl
  · intro more later hMore logbookId
    have hLater := hVerified.run hMore
    rw [hVerified.represents.listEvents, hLater.represents.listEvents, ofLogbook_append]
    exact List.prefix_append _ _
  · rintro (event' | event) h
    · rcases h with ⟨error, hError⟩ | ⟨event, hCall, _⟩
      · cases hError
      · cases hCall
    · rcases store.appendVerifiedRemoteEvent_cases event with ⟨error, hError⟩ |
        ⟨_, _, hOk⟩ | ⟨_, hNone, _, hOk⟩
      · exact congrArg Prod.fst hError
      · exact congrArg Prod.fst hOk
      · rcases h with ⟨error, hError⟩ | ⟨stored, hCall, hFound⟩
        · rw [perform, hOk] at hError
          cases hError
        · cases hCall
          rw [hNone] at hFound
          cases hFound

end Runs

open scoped Crates in
/-- A local contact, and one of another logbook received from a peer. -/
theorem run_from_empty_contacts :
    let event := Crates.sampleEvent .qsoCreated 1 (some 2) (.object [])
    let own := CoreEventEnvelope.fromNew event none (Crates.sampleStamp 3)
    let received := CoreEventEnvelope.fromNew
      (Crates.sampleEvent .qsoCreated 5 (some 6) (.object [])) none (Crates.sampleStamp 4)
    let calls := [StoreCall.append event (Crates.sampleStamp 3), .remote received]
    let store := (({} : InMemoryLogbookEventStore).insertEvent own).insertEvent received
    Run storeSystem {} calls store ∧ store.verifyChain 1 = .ok () ∧ store.verifyChain 5 = .ok () ∧
      store.listEvents 5 = ofLogbook (recorded {} calls) 5 := by
  intro event own received calls store
  have hValid : validateSupportedRemoteEvent received = .ok () :=
    (validateSupportedRemoteEvent_fromNew ..).mpr ⟨rfl, rfl⟩
  have hAppend : storeSystem.step {} (.append event (Crates.sampleStamp 3))
      (({} : InMemoryLogbookEventStore).insertEvent own) := ⟨rfl, rfl⟩
  have hCall : (({} : InMemoryLogbookEventStore).insertEvent own).appendVerifiedRemoteEvent
      received = (store, .ok received) := appendVerifiedRemoteEvent_new hValid rfl rfl
  have hRemote : storeSystem.step (({} : InMemoryLogbookEventStore).insertEvent own)
      (.remote received) store := by
    refine ⟨trivial, ?_⟩
    rw [perform, hCall]
  have hRun : Run storeSystem {} calls store := (Run.single hAppend).trans (Run.single hRemote)
  obtain ⟨hChains, hLists, _⟩ := run_from_empty hRun
  exact ⟨hRun, hChains 1, hChains 5, (hLists 5).2⟩

end InMemoryLogbookEventStore
end HamLogger
