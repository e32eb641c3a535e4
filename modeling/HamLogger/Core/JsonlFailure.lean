import HamLogger.Core.EventLines

/-! Calls on the file-backed store whose write fails. The memory has already
changed by then and is not changed back. -/
namespace HamLogger

open Transition (Run System)
open InMemoryLogbookEventStore

namespace JsonlLogbookEventStore

section Failure
variable [EventJson]

/-- A call that gets as far as writing has stored its event in memory. -/
theorem persistOutcome_memory (store : JsonlLogbookEventStore) (disk : WriteOutcome)
    (appended : InMemoryLogbookEventStore × Except StoreError CoreEventEnvelope) :
    (store.persistOutcome disk appended).1.memory = appended.1 := by
  obtain ⟨memory, outcome⟩ := appended
  cases outcome with
  | error error => rfl
  | ok event => cases disk <;> rfl

variable [CanonicalJson] [Sha2Crate]

def perform (store : JsonlLogbookEventStore) (disk : WriteOutcome) :
    StoreCall → JsonlLogbookEventStore × Except StoreError CoreEventEnvelope
  | .append event stamp => store.appendEvent event stamp disk
  | .remote event => store.appendVerifiedRemoteEvent event disk

/-- The event whose line the call goes on to write, if it gets that far. -/
def writtenEvent (store : JsonlLogbookEventStore) : StoreCall → Option CoreEventEnvelope
  | .append event stamp => (store.memory.appendEvent event stamp).2.toOption
  | .remote event =>
      if store.memory.getEvent event.eventId = some event then none
      else (store.memory.appendVerifiedRemoteEvent event).2.toOption

/-- Appends that succeed, one after the other. -/
def appendSystem : System JsonlLogbookEventStore StoreCall where
  step store call next := call.Fresh store.memory ∧
    ∃ event, store.perform .completes call = (next, .ok event)

/-- A failed call has left no trace: it reports an error, the store answers
as before, and the file still opens after any further appends. -/
structure FailureIsolated (before after : JsonlLogbookEventStore)
    (outcome : Except StoreError CoreEventEnvelope) : Prop where
  failed : ∃ error, outcome = .error error
  events : ∀ eventId, after.memory.getEvent eventId = before.memory.getEvent eventId
  heads : ∀ logbookId, after.memory.getHead logbookId = before.memory.getHead logbookId
  lists : ∀ logbookId, after.memory.listEvents logbookId = before.memory.listEvents logbookId
  reopens : ∀ calls later, Run appendSystem after calls later →
    ∃ reopened, loadInnerFromDisk later.file = .ok reopened ∧
      ∀ logbookId, reopened.verifyChain logbookId = .ok ()

/-- Whatever becomes of the write, the event is in memory afterwards, where it
was not before. -/
theorem getEvent_perform {store : JsonlLogbookEventStore} {call : StoreCall}
    {event : CoreEventEnvelope} (hFresh : call.Fresh store.memory)
    (hWrites : store.writtenEvent call = some event) (disk : WriteOutcome) :
    store.memory.getEvent event.eventId = none ∧
      (store.perform disk call).1.memory.getEvent event.eventId = some event := by
  cases call with
  | append newEvent stamp =>
      obtain rfl := Option.some.inj hWrites
      refine ⟨hFresh, ?_⟩
      rw [perform, appendEvent, persistOutcome_memory]
      exact (getEvent_insertEvent ..).trans (if_pos rfl)
  | remote remoteEvent =>
      simp only [writtenEvent] at hWrites
      split_ifs at hWrites with hStored
      rcases store.memory.appendVerifiedRemoteEvent_cases remoteEvent with ⟨error, hError⟩ |
        ⟨_, hFound, _⟩ | ⟨_, hNew, _, hOk⟩
      · rw [hError] at hWrites
        cases hWrites
      · exact absurd hFound hStored
      · rw [hOk] at hWrites
        obtain rfl := Option.some.inj hWrites
        refine ⟨hNew, ?_⟩
        rw [perform, appendVerifiedRemoteEvent, if_neg hStored, persistOutcome_memory, hOk]
        exact (getEvent_insertEvent ..).trans (if_pos rfl)

/-- A failed write is reported to the caller. -/
theorem perform_fails {store : JsonlLogbookEventStore} {call : StoreCall}
    {event : CoreEventEnvelope} (hWrites : store.writtenEvent call = some event)
    {disk : WriteOutcome} (hFails : disk.Fails event) :
    ∃ error, (store.perform disk call).2 = .error error := by
  have hPersist : ∀ memory : InMemoryLogbookEventStore, ∃ error,
      (store.persistOutcome disk (memory, .ok event)).2 = .error error := by
    intro memory
    cases disk with
    | completes => exact hFails.elim
    | openFails error => exact ⟨error, rfl⟩
    | stopsAfter count error => exact ⟨error, rfl⟩
  cases call with
  | append newEvent stamp =>
      obtain rfl := Option.some.inj hWrites
      exact hPersist _
  | remote remoteEvent =>
      simp only [writtenEvent] at hWrites
      split_ifs at hWrites with hStored
      obtain ⟨memory, hCall⟩ : ∃ memory,
          store.memory.appendVerifiedRemoteEvent remoteEvent = (memory, .ok event) := by
        cases hCall : store.memory.appendVerifiedRemoteEvent remoteEvent with
        | mk memory outcome =>
            cases outcome with
            | error error => simp [hCall, Except.toOption] at hWrites
            | ok stored =>
                obtain rfl : stored = event := by simpa [hCall, Except.toOption] using hWrites
                exact ⟨memory, rfl⟩
      rw [perform, appendVerifiedRemoteEvent, if_neg hStored, hCall]
      exact hPersist memory

/-- Whenever the write of a call fails, at whatever point, the call reports
an error and has left a trace: its event is stored in memory. -/
theorem failed_write_never_isolated (store : JsonlLogbookEventStore) (call : StoreCall)
    (disk : WriteOutcome) (event : CoreEventEnvelope) (hFresh : call.Fresh store.memory)
    (hWrites : store.writtenEvent call = some event) (hFails : disk.Fails event) :
    (∃ error, (store.perform disk call).2 = .error error) ∧
      ¬FailureIsolated store (store.perform disk call).1 (store.perform disk call).2 := by
  refine ⟨perform_fails hWrites hFails, fun hIsolated => ?_⟩
  obtain ⟨hBefore, hAfter⟩ := getEvent_perform hFresh hWrites disk
  have hSame := hIsolated.events event.eventId
  rw [hBefore, hAfter] at hSame
  cases hSame

end Failure

open scoped Crates in
theorem failed_write_never_isolated_open :
    let _ := Crates.eventJson []
    let call := StoreCall.append (Crates.sampleEvent .qsoCreated 1 (some 2) (.object []))
      (Crates.sampleStamp 3)
    let disk := WriteOutcome.openFails (.io "Permission denied (os error 13)")
    let result := ({} : JsonlLogbookEventStore).perform disk call
    (∃ error, result.2 = .error error) ∧ ¬FailureIsolated {} result.1 result.2 := by
  intro _ call disk result
  obtain ⟨event, hWrites⟩ : ∃ event, ({} : JsonlLogbookEventStore).writtenEvent call = some event :=
    ⟨_, rfl⟩
  exact failed_write_never_isolated {} call disk event rfl hWrites trivial

open scoped Crates in
/-- The file cannot be opened for one append and can for the next. The first
call fails, yet its event is stored and the second one is chained to it, so
the file reopens to a chain that does not verify. -/
theorem failed_open_keeps_event :
    let event := Crates.sampleEvent .qsoCreated 1 (some 2) (.object [])
    let lost := CoreEventEnvelope.fromNew event none (Crates.sampleStamp 3)
    let written := CoreEventEnvelope.fromNew event (some lost.eventHash) (Crates.sampleStamp 4)
    let _ := Crates.eventJson [written]
    let error := StoreError.io "Permission denied (os error 13)"
    let failed := ({} : JsonlLogbookEventStore).appendEvent event (Crates.sampleStamp 3)
      (.openFails error)
    let next := failed.1.appendEvent event (Crates.sampleStamp 4) .completes
    failed.2 = .error error ∧ failed.1.memory.getEvent 3 = some lost ∧
      ({} : JsonlLogbookEventStore).memory.getEvent 3 = none ∧ next.2 = .ok written ∧
      ∃ reopened, loadInnerFromDisk next.1.file = .ok reopened ∧
        reopened.verifyChain 1 ≠ .ok () := by
  intro event lost written _ error failed next
  have hReads : ReadsBack written := by
    refine Crates.readsBack_of_known (by simp) fun other hOther _ => ?_
    simpa using hOther
  have hFile : FileReads (persistEvent none written .completes).1 [written] :=
    fileReads_none.persist hReads
  have hReopened : (({} : InMemoryLogbookEventStore).insertEvent written).Represents [written] :=
    represents_empty.insertEvent rfl
  have hOwn : ofLogbook [written] 1 = [written] := rfl
  refine ⟨rfl, ?_, rfl, rfl, ({} : InMemoryLogbookEventStore).insertEvent written, hFile.load, ?_⟩
  · exact (getEvent_insertEvent ..).trans (if_pos rfl)
  · rw [Ne, hReopened.verifyChain_eq_ok_iff, hReopened.listEvents, hOwn]
    rintro ⟨_, hLinked⟩
    cases hLinked.1

end JsonlLogbookEventStore
end HamLogger
