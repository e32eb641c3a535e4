import HamLogger.Core.EventLines

/-! Concurrent calls on one file-backed store. The lock covers the memory
step of a call only, so other calls can run between the check of a remote
event, its memory step, and the write of its line. -/
namespace HamLogger

open Transition (Run System)
open InMemoryLogbookEventStore

/-- The store, the remote events between their check and their memory step,
and the stored events whose line is still to be written. -/
structure JsonlState where
  store : JsonlLogbookEventStore := {}
  checked : List CoreEventEnvelope := []
  pending : List CoreEventEnvelope := []

inductive JsonlAction where
  | append (event : NewLogbookEvent) (stamp : EventStamp)
  | check (event : CoreEventEnvelope)
  | remote (position : Nat)
  | persist (position : Nat)

section System
variable [CanonicalJson] [Sha2Crate] [EventJson]

/-- One step of one call. A call that fails in memory ends there, and so does
a remote call whose event is already stored when it is checked. -/
inductive JsonlStep : JsonlState → JsonlAction → JsonlState → Prop where
  | append (state : JsonlState) (event : NewLogbookEvent) (stamp : EventStamp)
      (hFresh : state.store.memory.getEvent stamp.eventId = none)
      (memory : InMemoryLogbookEventStore) (official : CoreEventEnvelope)
      (hCall : state.store.memory.appendEvent event stamp = (memory, .ok official)) :
      JsonlStep state (.append event stamp)
        { state with store := { state.store with memory := memory }
                     pending := state.pending ++ [official] }
  | checkStored (state : JsonlState) (event : CoreEventEnvelope)
      (hStored : state.store.memory.getEvent event.eventId = some event) :
      JsonlStep state (.check event) state
  | check (state : JsonlState) (event : CoreEventEnvelope)
      (hOther : state.store.memory.getEvent event.eventId ≠ some event) :
      JsonlStep state (.check event) { state with checked := state.checked ++ [event] }
  | remote (state : JsonlState) (position : Nat) (event : CoreEventEnvelope)
      (hChecked : state.checked[position]? = some event)
      (memory : InMemoryLogbookEventStore) (official : CoreEventEnvelope)
      (hCall : state.store.memory.appendVerifiedRemoteEvent event = (memory, .ok official)) :
      JsonlStep state (.remote position)
        { store := { state.store with memory := memory }
          checked := state.checked.eraseIdx position
          pending := state.pending ++ [official] }
  | remoteFails (state : JsonlState) (position : Nat) (event : CoreEventEnvelope)
      (hChecked : state.checked[position]? = some event)
      (memory : InMemoryLogbookEventStore) (error : StoreError)
      (hCall : state.store.memory.appendVerifiedRemoteEvent event = (memory, .error error)) :
      JsonlStep state (.remote position)
        { state with store := { state.store with memory := memory }
                     checked := state.checked.eraseIdx position }
  | persist (state : JsonlState) (position : Nat) (event : CoreEventEnvelope)
      (hPending : state.pending[position]? = some event) :
      JsonlStep state (.persist position)
        { state with
          store := { state.store with
            file := (persistEvent state.store.file event .completes).1 }
          pending := state.pending.eraseIdx position }

def jsonlSystem : System JsonlState JsonlAction where
  step := JsonlStep

/-- The steps after which file and memory still agree: a remote event is not
stored by another call after its check, the lines of one logbook are written
in the order of their memory steps, and a written line reads back. -/
def KeepsOrder (state : JsonlState) : JsonlAction → Prop
  | .append .. => True
  | .check _ => True
  | .remote position => ∀ event, state.checked[position]? = some event →
      state.store.memory.getEvent event.eventId ≠ some event
  | .persist position => ∀ event, state.pending[position]? = some event →
      ReadsBack event ∧
        ∀ earlier ∈ state.pending.take position, earlier.logbookId ≠ event.logbookId

/-- A store as it is after opening: no call is running, and the memory is what
the lines of the file hold, with distinct identifiers and verified chains. -/
structure JsonlState.Opened (state : JsonlState) : Prop where
  idle : state.checked = [] ∧ state.pending = []
  file : ∃ events, FileReads state.store.file events ∧
    state.store.memory = events.foldl insertEvent {} ∧ state.store.memory.Verified events

/-- The lines in the file and the pending events are, logbook by logbook, the
history of the memory. -/
structure JsonlState.Synced (state : JsonlState) (history written : List CoreEventEnvelope) :
    Prop where
  memory : state.store.memory.Verified history
  file : FileReads state.store.file written
  split : ∀ logbookId, ofLogbook (written ++ state.pending) logbookId =
    ofLogbook history logbookId

theorem JsonlState.Opened.synced {state : JsonlState} (h : state.Opened) :
    ∃ history written, state.Synced history written := by
  obtain ⟨events, hFile, _, hVerified⟩ := h.file
  refine ⟨events, events, hVerified, hFile, fun logbookId => ?_⟩
  rw [h.idle.2, List.append_nil]

/-- Storing a new event in memory makes it the last pending one. -/
theorem JsonlState.Synced.store {state : JsonlState} {history written : List CoreEventEnvelope}
    (h : state.Synced history written) {event : CoreEventEnvelope}
    (hHash : event.hashIsValid = true)
    (hNew : state.store.memory.getEvent event.eventId = none)
    (hPrevious : event.previousHash = state.store.memory.getHead event.logbookId)
    (checked : List CoreEventEnvelope) :
    JsonlState.Synced
      { store := { state.store with memory := state.store.memory.insertEvent event }
        checked := checked
        pending := state.pending ++ [event] } (history ++ [event]) written where
  memory := h.memory.insertEvent hHash hNew hPrevious
  file := h.file
  split logbookId := by
    rw [← List.append_assoc, ofLogbook_append, ofLogbook_append history, h.split]

/-- One step that keeps the order keeps file, pending events and memory in
agreement. -/
theorem JsonlStep.synced {state next : JsonlState} {action : JsonlAction}
    {history written : List CoreEventEnvelope} (h : state.Synced history written)
    (hOrder : KeepsOrder state action) (step : JsonlStep state action next) :
    ∃ history' written', next.Synced history' written' := by
  cases step with
  | append event stamp hFresh memory official hCall =>
      obtain ⟨rfl, hOfficial⟩ := Prod.mk.inj hCall
      obtain rfl := Except.ok.inj hOfficial
      have hHash := CoreEventEnvelope.fromNew_hashIsValid event
        (state.store.memory.heads.lookup event.logbookId) stamp
      exact ⟨_, written, h.store hHash hFresh rfl state.checked⟩
  | checkStored event hStored => exact ⟨history, written, h⟩
  | check event hOther => exact ⟨history, written, h.memory, h.file, h.split⟩
  | remote position event hChecked memory official hCall =>
      rcases state.store.memory.appendVerifiedRemoteEvent_cases event with ⟨error, hError⟩ |
        ⟨_, hStored, _⟩ | ⟨hValid, hNew, hPrevious, hOk⟩
      · rw [hError] at hCall
        cases hCall
      · exact absurd hStored (hOrder event hChecked)
      · rw [hOk] at hCall
        obtain ⟨rfl, hOfficial⟩ := Prod.mk.inj hCall
        obtain rfl := Except.ok.inj hOfficial
        have hHash := ((validateSupportedRemoteEvent_ok_iff event).mp hValid).1
        exact ⟨_, written, h.store hHash hNew hPrevious _⟩
  | remoteFails position event hChecked memory error hCall =>
      rcases state.store.memory.appendVerifiedRemoteEvent_cases event with ⟨other, hError⟩ |
        ⟨_, _, hOk⟩ | ⟨_, _, _, hOk⟩
      · rw [hError] at hCall
        obtain ⟨rfl, _⟩ := Prod.mk.inj hCall
        exact ⟨history, written, h.memory, h.file, h.split⟩
      · rw [hOk] at hCall
        cases hCall
      · rw [hOk] at hCall
        cases hCall
  | persist position event hPending =>
      obtain ⟨hReads, hFirst⟩ := hOrder event hPending
      refine ⟨history, written ++ [event], h.memory, h.file.persist hReads, fun logbookId => ?_⟩
      rw [← h.split]
      exact ofLogbook_move hPending hFirst logbookId

/-- Whenever no call is left running after a run whose steps all keep the
order, the file opens to what is in memory, with all chains verified. -/
theorem reopens_to_memory {start finish : JsonlState} {actions : List JsonlAction}
    (hOpened : start.Opened) (run : Run (jsonlSystem.restrict KeepsOrder) start actions finish)
    (hDone : finish.checked = [] ∧ finish.pending = []) :
    ∃ reopened, loadInnerFromDisk finish.store.file = .ok reopened ∧
      (∀ eventId, reopened.getEvent eventId = finish.store.memory.getEvent eventId) ∧
      ∀ logbookId,
        reopened.listEvents logbookId = finish.store.memory.listEvents logbookId ∧
        DistinctIds (reopened.listEvents logbookId) ∧
        reopened.getHead logbookId = finish.store.memory.getHead logbookId ∧
        reopened.verifyChain logbookId = .ok () := by
  obtain ⟨history, written, hSynced⟩ : ∃ history written, finish.Synced history written := by
    refine run.invariant (P := fun state => ∃ history written, state.Synced history written)
      ?_ hOpened.synced
    rintro state action next ⟨history, written, hSynced⟩ ⟨hOrder, step⟩
    exact JsonlStep.synced hSynced hOrder step
  have hSame : ∀ logbookId, ofLogbook written logbookId = ofLogbook history logbookId := by
    intro logbookId
    rw [← hSynced.split, hDone.2, List.append_nil]
  have hReopened := verified_of_ofLogbook_eq hSynced.memory hSame
  have hList : ∀ logbookId, (written.foldl insertEvent {}).listEvents logbookId =
      finish.store.memory.listEvents logbookId := by
    intro logbookId
    rw [hReopened.represents.listEvents, hSynced.memory.represents.listEvents, hSame]
  refine ⟨written.foldl insertEvent {}, hSynced.file.load, ?_,
    fun logbookId => ⟨hList _, ?_, ?_, ?_⟩⟩
  · intro eventId
    apply Option.ext
    intro event
    have hMem : event ∈ written ↔ event ∈ history := (perm_of_ofLogbook_eq hSame).mem_iff
    rw [hReopened.represents.event, hSynced.memory.represents.event, hMem]
  · rw [hReopened.represents.listEvents]
    exact hReopened.represents.distinct.ofLogbook logbookId
  · rw [hReopened.represents.getHead, hSynced.memory.represents.getHead, hList]
  · exact hReopened.verifyChain logbookId

end System

open scoped Crates in
/-- One local append, written before the store is closed. -/
theorem reopens_to_memory_contact :
    let contact := CoreEventEnvelope.fromNew
      (Crates.sampleEvent .qsoCreated 1 (some 2) (.object [])) none (Crates.sampleStamp 3)
    let _ := Crates.eventJson [contact]
    let memory := ({} : InMemoryLogbookEventStore).insertEvent contact
    ∃ finish : JsonlState, finish.store.memory = memory ∧
      ∃ reopened, loadInnerFromDisk finish.store.file = .ok reopened ∧
        reopened.listEvents 1 = memory.listEvents 1 := by
  intro contact _ memory
  have hReads : ReadsBack contact := by
    refine Crates.readsBack_of_known (by simp) ?_
    intro other hOther _
    simpa using hOther
  have hOpened : ({ store := {} } : JsonlState).Opened :=
    ⟨⟨rfl, rfl⟩, [], fileReads_none, rfl, verified_empty⟩
  let event := Crates.sampleEvent .qsoCreated 1 (some 2) (.object [])
  let stored : JsonlState := { store := { memory := memory }, pending := [contact] }
  let finish : JsonlState :=
    { store := { file := (persistEvent none contact .completes).1, memory := memory } }
  have hAppend : (jsonlSystem.restrict KeepsOrder).step { store := {} }
      (.append event (Crates.sampleStamp 3)) stored :=
    ⟨trivial, JsonlStep.append _ event (Crates.sampleStamp 3) rfl memory contact rfl⟩
  have hPersist : (jsonlSystem.restrict KeepsOrder).step stored (.persist 0) finish := by
    refine ⟨?_, JsonlStep.persist stored 0 contact rfl⟩
    intro other hOther
    obtain rfl : contact = other := Option.some.inj hOther
    exact ⟨hReads, by simp⟩
  obtain ⟨reopened, hLoad, _, hLogbooks⟩ :=
    reopens_to_memory hOpened ((Run.single hAppend).trans (Run.single hPersist)) ⟨rfl, rfl⟩
  exact ⟨finish, rfl, reopened, hLoad, (hLogbooks 1).1⟩

open scoped Crates in
/-- Two appends to one logbook whose lines are written in the other order: the
store reopens with the events swapped, and their chain does not verify. -/
theorem swapped_lines_reopen_broken :
    let first := CoreEventEnvelope.fromNew
      (Crates.sampleEvent .qsoCreated 1 (some 2) (.object [])) none (Crates.sampleStamp 3)
    let second := CoreEventEnvelope.fromNew
      (Crates.sampleEvent .qsoCreated 1 (some 2) (.object [])) (some first.eventHash)
      (Crates.sampleStamp 4)
    let _ := Crates.eventJson [first, second]
    ({ store := {} } : JsonlState).Opened ∧ first ≠ second ∧
      ∃ actions finish reopened, Run jsonlSystem { store := {} } actions finish ∧
        finish.checked = [] ∧ finish.pending = [] ∧
        loadInnerFromDisk finish.store.file = .ok reopened ∧
        finish.store.memory.listEvents 1 = [first, second] ∧
        reopened.listEvents 1 = [second, first] ∧ reopened.verifyChain 1 ≠ .ok () := by
  intro first second _
  have hTexts : Crates.writeEvent first ≠ Crates.writeEvent second := by
    intro hSame
    have hLength : (Crates.writeUuid first.eventId).length =
        (Crates.writeUuid second.eventId).length := by
      show (Crates.writeUuid 3).length = (Crates.writeUuid 4).length
      decide
    have hIds := Crates.writeUuid_eq_of_writeEvent_eq hLength hSame
    have hDiffer : Crates.writeUuid 3 ≠ Crates.writeUuid 4 := by decide
    exact hDiffer hIds
  obtain ⟨hFirst, hSecond⟩ := Crates.readsBack_of_pair hTexts
  have hOpened : ({ store := {} } : JsonlState).Opened :=
    ⟨⟨rfl, rfl⟩, [], fileReads_none, rfl, verified_empty⟩
  let event := Crates.sampleEvent .qsoCreated 1 (some 2) (.object [])
  let one := ({} : InMemoryLogbookEventStore).insertEvent first
  let both := one.insertEvent second
  have hOne : one.Represents [first] := represents_empty.insertEvent rfl
  have hBoth : both.Represents [first, second] := hOne.insertEvent rfl
  have hLast : (({} : InMemoryLogbookEventStore).insertEvent second).Represents [second] :=
    represents_empty.insertEvent rfl
  have hSwapped : ([second, first].foldl insertEvent {}).Represents [second, first] :=
    hLast.insertEvent rfl
  let late := (persistEvent none second .completes).1
  have hFile : FileReads (persistEvent late first .completes).1 [second, first] :=
    (fileReads_none.persist hSecond).persist hFirst
  have hOwn : ofLogbook [first, second] 1 = [first, second] := rfl
  have hOwnSwapped : ofLogbook [second, first] 1 = [second, first] := rfl
  let stored : JsonlState := { store := { memory := one }, pending := [first] }
  let waiting : JsonlState := { store := { memory := both }, pending := [first, second] }
  let half : JsonlState := { store := { file := late, memory := both }, pending := [first] }
  let finish : JsonlState :=
    { store := { file := (persistEvent late first .completes).1, memory := both } }
  have hAppendFirst : jsonlSystem.step { store := {} } (.append event (Crates.sampleStamp 3))
      stored :=
    JsonlStep.append _ event (Crates.sampleStamp 3) rfl one first rfl
  have hAppendSecond : jsonlSystem.step stored (.append event (Crates.sampleStamp 4)) waiting :=
    JsonlStep.append stored event (Crates.sampleStamp 4) rfl both second rfl
  have hPersistSecond : jsonlSystem.step waiting (.persist 1) half :=
    JsonlStep.persist waiting 1 second rfl
  have hPersistFirst : jsonlSystem.step half (.persist 0) finish :=
    JsonlStep.persist half 0 first rfl
  have hRun := (((Run.single hAppendFirst).trans (Run.single hAppendSecond)).trans
    (Run.single hPersistSecond)).trans (Run.single hPersistFirst)
  refine ⟨hOpened, fun hSame => hTexts (hSame ▸ rfl), _, finish,
    [second, first].foldl insertEvent {}, hRun, rfl, rfl, hFile.load, ?_, ?_, ?_⟩
  · rw [hBoth.listEvents, hOwn]
  · rw [hSwapped.listEvents, hOwnSwapped]
  · rw [Ne, hSwapped.verifyChain_eq_ok_iff, hSwapped.listEvents, hOwnSwapped]
    rintro ⟨_, hLinked⟩
    cases hLinked.1

end HamLogger
