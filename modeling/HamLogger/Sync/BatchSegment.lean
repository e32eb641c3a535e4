import HamLogger.Library.ChainSegment
import HamLogger.Sync.PushOutcome
import HamLogger.Sync.QueueDraining

/-! When the events of a batch are a segment of the local chain. A batch follows
the sequences of the queue and a receiver follows the hashes of the chain, so a
push takes the whole batch exactly when the two orders agree and no local event
between two events of the batch is left out. -/
namespace HamLogger

open JsonOfflineMutationQueue
open Segment (Gapless)

/-- The mutations record local events in the order of the chain, each event once. -/
def RecordedInOrder (chain : List CoreEventEnvelope) (mutations : List OfflineMutationEnvelope) :
    Prop :=
  (mutations.map OfflineMutationEnvelope.localEventHash).Sublist
    (chain.map fun event => some event.eventHash)

/-- The event is recorded by one of the mutations. -/
def RecordedBy (mutations : List OfflineMutationEnvelope) (event : CoreEventEnvelope) : Prop :=
  ∃ mutation ∈ mutations, mutation.localEventHash = some event.eventHash

/-- Every local event between two recorded ones is recorded too. -/
def NoneLeftOut (chain : List CoreEventEnvelope) (mutations : List OfflineMutationEnvelope) :
    Prop :=
  ∀ first middle last, [first, middle, last].Sublist chain → RecordedBy mutations first →
    RecordedBy mutations last → RecordedBy mutations middle

section Segments
variable {chain events : List CoreEventEnvelope} {mutations : List OfflineMutationEnvelope}

theorem map_eventHash_of_recorded (h : List.Forall₂ (fun mutation event =>
      event ∈ chain ∧ mutation.localEventHash = some event.eventHash) mutations events) :
    mutations.map OfflineMutationEnvelope.localEventHash =
      events.map fun event => some event.eventHash := by
  induction h with
  | nil => rfl
  | cons hHead _ ih => rw [List.map_cons, List.map_cons, hHead.2, ih]

theorem mem_of_recorded (h : List.Forall₂ (fun mutation event =>
      event ∈ chain ∧ mutation.localEventHash = some event.eventHash) mutations events) :
    ∀ event ∈ events, event ∈ chain := by
  induction h with
  | nil => simp
  | cons hHead _ ih => exact List.forall_mem_cons.mpr ⟨hHead.1, ih⟩

variable (hHashes : eventChain.CollisionFree (· ∈ chain))
include hHashes

/-- Local events are told apart by their hashes. -/
theorem eq_of_map_eventHash {others : List CoreEventEnvelope}
    (hEvents : ∀ event ∈ events, event ∈ chain) (hOthers : ∀ event ∈ others, event ∈ chain)
    (hSame : events.map (fun event => some event.eventHash) =
      others.map fun event => some event.eventHash) : events = others := by
  induction events generalizing others with
  | nil => exact (List.map_eq_nil_iff.mp hSame.symm).symm
  | cons event rest ih =>
      cases others with
      | nil => cases hSame
      | cons other more =>
          obtain ⟨hEvent, hRest⟩ := List.forall_mem_cons.mp hEvents
          obtain ⟨hOther, hMore⟩ := List.forall_mem_cons.mp hOthers
          obtain ⟨hHash, hTail⟩ := List.cons.inj hSame
          rw [hHashes event other hEvent hOther (Option.some.inj hHash), ih hRest hMore hTail]

theorem recordedBy_iff (h : List.Forall₂ (fun mutation event =>
      event ∈ chain ∧ mutation.localEventHash = some event.eventHash) mutations events)
    {event : CoreEventEnvelope} (hEvent : event ∈ chain) :
    RecordedBy mutations event ↔ event ∈ events := by
  have hSame : RecordedBy mutations event ↔ some event.eventHash ∈
      mutations.map OfflineMutationEnvelope.localEventHash := by
    simp [RecordedBy]
  rw [hSame, map_eventHash_of_recorded h, List.mem_map]
  constructor
  · rintro ⟨other, hOther, hHash⟩
    rwa [← hHashes other event (mem_of_recorded h other hOther) hEvent (Option.some.inj hHash)]
  · intro hMem
    exact ⟨event, hMem, rfl⟩

theorem recordedInOrder_iff (h : List.Forall₂ (fun mutation event =>
      event ∈ chain ∧ mutation.localEventHash = some event.eventHash) mutations events) :
    RecordedInOrder chain mutations ↔ events.Sublist chain := by
  rw [RecordedInOrder, map_eventHash_of_recorded h, List.sublist_map_iff]
  constructor
  · rintro ⟨part, hPart, hSame⟩
    rwa [eq_of_map_eventHash hHashes (mem_of_recorded h) (fun event hMem => hPart.mem hMem) hSame]
  · intro hPart
    exact ⟨events, hPart, rfl⟩

/-- The loop finds the event that a mutation records. -/
theorem batchLoop_recorded {event : CoreEventEnvelope} {mutation : OfflineMutationEnvelope}
    (hMem : event ∈ chain) (hRecorded : mutation.localEventHash = some event.eventHash)
    {logbookId : Uuid} {rest : List OfflineMutationEnvelope} :
    batchLoop chain logbookId (mutation :: rest) =
      { batchLoop chain logbookId rest with
        operationIds := mutation.operationId :: (batchLoop chain logbookId rest).operationIds
        events := event :: (batchLoop chain logbookId rest).events } := by
  have hFound : (chain.reverse.find? fun other => other.eventHash = event.eventHash) =
      some event := by
    cases hFind : chain.reverse.find? fun other => other.eventHash = event.eventHash with
    | none =>
        have hNone := List.find?_eq_none.mp hFind event (List.mem_reverse.mpr hMem)
        simp at hNone
    | some other =>
        have hHash : other.eventHash = event.eventHash := by simpa using List.find?_some hFind
        have hOther := List.mem_reverse.mp (List.mem_of_find?_eq_some hFind)
        rw [hHashes other event hOther hMem hHash]
  rw [batchLoop, hRecorded, Option.bind_some, hFound]

/-- The recorded events are a segment exactly when their order is that of the
chain and none between them is left out. -/
theorem isInfix_recorded_iff (hNodup : chain.Nodup)
    (h : List.Forall₂ (fun mutation event =>
      event ∈ chain ∧ mutation.localEventHash = some event.eventHash) mutations events) :
    events <:+: chain ↔ RecordedInOrder chain mutations ∧ NoneLeftOut chain mutations := by
  rw [Segment.isInfix_iff hNodup, recordedInOrder_iff hHashes h]
  refine and_congr_right fun _ => ?_
  unfold Gapless NoneLeftOut
  refine forall_congr' fun first => forall_congr' fun middle => forall_congr' fun last =>
    forall_congr' fun hBetween => ?_
  rw [recordedBy_iff hHashes h (hBetween.mem (by simp)),
    recordedBy_iff hHashes h (hBetween.mem (by simp)),
    recordedBy_iff hHashes h (hBetween.mem (by simp))]

end Segments

section Loop

theorem getHead_stored (store : InMemoryLogbookEventStore) (event : CoreEventEnvelope) :
    (store.insertEvent event).getHead event.logbookId = some event.eventHash := by
  rw [InMemoryLogbookEventStore.getHead_insertEvent, if_pos rfl]

variable [CanonicalJson] [Sha2Crate]

/-- An event that is newly stored goes on from the head. -/
theorem previousHash_of_newlyStored {store : InMemoryLogbookEventStore} {event : CoreEventEnvelope}
    (h : store.newlyStored (.remote event) = [event]) :
    event.previousHash = store.getHead event.logbookId := by
  rcases store.appendVerifiedRemoteEvent_cases event with ⟨error, hError⟩ |
    ⟨_, hFound, hOk⟩ | ⟨_, _, hPrevious, _⟩
  · simp [InMemoryLogbookEventStore.newlyStored, InMemoryLogbookEventStore.perform, hError] at h
  · simp [InMemoryLogbookEventStore.newlyStored, InMemoryLogbookEventStore.perform, hOk,
      hFound] at h
  · exact hPrevious

variable [UuidCrate] [RustFmt]

theorem acceptedCount_storeLoop_le (store : InMemoryLogbookEventStore) (progress : PushProgress)
    (events : List CoreEventEnvelope) :
    (storeLoop store progress events).2.acceptedCount ≤ progress.acceptedCount + events.length := by
  induction events generalizing store progress with
  | nil => exact Nat.le_refl _
  | cons event rest ih =>
      rw [List.length_cons]
      rcases storeLoop_cases store progress event rest with ⟨error, _, hLoop⟩ |
        ⟨_, _, hLoop⟩ | ⟨_, _, hLoop⟩
      · rw [hLoop]
        exact Nat.le_add_right _ _
      · rw [hLoop]
        have hRest := ih store
          { progress with ignoredDuplicateCount := progress.ignoredDuplicateCount + 1 }
        dsimp only at hRest
        omega
      · rw [hLoop]
        have hRest := ih (store.insertEvent event)
          { progress with acceptedCount := progress.acceptedCount + 1 }
        dsimp only at hRest
        omega

/-- A push that stores every event finds them linked to its head. -/
theorem linked_of_storeLoop {store : InMemoryLogbookEventStore} {progress : PushProgress}
    {events : List CoreEventEnvelope} {logbookId : Uuid}
    (hOwn : ∀ event ∈ events, event.logbookId = logbookId)
    (h : (storeLoop store progress events).2.acceptedCount =
      progress.acceptedCount + events.length) :
    eventChain.Linked (store.getHead logbookId) events := by
  induction events generalizing store progress with
  | nil => trivial
  | cons event rest ih =>
      obtain ⟨hLogbook, hRest⟩ := List.forall_mem_cons.mp hOwn
      rw [List.length_cons] at h
      rcases storeLoop_cases store progress event rest with ⟨error, _, hLoop⟩ |
        ⟨_, _, hLoop⟩ | ⟨hOk, hStored, hLoop⟩
      · rw [hLoop] at h
        simp [PushProgress.failed] at h
      · rw [hLoop] at h
        have hLe := acceptedCount_storeLoop_le store
          { progress with ignoredDuplicateCount := progress.ignoredDuplicateCount + 1 } rest
        dsimp only at hLe
        omega
      · rw [hLoop] at h
        have hCount : (storeLoop (store.insertEvent event)
            { progress with acceptedCount := progress.acceptedCount + 1 } rest).2.acceptedCount =
              progress.acceptedCount + 1 + rest.length := by
          rw [h]
          omega
        have hLater := ih hRest hCount
        rw [← hLogbook, getHead_stored] at hLater
        rw [← hLogbook]
        exact ⟨previousHash_of_newlyStored hStored, hLater⟩

/-- Linked events that the receiver can check and does not hold are all stored. -/
theorem acceptedCount_storeLoop {store : InMemoryLogbookEventStore} {progress : PushProgress}
    {events : List CoreEventEnvelope} {logbookId : Uuid}
    (hOwn : ∀ event ∈ events, event.logbookId = logbookId)
    (hValid : ∀ event ∈ events, validateSupportedRemoteEvent event = .ok ())
    (hNew : ∀ event ∈ events, store.getEvent event.eventId = none) (hDistinct : DistinctIds events)
    (hLinked : eventChain.Linked (store.getHead logbookId) events) :
    (storeLoop store progress events).2.acceptedCount =
      progress.acceptedCount + events.length := by
  induction events generalizing store progress with
  | nil => rfl
  | cons event rest ih =>
      obtain ⟨hLogbook, hRestOwn⟩ := List.forall_mem_cons.mp hOwn
      obtain ⟨hFirstValid, hRestValid⟩ := List.forall_mem_cons.mp hValid
      obtain ⟨hFirstNew, hRestNew⟩ := List.forall_mem_cons.mp hNew
      obtain ⟨hFresh, hRestDistinct⟩ := List.nodup_cons.mp hDistinct
      obtain ⟨hPrevious, hRestLinked⟩ := hLinked
      have hHead : event.previousHash = store.getHead event.logbookId := by
        rw [hLogbook]
        exact hPrevious
      have hStored := InMemoryLogbookEventStore.appendVerifiedRemoteEvent_new hFirstValid hFirstNew
        hHead
      have hTurn : storeLoop store progress (event :: rest) = storeLoop (store.insertEvent event)
          { progress with acceptedCount := progress.acceptedCount + 1 } rest := by
        simp only [storeLoop, pushLoop, hFirstValid, hFirstNew, hStored]
      have hLaterNew : ∀ other ∈ rest,
          (store.insertEvent event).getEvent other.eventId = none := by
        intro other hOther
        have hNe : other.eventId ≠ event.eventId := fun hSame =>
          hFresh (List.mem_map.mpr ⟨other, hOther, hSame⟩)
        rw [InMemoryLogbookEventStore.getEvent_insertEvent, if_neg hNe, hRestNew other hOther]
      rw [← hLogbook] at hRestOwn ih
      rw [hTurn, ih hRestOwn hRestValid hLaterNew hRestDistinct]
      · rw [List.length_cons]
        dsimp only
        omega
      · rw [getHead_stored]
        exact hRestLinked

end Loop

section Batches
variable [UuidCrate] [RustFmt] [CanonicalJson] [Sha2Crate]

/-- A receiver that the events can go to: it lets the device push, its head is
what the first event goes on from, and it can check the events and holds none
under their identifiers. -/
structure Receives (state : InMemoryCloudState) (auth : CloudAuth) (logbookId : Uuid)
    (events : List CoreEventEnvelope) (time : DateTime) : Prop where
  authorized : ∃ session, authorizeLogbook
    (InMemoryCloudSyncServer.authorize state.auth auth time) logbookId = .ok session
  head : ∀ first ∈ events.head?, state.store.getHead logbookId = first.previousHash
  supported : ∀ event ∈ events, validateSupportedRemoteEvent event = .ok ()
  new : ∀ event ∈ events, state.store.getEvent event.eventId = none

/-- A push stores every one of the events. -/
def AcceptsAll (state : InMemoryCloudState) (auth : CloudAuth) (logbookId : Uuid)
    (events : List CoreEventEnvelope) (time : DateTime) : Prop :=
  ∃ later response, InMemoryCloudSyncServer.pushEvents state auth logbookId events time =
    (later, .ok response) ∧ response.acceptedCount = events.length

/-- What a push stores as a whole is linked to the head of the receiver. -/
theorem acceptsAll_iff {state : InMemoryCloudState} {auth : CloudAuth} {logbookId : Uuid}
    {events : List CoreEventEnvelope} {time : DateTime}
    (h : Receives state auth logbookId events time)
    (hOwn : ∀ event ∈ events, event.logbookId = logbookId) (hDistinct :
      eventChain.Linked (state.store.getHead logbookId) events → DistinctIds events) :
    AcceptsAll state auth logbookId events time ↔
      eventChain.Linked (state.store.getHead logbookId) events := by
  obtain ⟨session, hSession⟩ := h.authorized
  obtain ⟨later, response, hPush⟩ := pushEvents_answers hSession hOwn
  obtain ⟨_, store, progress, hLoop, _, hResponse⟩ := pushEvents_ok hPush
  have hCount : response.acceptedCount = (storeLoop state.store {} events).2.acceptedCount := by
    rw [hResponse, hLoop]
    rfl
  constructor
  · rintro ⟨_, other, hOther, hAll⟩
    obtain ⟨_, hSame⟩ := Prod.mk.inj (hPush.symm.trans hOther)
    obtain rfl := Except.ok.inj hSame
    have hStored : (storeLoop state.store {} events).2.acceptedCount =
        ({} : PushProgress).acceptedCount + events.length := by
      rw [← hCount, hAll]
      exact (Nat.zero_add _).symm
    exact linked_of_storeLoop hOwn hStored
  · intro hLinked
    refine ⟨later, response, hPush, ?_⟩
    rw [hCount, acceptedCount_storeLoop hOwn h.supported h.new (hDistinct hLinked) hLinked]
    exact Nat.zero_add _

/-- A batch is a segment of the local chain exactly when its mutations record
local events in the order of the chain and leave none out in between. It is then
and only then that its events are linked, and that a receiver stores them all. -/
theorem batch_is_segment_iff {disk : QueueDisk} {file : OfflineQueueFile}
    (hLoad : loadFile disk = .ok file) {store : InMemoryLogbookEventStore}
    (hStore : store.Consistent) {logbookId : Uuid} (hChain : store.verifyChain logbookId = .ok ())
    (hHashes : eventChain.CollisionFree fun event => event ∈ store.listEvents logbookId)
    (now : DateTime) : ∃ batch ready offered,
      readyEventBatch disk logbookId (store.listEvents logbookId) now = .ok (batch, none) ∧
      file.LongestRun logbookId now ready ∧
      batch.Aligned (store.listEvents logbookId) offered ready ∧
      (batch.events <:+: store.listEvents logbookId ↔
        RecordedInOrder (store.listEvents logbookId) offered ∧
          NoneLeftOut (store.listEvents logbookId) offered) ∧
      ((∃ start, eventChain.Linked start batch.events) ↔
        batch.events <:+: store.listEvents logbookId) ∧
      ∀ state auth time, Receives state auth logbookId batch.events time →
        (AcceptsAll state auth logbookId batch.events time ↔
          batch.events <:+: store.listEvents logbookId) := by
  obtain ⟨history, hHistory⟩ := hStore
  obtain ⟨_, hLinked⟩ := (hHistory.verifyChain_eq_ok_iff logbookId).mp hChain
  have hIds : DistinctIds (store.listEvents logbookId) := by
    rw [hHistory.listEvents]
    exact hHistory.distinct.ofLogbook logbookId
  have hOwn : ∀ event ∈ store.listEvents logbookId, event.logbookId = logbookId := by
    intro event hMem
    rw [hHistory.listEvents] at hMem
    exact (mem_ofLogbook.mp hMem).2
  obtain ⟨batch, hBatch⟩ : ∃ batch, batchLoop (store.listEvents logbookId) logbookId
    (readyMutations file.mutations logbookId now) = batch := ⟨_, rfl⟩
  obtain ⟨offered, hAligned⟩ := aligned_batchLoop (store.listEvents logbookId) logbookId
    (readyMutations file.mutations logbookId now)
  rw [hBatch] at hAligned
  have hLocal := mem_of_recorded hAligned.events
  have hSegment : ∀ start, eventChain.Linked start batch.events →
      batch.events <:+: store.listEvents logbookId := fun start hStart =>
    hHashes.isInfix_of_linked hLinked (fun _ hMem => hMem) hLocal hStart
  refine ⟨batch, _, offered, by rw [readyEventBatch, hLoad, ← hBatch],
    longestRun_readyMutations (readableQueue_of_loadFile hLoad) logbookId now, hAligned,
    isInfix_recorded_iff hHashes (List.Nodup.of_map _ hIds) hAligned.events,
    ⟨fun ⟨start, hStart⟩ => hSegment start hStart, fun hInfix => ?_⟩,
    fun state auth time hReceives => ?_⟩
  · refine ⟨batch.events.head?.bind CoreEventEnvelope.previousHash,
      HashChain.Scheme.linked_of_isInfix hLinked hInfix fun first hFirst => ?_⟩
    rw [Option.mem_def.mp hFirst]
    rfl
  · rw [acceptsAll_iff hReceives (fun event hMem => hOwn event (hLocal event hMem)) fun hStart =>
      hIds.sublist ((hSegment _ hStart).sublist.map _)]
    exact ⟨hSegment _, fun hInfix => HashChain.Scheme.linked_of_isInfix hLinked hInfix
      fun first hFirst => (hReceives.head first hFirst).symm⟩

end Batches

/-! A chain of three events, of which only the first and the last are recorded
in the queue. -/

section
open Crates

def chainedNote (eventId : Uuid) (previousHash : Option String) : CoreEventEnvelope :=
  CoreEventEnvelope.fromNew (sampleEvent .qsoNoteAdded 2 (some 1) .null) previousHash
    (sampleStamp eventId)

def firstNote : CoreEventEnvelope := chainedNote 11 none
def unqueuedNote : CoreEventEnvelope := chainedNote 12 (some firstNote.eventHash)
def lastNote : CoreEventEnvelope := chainedNote 13 (some unqueuedNote.eventHash)

def notesStore : InMemoryLogbookEventStore :=
  ((({} : InMemoryLogbookEventStore).insertEvent firstNote).insertEvent unqueuedNote).insertEvent
    lastNote

def queuedNote (event : CoreEventEnvelope) (operationId : Uuid) (sequence : UInt64)
    (idempotencyKey : String) : OfflineMutationEnvelope :=
  { OfflineMutationEnvelope.new
      { sampleInput 2 operationId with idempotencyKey := some idempotencyKey }
      sequence epoch operationId with
    localEventHash := some event.eventHash }

def notesQueue : OfflineQueueFile where
  nextSequenceByLogbook := (∅ : KeyMap Uuid UInt64).insert 2 3
  mutations := [queuedNote firstNote 21 1 "first", queuedNote lastNote 22 2 "last"]

theorem represents_notesStore :
    notesStore.Represents [firstNote, unqueuedNote, lastNote] :=
  ((InMemoryLogbookEventStore.represents_empty.insertEvent rfl).insertEvent (by decide)).insertEvent
    (by decide)

theorem listEvents_notesStore :
    notesStore.listEvents 2 = [firstNote, unqueuedNote, lastNote] := by
  rw [represents_notesStore.listEvents]
  rfl

theorem verifyChain_notesStore : notesStore.verifyChain 2 = .ok () := by
  rw [represents_notesStore.verifyChain_eq_ok_iff, listEvents_notesStore]
  refine ⟨?_, rfl, rfl, rfl, trivial⟩
  simp [firstNote, unqueuedNote, lastNote, chainedNote, CoreEventEnvelope.fromNew_hashIsValid]

theorem loadFile_notesQueue :
    loadFile { file := some (.document notesQueue) } = .ok notesQueue :=
  loadFile_eq_ok_iff.mpr ⟨notesQueue, rfl, by decide +kernel, by rfl⟩

theorem readyMutations_notesQueue :
    readyMutations notesQueue.mutations 2 epoch = notesQueue.mutations := by
  rfl

theorem hashes_notes : firstNote.eventHash ≠ unqueuedNote.eventHash ∧
    firstNote.eventHash ≠ lastNote.eventHash ∧ unqueuedNote.eventHash ≠ lastNote.eventHash := by
  decide +kernel

theorem collisionFree_notes :
    eventChain.CollisionFree fun event => event ∈ notesStore.listEvents 2 := by
  obtain ⟨hUnqueued, hLast, hOther⟩ := hashes_notes
  have hNodup : ([firstNote, unqueuedNote, lastNote].map CoreEventEnvelope.eventHash).Nodup := by
    simp [hUnqueued, hLast, hOther]
  rw [listEvents_notesStore]
  exact fun first second hFirst hSecond =>
    List.inj_on_of_nodup_map hNodup hFirst hSecond

theorem batchLoop_notesQueue : batchLoop (notesStore.listEvents 2) 2
    (readyMutations notesQueue.mutations 2 epoch) =
      { logbookId := 2, operationIds := [21, 22], events := [firstNote, lastNote],
        missingLocalEventOperationIds := [] } := by
  have hFirst : firstNote ∈ notesStore.listEvents 2 := by
    rw [listEvents_notesStore]
    exact List.mem_cons_self
  have hLast : lastNote ∈ notesStore.listEvents 2 := by
    rw [listEvents_notesStore]
    exact List.mem_cons_of_mem _ (List.mem_cons_of_mem _ List.mem_cons_self)
  rw [readyMutations_notesQueue, notesQueue, batchLoop_recorded collisionFree_notes hFirst rfl,
    batchLoop_recorded collisionFree_notes hLast rfl]
  rfl

theorem receives_notes :
    Receives pairedServers.2 sampleAuth 2 [firstNote, lastNote] epoch where
  authorized := sampleAuth_authorized
  head := by
    rintro first hFirst
    obtain rfl := Option.some.inj hFirst
    rfl
  supported := by
    intro event hMem
    rcases List.mem_pair.mp hMem with rfl | rfl <;>
      exact (validateSupportedRemoteEvent_fromNew _ _ _).mpr ⟨rfl, by decide⟩
  new _ _ := rfl

/-- The batch skips the event that no mutation records, and the receiver that it
goes to stores only the first of its events. -/
theorem unqueued_event_breaks_batch :
    loadFile { file := some (.document notesQueue) } = .ok notesQueue ∧
      notesStore.Consistent ∧ notesStore.verifyChain 2 = .ok () ∧
      ∃ batch, readyEventBatch { file := some (.document notesQueue) } 2
          (notesStore.listEvents 2) epoch = .ok (batch, none) ∧
        batch.events = [firstNote, lastNote] ∧
        lastNote.previousHash ≠ some firstNote.eventHash ∧
        ¬ batch.events <:+: notesStore.listEvents 2 ∧
        Receives pairedServers.2 sampleAuth 2 batch.events epoch ∧
        ¬ AcceptsAll pairedServers.2 sampleAuth 2 batch.events epoch := by
  have hApart : lastNote.previousHash ≠ some firstNote.eventHash := fun hSame =>
    hashes_notes.1 (Option.some.inj hSame).symm
  have hBatch : readyEventBatch { file := some (.document notesQueue) } 2
      (notesStore.listEvents 2) epoch =
        .ok (batchLoop (notesStore.listEvents 2) 2
          (readyMutations notesQueue.mutations 2 epoch), none) := by
    rw [readyEventBatch, loadFile_notesQueue]
  rw [batchLoop_notesQueue] at hBatch
  refine ⟨loadFile_notesQueue, ⟨_, represents_notesStore⟩, verifyChain_notesStore, _, hBatch, rfl,
    hApart, ?_, receives_notes, ?_⟩
  · intro hInfix
    obtain ⟨_, hChain⟩ :=
      (represents_notesStore.verifyChain_eq_ok_iff 2).mp verifyChain_notesStore
    have hLinked : eventChain.Linked none [firstNote, lastNote] :=
      HashChain.Scheme.linked_of_isInfix hChain hInfix fun first hFirst => by
        obtain rfl := Option.some.inj hFirst
        rfl
    exact hApart hLinked.2.1
  · intro hAll
    have hOwn : ∀ event ∈ [firstNote, lastNote], event.logbookId = 2 := by
      intro event hMem
      rcases List.mem_pair.mp hMem with rfl | rfl <;> rfl
    have hLinked := (acceptsAll_iff receives_notes hOwn fun h => absurd h.2.1 hApart).mp hAll
    exact hApart hLinked.2.1

/-- The same queue and chain. -/
theorem batch_is_segment_iff_notes : ∃ batch ready offered,
    readyEventBatch { file := some (.document notesQueue) } 2 (notesStore.listEvents 2) epoch =
      .ok (batch, none) ∧
    notesQueue.LongestRun 2 epoch ready ∧
    batch.Aligned (notesStore.listEvents 2) offered ready ∧
    (batch.events <:+: notesStore.listEvents 2 ↔
      RecordedInOrder (notesStore.listEvents 2) offered ∧
        NoneLeftOut (notesStore.listEvents 2) offered) ∧
    ((∃ start, eventChain.Linked start batch.events) ↔
      batch.events <:+: notesStore.listEvents 2) ∧
    ∀ state auth time, Receives state auth 2 batch.events time →
      (AcceptsAll state auth 2 batch.events time ↔ batch.events <:+: notesStore.listEvents 2) :=
  batch_is_segment_iff loadFile_notesQueue ⟨_, represents_notesStore⟩ verifyChain_notesStore
    collisionFree_notes epoch

end
end HamLogger
