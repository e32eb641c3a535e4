import HamLogger.Core.StoreRuns
import HamLogger.Sync.CloudAgreement
import HamLogger.Sync.CloudPush
import HamLogger.Sync.RetryOutcome

/-! When the queue of a client reflects what its server holds after a push. -/
namespace HamLogger

open FileReplace (Disk)
open JsonOfflineMutationQueue

/-! What a loop of calls makes of the queue. -/

/-- The mutation is the first one of one of the operations. -/
def OfflineQueueFile.Names (file : OfflineQueueFile) (operationIds : List Uuid)
    (mutation : OfflineMutationEnvelope) : Prop :=
  ∃ operationId ∈ operationIds, file.findMutation operationId = some mutation

/-- A mutation in another status, with its event. -/
structure Restated (S : OfflineMutationStatus → Prop) (old new : OfflineMutationEnvelope) :
    Prop where
  revision : Revision old new
  event : new.localEventHash = old.localEventHash
  status : S new.status

/-- What calls for some operations make of a mutation of the file. -/
def Turns (S : OfflineMutationStatus → Prop) (file : OfflineQueueFile)
    (operationIds : List Uuid) (old new : OfflineMutationEnvelope) : Prop :=
  (file.Names operationIds old ∧ Restated S old new) ∨
    (¬ file.Names operationIds old ∧ new = old)

/-- What calls for some operations make of a file. -/
structure Turned (S : OfflineMutationStatus → Prop) (operationIds : List Uuid)
    (before after : OfflineQueueFile) : Prop where
  readable : ReadableQueue after
  forth : ∀ old ∈ before.mutations, ∃ new ∈ after.mutations, Turns S before operationIds old new
  back : ∀ new ∈ after.mutations, ∃ old ∈ before.mutations, Turns S before operationIds old new
  missing : ∀ operationId, before.findMutation operationId = none →
    after.findMutation operationId = none
  found : ∀ operationId old, before.findMutation operationId = some old →
    ∃ new, after.findMutation operationId = some new ∧ Turns S before operationIds old new

theorem ReadableQueue.eq_of_key {file : OfflineQueueFile} (h : ReadableQueue file)
    {first second : OfflineMutationEnvelope} (hFirst : first ∈ file.mutations)
    (hSecond : second ∈ file.mutations) (hKey : first.sequenceKey = second.sequenceKey) :
    first = second :=
  List.inj_on_of_nodup_map h.keys hFirst hSecond hKey

theorem OfflineQueueFile.mem_of_findMutation {file : OfflineQueueFile} {operationId : Uuid}
    {mutation : OfflineMutationEnvelope} (h : file.findMutation operationId = some mutation) :
    mutation ∈ file.mutations :=
  List.mem_of_find?_eq_some h

section Turning
variable {S : OfflineMutationStatus → Prop} {before middle after : OfflineQueueFile}
  {old new : OfflineMutationEnvelope} {operationIds : List Uuid}

theorem Turns.revision (h : Turns S before operationIds old new) : Revision old new := by
  rcases h with ⟨_, hRestated⟩ | ⟨_, rfl⟩
  · exact hRestated.revision
  · exact ⟨rfl, rfl⟩

theorem Turns.event (h : Turns S before operationIds old new) :
    new.localEventHash = old.localEventHash := by
  rcases h with ⟨_, hRestated⟩ | ⟨_, rfl⟩
  · exact hRestated.event
  · rfl

theorem Turns.sequenceKey (h : Turns S before operationIds old new) :
    new.sequenceKey = old.sequenceKey :=
  OfflineMutationEnvelope.sequenceKey_of_identity h.revision.identity

theorem Turns.logbookId (h : Turns S before operationIds old new) :
    new.logbookId = old.logbookId :=
  congrArg Prod.fst h.revision.identity

theorem turned_nil (h : ReadableQueue before) : Turned S [] before before := by
  have hSame : ∀ mutation, Turns S before [] mutation mutation := by
    intro mutation
    refine Or.inr ⟨fun hNames => ?_, rfl⟩
    obtain ⟨operationId, hMem, _⟩ := hNames
    cases hMem
  exact ⟨h, fun old hOld => ⟨old, hOld, hSame old⟩, fun new hNew => ⟨new, hNew, hSame new⟩,
    fun _ hNone => hNone, fun _ old hOld => ⟨old, hOld, hSame old⟩⟩

/-- The same operations name a mutation before and after. -/
theorem Turned.names_iff (h : Turned S operationIds before middle) (hBefore : ReadableQueue before)
    (hOld : old ∈ before.mutations) (hNew : new ∈ middle.mutations)
    (hTurns : Turns S before operationIds old new) (others : List Uuid) :
    middle.Names others new ↔ before.Names others old := by
  constructor
  · intro hNames
    obtain ⟨operationId, hMem, hFound⟩ := hNames
    cases hFirst : before.findMutation operationId with
    | none => cases (h.missing operationId hFirst).symm.trans hFound
    | some first =>
        obtain ⟨turned, hTurned, hStep⟩ := h.found operationId first hFirst
        obtain rfl := Option.some.inj (hTurned.symm.trans hFound)
        have hKey := hStep.sequenceKey.symm.trans hTurns.sequenceKey
        obtain rfl := hBefore.eq_of_key (OfflineQueueFile.mem_of_findMutation hFirst) hOld hKey
        exact ⟨operationId, hMem, hFirst⟩
  · intro hNames
    obtain ⟨operationId, hMem, hFound⟩ := hNames
    obtain ⟨turned, hTurned, hStep⟩ := h.found operationId old hFound
    have hKey := hStep.sequenceKey.trans hTurns.sequenceKey.symm
    obtain rfl := h.readable.eq_of_key (OfflineQueueFile.mem_of_findMutation hTurned) hNew hKey
    exact ⟨operationId, hMem, hTurned⟩

theorem Restated.trans {first second third : OfflineMutationEnvelope}
    (h : Revision first second) (hEvent : second.localEventHash = first.localEventHash)
    (hNext : Restated S second third) : Restated S first third where
  revision := ⟨hNext.revision.identity.trans h.identity,
    hNext.revision.validate.trans h.validate⟩
  event := hNext.event.trans hEvent
  status := hNext.status

/-- One call and then those for the other operations. -/
theorem Turned.cons {operationId : Uuid} (hBefore : ReadableQueue before)
    (h : Turned S [operationId] before middle) (hRest : Turned S operationIds middle after) :
    Turned S (operationId :: operationIds) before after := by
  have hStep : ∀ first ∈ before.mutations, ∀ second ∈ middle.mutations, ∀ third,
      Turns S before [operationId] first second → Turns S middle operationIds second third →
        Turns S before (operationId :: operationIds) first third := by
    intro first hFirst second hSecond third hOne hOthers
    have hNames := h.names_iff hBefore hFirst hSecond hOne operationIds
    rcases hOthers with ⟨hNamed, hRestated⟩ | ⟨hNot, rfl⟩
    · obtain ⟨other, hMem, hFound⟩ := hNames.mp hNamed
      exact Or.inl ⟨⟨other, List.mem_cons_of_mem _ hMem, hFound⟩,
        Restated.trans hOne.revision hOne.event hRestated⟩
    · rcases hOne with ⟨⟨other, hMem, hFound⟩, hRestated⟩ | ⟨hNotOne, rfl⟩
      · rw [List.mem_singleton] at hMem
        subst hMem
        exact Or.inl ⟨⟨other, List.mem_cons_self, hFound⟩, hRestated⟩
      · refine Or.inr ⟨fun hNamed => ?_, rfl⟩
        obtain ⟨other, hMem, hFound⟩ := hNamed
        rcases List.mem_cons.mp hMem with rfl | hLater
        · exact hNotOne ⟨other, List.mem_singleton_self _, hFound⟩
        · exact hNot (hNames.mpr ⟨other, hLater, hFound⟩)
  refine ⟨hRest.readable, ?_, ?_, ?_, ?_⟩
  · intro first hFirst
    obtain ⟨second, hSecond, hOne⟩ := h.forth first hFirst
    obtain ⟨third, hThird, hOthers⟩ := hRest.forth second hSecond
    exact ⟨third, hThird, hStep first hFirst second hSecond third hOne hOthers⟩
  · intro third hThird
    obtain ⟨second, hSecond, hOthers⟩ := hRest.back third hThird
    obtain ⟨first, hFirst, hOne⟩ := h.back second hSecond
    exact ⟨first, hFirst, hStep first hFirst second hSecond third hOne hOthers⟩
  · intro other hNone
    exact hRest.missing other (h.missing other hNone)
  · intro other first hFirst
    obtain ⟨second, hSecond, hOne⟩ := h.found other first hFirst
    obtain ⟨third, hThird, hOthers⟩ := hRest.found other second hSecond
    exact ⟨third, hThird, hStep first (OfflineQueueFile.mem_of_findMutation hFirst) second
      (OfflineQueueFile.mem_of_findMutation hSecond) third hOne hOthers⟩

/-- One mutation is written. -/
theorem turned_setMutation (h : ReadableQueue before) {operationId : Uuid}
    (hFound : before.findMutation operationId = some old) (hNew : Restated S old new) :
    Turned S [operationId] before (before.setMutation operationId new) := by
  have hMem := fun mutation => @ReadableQueue.mem_setMutation _ h _ _ new mutation hFound
  have hId : new.operationId = operationId :=
    (operationId_of_identity hNew.revision.identity).trans
      (QueueCall.operationId_of_findMutation hFound)
  have hOld : Turns S before [operationId] old new :=
    Or.inl ⟨⟨operationId, List.mem_singleton_self _, hFound⟩, hNew⟩
  have hOther : ∀ mutation, mutation ≠ old → Turns S before [operationId] mutation mutation := by
    intro mutation hNe
    refine Or.inr ⟨fun hNames => ?_, rfl⟩
    obtain ⟨other, hSame, hFirst⟩ := hNames
    rw [List.mem_singleton.mp hSame, hFound] at hFirst
    exact hNe (Option.some.inj hFirst).symm
  refine ⟨h.setMutation hFound hNew.revision, ?_, ?_, ?_, ?_⟩
  · intro mutation hMutation
    by_cases hSame : mutation = old
    · subst hSame
      exact ⟨new, (hMem new).mpr (Or.inl rfl), hOld⟩
    · exact ⟨mutation, (hMem mutation).mpr (Or.inr ⟨hMutation, hSame⟩), hOther mutation hSame⟩
  · intro mutation hMutation
    rcases (hMem mutation).mp hMutation with rfl | ⟨hKept, hNe⟩
    · exact ⟨old, OfflineQueueFile.mem_of_findMutation hFound, hOld⟩
    · exact ⟨mutation, hKept, hOther mutation hNe⟩
  · intro other hNone
    rw [findMutation_setMutation hFound hId, if_neg, hNone]
    rintro rfl
    cases hNone.symm.trans hFound
  · intro other first hFirst
    rw [findMutation_setMutation hFound hId]
    by_cases hSame : other = operationId
    · subst hSame
      obtain rfl := Option.some.inj (hFirst.symm.trans hFound)
      exact ⟨new, if_pos rfl, hOld⟩
    · rw [if_neg hSame]
      by_cases hNe : first = old
      · subst hNe
        have hIds := (QueueCall.operationId_of_findMutation hFirst).symm.trans
          (QueueCall.operationId_of_findMutation hFound)
        exact absurd hIds hSame
      · exact ⟨first, hFirst, hOther first hNe⟩

end Turning

/-! The calls of a push. -/

/-- An update of a mutation that ends in one of some statuses, or panics. -/
def Updates (S : OfflineMutationStatus → Prop) (now : DateTime)
    (update : OfflineMutationEnvelope → Outcome OfflineQueueError OfflineMutationEnvelope) :
    Prop :=
  ∀ mutation, update mutation = .error .panic ∨
    ∃ updated, update mutation = .ok updated ∧ Restated S mutation { updated with updatedAt := now }

section Calls
variable {S : OfflineMutationStatus → Prop} {now : DateTime}
  {update : OfflineMutationEnvelope → Outcome OfflineQueueError OfflineMutationEnvelope}
  {disk later : QueueDisk} {file : OfflineQueueFile}

theorem turned_ignoring (hUpdate : Updates S now update) {operationId : Uuid}
    (hLoad : loadFile disk = .ok file)
    (hRun : ignoring (fun disk => updateMutation disk operationId now update) disk = some later) :
    ∃ after, loadFile later = .ok after ∧ Turned S [operationId] file after := by
  have hReadable := readableQueue_of_loadFile hLoad
  unfold ignoring at hRun
  dsimp only at hRun
  cases hFound : file.findMutation operationId with
  | none =>
      have hCall : updateMutation disk operationId now update =
          .error (.error (.mutationNotFound operationId)) := by
        simp only [updateMutation, hLoad, hFound]
      rw [hCall] at hRun
      obtain rfl := Option.some.inj hRun
      have hNot : ∀ mutation, ¬ file.Names [operationId] mutation := by
        intro mutation hNames
        obtain ⟨other, hSame, hFirst⟩ := hNames
        rw [List.mem_singleton.mp hSame, hFound] at hFirst
        cases hFirst
      exact ⟨file, hLoad, hReadable, fun old hOld => ⟨old, hOld, Or.inr ⟨hNot old, rfl⟩⟩,
        fun new hNew => ⟨new, hNew, Or.inr ⟨hNot new, rfl⟩⟩, fun _ hNone => hNone,
        fun _ old hOld => ⟨old, hOld, Or.inr ⟨hNot old, rfl⟩⟩⟩
  | some mutation =>
      rcases hUpdate mutation with hPanic | ⟨updated, hOk, hRestated⟩
      · have hCall : updateMutation disk operationId now update = .error .panic := by
          simp only [updateMutation, hLoad, hFound, hPanic]
        rw [hCall] at hRun
        cases hRun
      · rw [updateMutation_of_found hLoad hFound hOk hRestated.revision] at hRun
        obtain rfl := Option.some.inj hRun
        have hTurned := turned_setMutation hReadable hFound hRestated
        exact ⟨_, hTurned.readable.loadFile_replace disk, hTurned⟩

theorem turned_ignoringEach (hUpdate : Updates S now update)
    {call : Uuid → QueueDisk → QueueOutcome OfflineMutationEnvelope}
    (hCall : ∀ operationId disk, call operationId disk =
      updateMutation disk operationId now update) (operationIds : List Uuid)
    (hLoad : loadFile disk = .ok file)
    (hRun : ignoringEach call operationIds disk = some later) :
    ∃ after, loadFile later = .ok after ∧ Turned S operationIds file after := by
  induction operationIds generalizing disk file with
  | nil =>
      obtain rfl := Option.some.inj hRun
      exact ⟨file, hLoad, turned_nil (readableQueue_of_loadFile hLoad)⟩
  | cons operationId rest ih =>
      unfold ignoringEach at hRun
      obtain ⟨middle, hFirst, hRest⟩ := Option.bind_eq_some_iff.mp hRun
      rw [show call operationId = fun disk => updateMutation disk operationId now update from
        funext (hCall operationId)] at hFirst
      obtain ⟨between, hBetween, hOne⟩ := turned_ignoring hUpdate hLoad hFirst
      obtain ⟨after, hAfter, hOthers⟩ := ih hBetween hRest
      exact ⟨after, hAfter, hOne.cons (readableQueue_of_loadFile hLoad) hOthers⟩

end Calls

theorem turned_markSending (now : DateTime) (operationIds : List Uuid) {disk later : QueueDisk}
    {file : OfflineQueueFile} (hLoad : loadFile disk = .ok file)
    (hRun : ignoringEach (fun operationId disk => markSending disk operationId now) operationIds
      disk = some later) :
    ∃ after, loadFile later = .ok after ∧ Turned (· = .sending) operationIds file after := by
  refine turned_ignoringEach ?_ (fun _ _ => rfl) operationIds hLoad hRun
  intro mutation
  exact Or.inr ⟨_, rfl, ⟨rfl, rfl⟩, rfl, rfl⟩

/-- A status that a push without success leaves. -/
def Unsettled (status : OfflineMutationStatus) : Prop :=
  status ≠ .sending ∧ status ≠ .accepted

theorem turned_markUserActionRequired (now : DateTime) (reason : String) (code : Option String)
    (operationIds : List Uuid) {disk later : QueueDisk} {file : OfflineQueueFile}
    (hLoad : loadFile disk = .ok file)
    (hRun : ignoringEach (fun operationId disk => markUserActionRequired disk operationId reason
      code now) operationIds disk = some later) :
    ∃ after, loadFile later = .ok after ∧ Turned Unsettled operationIds file after := by
  refine turned_ignoringEach ?_ (fun _ _ => rfl) operationIds hLoad hRun
  intro mutation
  exact Or.inr ⟨_, rfl, ⟨rfl, rfl⟩, rfl, nofun, nofun⟩

theorem turned_markBlocked (now : DateTime) (reason : String)
    (operationIds : List Uuid) {disk later : QueueDisk} {file : OfflineQueueFile}
    (hLoad : loadFile disk = .ok file)
    (hRun : ignoringEach (fun operationId disk => markBlocked disk operationId reason now)
      operationIds disk = some later) :
    ∃ after, loadFile later = .ok after ∧ Turned Unsettled operationIds file after := by
  refine turned_ignoringEach ?_ (fun _ _ => rfl) operationIds hLoad hRun
  intro mutation
  exact Or.inr ⟨_, rfl, ⟨rfl, rfl⟩, rfl, nofun, nofun⟩

theorem turned_recordTransientFailure (now : DateTime) (reason : String) (code : Option String)
    (operationIds : List Uuid) {disk later : QueueDisk} {file : OfflineQueueFile}
    (hLoad : loadFile disk = .ok file)
    (hRun : ignoringEach (fun operationId disk => recordTransientFailure disk operationId reason
      code now) operationIds disk = some later) :
    ∃ after, loadFile later = .ok after ∧ Turned Unsettled operationIds file after := by
  refine turned_ignoringEach ?_ (fun _ _ => rfl) operationIds hLoad hRun
  intro mutation
  dsimp only
  split
  · exact Or.inr ⟨_, rfl, ⟨rfl, rfl⟩, rfl, nofun, nofun⟩
  · cases now.addSeconds mutation.retryDelay with
    | none => exact Or.inl rfl
    | some next => exact Or.inr ⟨_, rfl, ⟨rfl, rfl⟩, rfl, nofun, nofun⟩

/-- A mutation as accepted hashes leave it. -/
structure Settles (hashes : List String) (old new : OfflineMutationEnvelope) : Prop where
  revision : Revision old new
  event : new.localEventHash = old.localEventHash
  accepted : (∃ hash ∈ hashes, old.localEventHash = some hash) → new.status = .accepted
  kept : (¬ ∃ hash ∈ hashes, old.localEventHash = some hash) → new = old

theorem settles_acceptedMutation (request : IosRetryResultRequest) (now : DateTime)
    (mutation : OfflineMutationEnvelope) :
    Settles request.acceptedEventHashes mutation (acceptedMutation request now mutation) := by
  have hAny : mutation.localEventHash.any (· ∈ request.acceptedEventHashes) = true ↔
      ∃ hash ∈ request.acceptedEventHashes, mutation.localEventHash = some hash := by
    cases mutation.localEventHash <;> simp
  refine ⟨revision_acceptedMutation request now mutation, ?_, ?_, ?_⟩
  · unfold acceptedMutation
    split <;> rfl
  · intro hHash
    unfold acceptedMutation acceptedByHash
    rw [hAny.mpr hHash]
    split
    · rfl
    · next hNot => simpa using hNot
  · intro hNone
    unfold acceptedMutation acceptedByHash
    rw [if_neg]
    rw [Bool.and_eq_true, hAny]
    exact fun h => hNone h.1

theorem settles_ignoring (now : DateTime) (hashes : List String) {disk later : QueueDisk}
    {file : OfflineQueueFile} (hLoad : loadFile disk = .ok file)
    (hRun : ignoring (fun disk => markAcceptedByEventHashes disk hashes now) disk = some later) :
    ∃ after, loadFile later = .ok after ∧
      (∀ old ∈ file.mutations, ∃ new ∈ after.mutations, Settles hashes old new) ∧
      ∀ new ∈ after.mutations, ∃ old ∈ file.mutations, Settles hashes old new := by
  let request : IosRetryResultRequest := { acceptedEventHashes := hashes, result := .accepted }
  have hMem : ∀ mutation, mutation ∈ (acceptedFile request now file).mutations ↔
      ∃ old ∈ file.mutations, acceptedMutation request now old = mutation := by
    intro mutation
    unfold acceptedFile
    rw [OfflineQueueFile.mem_sorted, List.mem_map]
  have hCall := @markAcceptedByEventHashes_eq request now disk file hLoad
  unfold ignoring at hRun
  dsimp only at hRun
  rw [show markAcceptedByEventHashes disk hashes now = _ from hCall] at hRun
  obtain rfl := Option.some.inj hRun
  refine ⟨_, ((readableQueue_of_loadFile hLoad).acceptedFile request now).loadFile_replace disk,
    ?_, ?_⟩
  · intro old hOld
    exact ⟨_, (hMem _).mpr ⟨old, hOld, rfl⟩, settles_acceptedMutation request now old⟩
  · intro new hNew
    obtain ⟨old, hOld, rfl⟩ := (hMem new).mp hNew
    exact ⟨old, hOld, settles_acceptedMutation request now old⟩

/-! The server. -/

section Server
variable [UuidCrate] [RustFmt] [CanonicalJson] [Sha2Crate]

/-- Errors stay. -/
theorem pushLoop_errors (store : InMemoryLogbookEventStore) (progress : PushProgress)
    (events : List CoreEventEnvelope)
    (h : (pushLoop InMemoryLogbookEventStore.getEvent
      InMemoryLogbookEventStore.appendVerifiedRemoteEvent store progress events).2.errors = []) :
    ∀ history, store.Represents history → ∃ later,
      (pushLoop InMemoryLogbookEventStore.getEvent
        InMemoryLogbookEventStore.appendVerifiedRemoteEvent store progress events).1.Represents
          later ∧ (∀ event ∈ history, event ∈ later) ∧ ∀ event ∈ events, event ∈ later := by
  induction events generalizing store progress with
  | nil =>
      intro history hHistory
      exact ⟨history, hHistory, fun _ hEvent => hEvent, fun _ hEvent => by cases hEvent⟩
  | cons event rest ih =>
      intro history hHistory
      simp only [pushLoop] at h ⊢
      cases hValid : validateSupportedRemoteEvent event with
      | error error =>
          rw [hValid] at h
          simp [PushProgress.failed] at h
      | ok _ =>
          rw [hValid] at h
          cases hFound : store.getEvent event.eventId with
          | some existing =>
              rw [hFound] at h
              by_cases hSame : existing = event
              · simp only [hSame, if_true] at h ⊢
                obtain ⟨later, hLater, hKept, hRest⟩ := ih store _ h history hHistory
                refine ⟨later, hLater, hKept, ?_⟩
                have hMem := ((hHistory.event _ _).mp hFound).1
                rw [hSame] at hMem
                exact List.forall_mem_cons.mpr ⟨hKept event hMem, hRest⟩
              · simp [hSame, PushProgress.failed] at h
          | none =>
              rw [hFound] at h
              rcases store.appendVerifiedRemoteEvent_cases event with ⟨error, hError⟩ |
                ⟨_, hSome, _⟩ | ⟨_, hNone, _, hOk⟩
              · simp [hError, PushProgress.failed] at h
              · cases hFound.symm.trans hSome
              · simp only [hOk] at h ⊢
                obtain ⟨later, hLater, hKept, hRest⟩ :=
                  ih _ _ h _ (hHistory.insertEvent hNone)
                refine ⟨later, hLater, ?_, ?_⟩
                · intro other hOther
                  exact hKept other (List.mem_append_left _ hOther)
                · exact List.forall_mem_cons.mpr
                    ⟨hKept event (List.mem_append_right _ (List.mem_singleton_self _)), hRest⟩

/-- A server that takes a push without an error lists what was pushed. -/
theorem mem_listEvents_of_pushed {state later : InMemoryCloudState} {auth : CloudAuth}
    {logbookId : Uuid} {events : List CoreEventEnvelope} {now : DateTime}
    {push : CloudPushEventsResponse} (hStore : state.store.Consistent)
    (hPush : InMemoryCloudSyncServer.pushEvents state auth logbookId events now =
      (later, .ok push)) (hErrors : push.errors = []) :
    ∀ event ∈ events, event ∈ later.store.listEvents logbookId := by
  unfold InMemoryCloudSyncServer.pushEvents at hPush
  split at hPush
  · cases hPush
  · split at hPush
    · cases hPush
    · next hOwn =>
        cases hPush
        obtain ⟨history, hHistory⟩ := hStore
        obtain ⟨last, hLast, _, hAll⟩ := pushLoop_errors _ _ _ hErrors history hHistory
        intro event hEvent
        have hLogbook : event.logbookId = logbookId := by
          by_contra hOther
          exact hOwn (List.any_eq_true.mpr ⟨event, hEvent, by simpa using hOther⟩)
        rw [hLast.listEvents, mem_ofLogbook]
        exact ⟨hAll event hEvent, hLogbook⟩

end Server

/-! One push. -/

/-- The operations that a push writes, whatever it is answered. -/
def OfflinePushBatch.written (batch : OfflinePushBatch) : List Uuid :=
  batch.missingLocalEventOperationIds ++ batch.operationIds

theorem batchLoop_operationIds (localEvents : List CoreEventEnvelope) (logbookId : Uuid)
    (mutations : List OfflineMutationEnvelope) :
    (batchLoop localEvents logbookId mutations).events = [] ↔
      (batchLoop localEvents logbookId mutations).operationIds = [] := by
  cases mutations with
  | nil => exact iff_of_true rfl rfl
  | cons mutation rest =>
      unfold batchLoop
      split
      · exact iff_of_true rfl rfl
      · exact iff_of_false (by simp) (by simp)

/-- What a mutation has become that was written in turn: for its missing event,
as being sent, and for the answer. -/
structure Passed (S : OfflineMutationStatus → Prop) (file : OfflineQueueFile)
    (missing operationIds : List Uuid) (old new : OfflineMutationEnvelope) : Prop where
  identity : new.identity = old.identity
  event : new.localEventHash = old.localEventHash
  named : file.Names operationIds old → S new.status
  lacking : ¬ file.Names operationIds old → file.Names missing old → Unsettled new.status
  untouched : ¬ file.Names operationIds old → ¬ file.Names missing old → new = old

theorem Turned.passed {S : OfflineMutationStatus → Prop} {file marked sent : OfflineQueueFile}
    {missing operationIds : List Uuid} (hFile : ReadableQueue file)
    (hMissing : Turned Unsettled missing file marked)
    (hSent : Turned S operationIds marked sent) :
    (∀ old ∈ file.mutations, ∃ new ∈ sent.mutations, Passed S file missing operationIds old new) ∧
      ∀ new ∈ sent.mutations, ∃ old ∈ file.mutations,
        Passed S file missing operationIds old new := by
  have hPassed : ∀ old ∈ file.mutations, ∀ middle ∈ marked.mutations, ∀ new,
      Turns Unsettled file missing old middle → Turns S marked operationIds middle new →
        Passed S file missing operationIds old new := by
    intro old hOld middle hMiddle new hFirst hSecond
    have hNames := hMissing.names_iff hFile hOld hMiddle hFirst operationIds
    refine ⟨hSecond.revision.identity.trans hFirst.revision.identity,
      hSecond.event.trans hFirst.event, ?_, ?_, ?_⟩
    · intro hNamed
      rcases hSecond with ⟨_, hRestated⟩ | ⟨hNot, _⟩
      · exact hRestated.status
      · exact absurd (hNames.mpr hNamed) hNot
    · intro hNot hLacking
      rcases hSecond with ⟨hNamed, _⟩ | ⟨_, rfl⟩
      · exact absurd (hNames.mp hNamed) hNot
      · rcases hFirst with ⟨_, hRestated⟩ | ⟨hOther, _⟩
        · exact hRestated.status
        · exact absurd hLacking hOther
    · intro hNot hOther
      rcases hSecond with ⟨hNamed, _⟩ | ⟨_, rfl⟩
      · exact absurd (hNames.mp hNamed) hNot
      · rcases hFirst with ⟨hLacking, _⟩ | ⟨_, rfl⟩
        · exact absurd hLacking hOther
        · rfl
  constructor
  · intro old hOld
    obtain ⟨middle, hMiddle, hFirst⟩ := hMissing.forth old hOld
    obtain ⟨new, hNew, hSecond⟩ := hSent.forth middle hMiddle
    exact ⟨new, hNew, hPassed old hOld middle hMiddle new hFirst hSecond⟩
  · intro new hNew
    obtain ⟨middle, hMiddle, hSecond⟩ := hSent.back new hNew
    obtain ⟨old, hOld, hFirst⟩ := hMissing.back middle hMiddle
    exact ⟨old, hOld, hPassed old hOld middle hMiddle new hFirst hSecond⟩

/-- The mutations of the queue after a push that was not taken as a whole. -/
structure Refused (file after : OfflineQueueFile) (batch : OfflinePushBatch) : Prop where
  forth : ∀ old ∈ file.mutations, ∃ new ∈ after.mutations,
    Passed Unsettled file batch.missingLocalEventOperationIds batch.operationIds old new
  back : ∀ new ∈ after.mutations, ∃ old ∈ file.mutations,
    Passed Unsettled file batch.missingLocalEventOperationIds batch.operationIds old new

section Refusals
variable {file after : OfflineQueueFile} {batch : OfflinePushBatch}

theorem names_written {mutation : OfflineMutationEnvelope} :
    file.Names batch.written mutation ↔ file.Names batch.operationIds mutation ∨
      file.Names batch.missingLocalEventOperationIds mutation := by
  unfold OfflineQueueFile.Names OfflinePushBatch.written
  simp only [List.mem_append]
  grind

/-- What is written is neither sent nor accepted, and the rest stays. -/
theorem Refused.status {old new : OfflineMutationEnvelope}
    (h : Passed Unsettled file batch.missingLocalEventOperationIds batch.operationIds old new) :
    (file.Names batch.written old ∧ Unsettled new.status) ∨
      (¬ file.Names batch.written old ∧ new = old) := by
  rw [names_written]
  by_cases hNamed : file.Names batch.operationIds old
  · exact Or.inl ⟨Or.inl hNamed, h.named hNamed⟩
  · by_cases hLacking : file.Names batch.missingLocalEventOperationIds old
    · exact Or.inl ⟨Or.inr hLacking, h.lacking hNamed hLacking⟩
    · refine Or.inr ⟨fun hEither => ?_, h.untouched hNamed hLacking⟩
      rcases hEither with hYes | hYes
      · exact hNamed hYes
      · exact hLacking hYes

theorem Refused.not_sending (h : Refused file after batch) {logbookId : Uuid}
    (hSending : ∀ mutation ∈ file.mutations, mutation.logbookId = logbookId →
      mutation.status ≠ .sending) :
    ∀ mutation ∈ after.mutations, mutation.logbookId = logbookId →
      mutation.status ≠ .sending := by
  intro new hNew hLogbook
  obtain ⟨old, hOld, hPassed⟩ := h.back new hNew
  rcases Refused.status hPassed with ⟨_, hUnsettled⟩ | ⟨_, rfl⟩
  · exact hUnsettled.1
  · exact hSending new hOld hLogbook

/-- Nothing is newly accepted. -/
theorem Refused.not_accepted (h : Refused file after batch) (hFile : ReadableQueue file)
    {old new : OfflineMutationEnvelope} (hOld : old ∈ file.mutations)
    (hNew : new ∈ after.mutations) (hIdentity : new.identity = old.identity)
    (hBefore : old.status ≠ .accepted) : new.status ≠ .accepted := by
  obtain ⟨source, hSource, hPassed⟩ := h.back new hNew
  have hKey : source.sequenceKey = old.sequenceKey :=
    OfflineMutationEnvelope.sequenceKey_of_identity (hPassed.identity.symm.trans hIdentity)
  obtain rfl := hFile.eq_of_key hSource hOld hKey
  rcases Refused.status hPassed with ⟨_, hUnsettled⟩ | ⟨_, rfl⟩
  · exact hUnsettled.2
  · exact hBefore

/-- The accepted mutations are those that were, unless they were written. -/
theorem Refused.delivered_iff (h : Refused file after batch) {events : List CoreEventEnvelope}
    {listed : List CoreEventEnvelope} :
    (∀ mutation ∈ after.mutations, ∀ event ∈ events,
      mutation.localEventHash = some event.eventHash →
        (mutation.status = .accepted ↔ event ∈ listed)) ↔
    ∀ mutation ∈ file.mutations, ∀ event ∈ events,
      mutation.localEventHash = some event.eventHash →
        ((mutation.status = .accepted ∧ ¬ file.Names batch.written mutation) ↔
          event ∈ listed) := by
  have hStatus : ∀ old new,
      Passed Unsettled file batch.missingLocalEventOperationIds batch.operationIds old new →
        (new.status = .accepted ↔ old.status = .accepted ∧ ¬ file.Names batch.written old) := by
    intro old new hPassed
    rcases Refused.status hPassed with ⟨hNamed, hUnsettled⟩ | ⟨hNot, rfl⟩
    · exact iff_of_false hUnsettled.2 fun hBoth => hBoth.2 hNamed
    · exact ⟨fun hAccepted => ⟨hAccepted, hNot⟩, fun hBoth => hBoth.1⟩
  constructor
  · intro hAfter old hOld event hEvent hHash
    obtain ⟨new, hNew, hPassed⟩ := h.forth old hOld
    rw [← hStatus old new hPassed]
    exact hAfter new hNew event hEvent (hPassed.event.trans hHash)
  · intro hBefore new hNew event hEvent hHash
    obtain ⟨old, hOld, hPassed⟩ := h.back new hNew
    rw [hStatus old new hPassed]
    exact hBefore old hOld event hEvent (hPassed.event.symm.trans hHash)

end Refusals
section Pushes
variable [UuidCrate]

/-- After a push nothing of the logbook is being sent, what is newly accepted is
on the server, and of what was pushed the accepted is what the server lists. -/
structure QueueReflectsServer (client later : CloudClient) (reply : CloudPushReply) : Prop where
  settled : ∀ after, loadFile later.offlineQueue = .ok after → ∀ mutation ∈ after.mutations,
    mutation.logbookId = client.logbookId → mutation.status ≠ .sending
  accepted : ∀ before after, loadFile client.offlineQueue = .ok before →
    loadFile later.offlineQueue = .ok after → ∀ old ∈ before.mutations,
      ∀ new ∈ after.mutations, new.identity = old.identity → old.status ≠ .accepted →
        new.status = .accepted →
          ∃ event ∈ later.cloudServer.store.listEvents client.logbookId,
            new.localEventHash = some event.eventHash
  delivered : ∀ events push after, reply = .pushed events push →
    loadFile later.offlineQueue = .ok after → ∀ mutation ∈ after.mutations, ∀ event ∈ events,
      mutation.localEventHash = some event.eventHash →
        (mutation.status = .accepted ↔
          event ∈ later.cloudServer.store.listEvents client.logbookId)

/-- The batch of a client whose queue is the file. -/
def CloudClient.batch (client : CloudClient) (file : OfflineQueueFile) (now : DateTime) :
    OfflinePushBatch :=
  batchLoop client.localEvents client.logbookId
    (readyMutations file.mutations client.logbookId now)

variable [RustFmt] [CanonicalJson] [Sha2Crate]

/-- The server takes a batch of events as a whole, and the operations of the
batch name no mutation of the logbook with another event. Otherwise the server
lists just those pushed events whose mutations are accepted already, and not
written again. -/
def ReflectsWhen (client : CloudClient) (mode : CloudPushMode) (file : OfflineQueueFile)
    (now : DateTime) : Prop :=
  let batch := client.batch file now
  let events := pushedEvents client.localEvents batch
  (mode.queueOnly && batch.events.isEmpty) = false → ∀ auth server push,
    client.cloudAuth = some auth →
      InMemoryCloudSyncServer.pushEvents client.cloudServer auth client.logbookId events now =
        (server, .ok push) →
      if batch.events ≠ [] ∧ push.errors = [] then
        ∀ mutation, file.Names batch.operationIds mutation →
          mutation.logbookId = client.logbookId →
            ∃ hash ∈ batch.queuedHashes, mutation.localEventHash = some hash
      else
        ∀ mutation ∈ file.mutations, ∀ event ∈ events,
          mutation.localEventHash = some event.eventHash →
            ((mutation.status = .accepted ∧ ¬ file.Names batch.written mutation) ↔
              event ∈ server.store.listEvents client.logbookId)

end Pushes

/-! What the answers of the server come to. -/

section Answers
variable [UuidCrate] {client later : CloudClient} {file after sent : OfflineQueueFile}
  {batch : OfflinePushBatch} {reply : CloudPushReply}

/-- Where the server has not answered, nothing is accepted. -/
theorem reflects_of_refused (hFile : loadFile client.offlineQueue = .ok file)
    (hLater : loadFile later.offlineQueue = .ok after) (hRefused : Refused file after batch)
    (hSending : ∀ mutation ∈ file.mutations, mutation.logbookId = client.logbookId →
      mutation.status ≠ .sending)
    (hReply : ∀ events push, reply ≠ .pushed events push) :
    QueueReflectsServer client later reply := by
  refine ⟨?_, ?_, ?_⟩
  · intro found hFound
    obtain rfl := Except.ok.inj (hLater.symm.trans hFound)
    exact hRefused.not_sending hSending
  · intro before found hBefore hFound old hOld new hNew hIdentity hStatus hAccepted
    obtain rfl := Except.ok.inj (hFile.symm.trans hBefore)
    obtain rfl := Except.ok.inj (hLater.symm.trans hFound)
    exact absurd hAccepted (hRefused.not_accepted (readableQueue_of_loadFile hFile) hOld hNew
      hIdentity hStatus)
  · intro events push _ hPushed
    exact absurd hPushed (hReply events push)

/-- Where the batch was not taken as a whole, the server lists what was
accepted before. -/
theorem reflects_iff_of_refused (hFile : loadFile client.offlineQueue = .ok file)
    (hLater : loadFile later.offlineQueue = .ok after) (hRefused : Refused file after batch)
    (hSending : ∀ mutation ∈ file.mutations, mutation.logbookId = client.logbookId →
      mutation.status ≠ .sending)
    (events : List CoreEventEnvelope) (push : CloudPushEventsResponse) :
    QueueReflectsServer client later (.pushed events push) ↔
      ∀ mutation ∈ file.mutations, ∀ event ∈ events,
        mutation.localEventHash = some event.eventHash →
          ((mutation.status = .accepted ∧ ¬ file.Names batch.written mutation) ↔
            event ∈ later.cloudServer.store.listEvents client.logbookId) := by
  rw [← hRefused.delivered_iff]
  constructor
  · intro hReflects
    exact hReflects.delivered events push after rfl hLater
  · intro hDelivered
    have hOthers : QueueReflectsServer client later .notConnected :=
      reflects_of_refused hFile hLater hRefused hSending fun _ _ h => by cases h
    refine ⟨hOthers.settled, hOthers.accepted, ?_⟩
    intro others other found hReply hFound
    obtain rfl := Except.ok.inj (hLater.symm.trans hFound)
    cases hReply
    exact hDelivered

/-- Where the batch was taken as a whole, the operations of the batch have
named its own mutations. -/
theorem reflects_iff_of_taken (hFile : loadFile client.offlineQueue = .ok file)
    (hLater : loadFile later.offlineQueue = .ok after)
    (hSending : ∀ mutation ∈ file.mutations, mutation.logbookId = client.logbookId →
      mutation.status ≠ .sending)
    (hSent : (∀ old ∈ file.mutations, ∃ new ∈ sent.mutations,
        Passed (· = .sending) file batch.missingLocalEventOperationIds batch.operationIds old new) ∧
      ∀ new ∈ sent.mutations, ∃ old ∈ file.mutations,
        Passed (· = .sending) file batch.missingLocalEventOperationIds batch.operationIds old new)
    (hSettled : (∀ old ∈ sent.mutations, ∃ new ∈ after.mutations,
        Settles batch.queuedHashes old new) ∧
      ∀ new ∈ after.mutations, ∃ old ∈ sent.mutations, Settles batch.queuedHashes old new)
    (hListed : ∀ event ∈ batch.events,
      event ∈ later.cloudServer.store.listEvents client.logbookId)
    (push : CloudPushEventsResponse) :
    QueueReflectsServer client later (.pushed batch.events push) ↔
      ∀ mutation, file.Names batch.operationIds mutation →
        mutation.logbookId = client.logbookId →
          ∃ hash ∈ batch.queuedHashes, mutation.localEventHash = some hash := by
  have hReadable := readableQueue_of_loadFile hFile
  constructor
  · intro hReflects mutation hNames hLogbook
    by_contra hNone
    obtain ⟨operationId, _, hFound⟩ := id hNames
    obtain ⟨middle, hMiddle, hPassed⟩ :=
      hSent.1 mutation (OfflineQueueFile.mem_of_findMutation hFound)
    obtain ⟨new, hNew, hSettles⟩ := hSettled.1 middle hMiddle
    rw [← hPassed.event] at hNone
    obtain rfl := hSettles.kept hNone
    have hSame : new.logbookId = mutation.logbookId := congrArg Prod.fst hPassed.identity
    exact hReflects.settled after hLater new hNew (hSame.trans hLogbook) (hPassed.named hNames)
  · intro hHits
    -- A mutation whose hash was not in the batch is as it was before the push.
    have hUnsent : ∀ new ∈ after.mutations,
        (∃ hash ∈ batch.queuedHashes, new.localEventHash = some hash) ∧
            new.status = .accepted ∨
          ∃ old ∈ file.mutations, new.identity = old.identity ∧
            (new.logbookId = client.logbookId → Unsettled new.status ∨ new = old) ∧
              (new.status = .accepted → new = old) := by
      intro new hNew
      obtain ⟨middle, hMiddle, hSettles⟩ := hSettled.2 new hNew
      obtain ⟨old, hOld, hPassed⟩ := hSent.2 middle hMiddle
      by_cases hHash : ∃ hash ∈ batch.queuedHashes, middle.localEventHash = some hash
      · have hStatus := hSettles.accepted hHash
        rw [← hSettles.event] at hHash
        exact Or.inl ⟨hHash, hStatus⟩
      · obtain rfl := hSettles.kept hHash
        refine Or.inr ⟨old, hOld, hPassed.identity, ?_, ?_⟩
        · intro hLogbook
          have hSame : new.logbookId = old.logbookId := congrArg Prod.fst hPassed.identity
          by_cases hNamed : file.Names batch.operationIds old
          · have hHit := hHits old hNamed (hSame.symm.trans hLogbook)
            rw [← hPassed.event] at hHit
            exact absurd hHit hHash
          · by_cases hLacking : file.Names batch.missingLocalEventOperationIds old
            · exact Or.inl (hPassed.lacking hNamed hLacking)
            · exact Or.inr (hPassed.untouched hNamed hLacking)
        · intro hAccepted
          by_cases hNamed : file.Names batch.operationIds old
          · have hStatus : new.status = .sending := hPassed.named hNamed
            rw [hAccepted] at hStatus
            cases hStatus
          · by_cases hLacking : file.Names batch.missingLocalEventOperationIds old
            · exact absurd hAccepted (hPassed.lacking hNamed hLacking).2
            · exact hPassed.untouched hNamed hLacking
    refine ⟨?_, ?_, ?_⟩
    · intro found hFound new hNew hLogbook hStatus
      obtain rfl := Except.ok.inj (hLater.symm.trans hFound)
      rcases hUnsent new hNew with ⟨_, hAccepted⟩ | ⟨old, hOld, _, hKept, _⟩
      · rw [hAccepted] at hStatus
        cases hStatus
      · rcases hKept hLogbook with hUnsettled | rfl
        · exact hUnsettled.1 hStatus
        · exact hSending new hOld hLogbook hStatus
    · intro before found hBefore hFound old hOld new hNew hIdentity hStatus hAccepted
      obtain rfl := Except.ok.inj (hFile.symm.trans hBefore)
      obtain rfl := Except.ok.inj (hLater.symm.trans hFound)
      rcases hUnsent new hNew with ⟨⟨hash, hHash, hEvent⟩, _⟩ | ⟨source, hSource, _, _, hKept⟩
      · obtain ⟨event, hMem, rfl⟩ := List.mem_map.mp hHash
        exact ⟨event, hListed event hMem, hEvent⟩
      · obtain rfl := hKept hAccepted
        have hKey := OfflineMutationEnvelope.sequenceKey_of_identity hIdentity
        obtain rfl := hReadable.eq_of_key hSource hOld hKey
        exact absurd hAccepted hStatus
    · intro events other found hReply hFound new hNew event hEvent hHash
      obtain rfl := Except.ok.inj (hLater.symm.trans hFound)
      cases hReply
      obtain ⟨middle, _, hSettles⟩ := hSettled.2 new hNew
      rw [hSettles.event] at hHash
      have hStatus := hSettles.accepted
        ⟨event.eventHash, List.mem_map.mpr ⟨event, hEvent, rfl⟩, hHash⟩
      exact iff_of_true hStatus (hListed event hEvent)

end Answers

theorem Turned.overwrite {S T : OfflineMutationStatus → Prop}
    {before middle after : OfflineQueueFile} {operationIds : List Uuid}
    (hBefore : ReadableQueue before)
    (h : Turned S operationIds before middle) (hNext : Turned T operationIds middle after) :
    Turned T operationIds before after := by
  have hStep : ∀ first ∈ before.mutations, ∀ second ∈ middle.mutations, ∀ third,
      Turns S before operationIds first second → Turns T middle operationIds second third →
        Turns T before operationIds first third := by
    intro first hFirst second hSecond third hOne hOther
    have hNames := h.names_iff hBefore hFirst hSecond hOne operationIds
    rcases hOther with ⟨hNamed, hRestated⟩ | ⟨hNot, rfl⟩
    · exact Or.inl ⟨hNames.mp hNamed, Restated.trans hOne.revision hOne.event hRestated⟩
    · rcases hOne with ⟨hNamed, _⟩ | ⟨hNotNamed, rfl⟩
      · exact absurd (hNames.mpr hNamed) hNot
      · exact Or.inr ⟨hNotNamed, rfl⟩
  refine ⟨hNext.readable, ?_, ?_, ?_, ?_⟩
  · intro first hFirst
    obtain ⟨second, hSecond, hOne⟩ := h.forth first hFirst
    obtain ⟨third, hThird, hOther⟩ := hNext.forth second hSecond
    exact ⟨third, hThird, hStep first hFirst second hSecond third hOne hOther⟩
  · intro third hThird
    obtain ⟨second, hSecond, hOther⟩ := hNext.back third hThird
    obtain ⟨first, hFirst, hOne⟩ := h.back second hSecond
    exact ⟨first, hFirst, hStep first hFirst second hSecond third hOne hOther⟩
  · intro other hNone
    exact hNext.missing other (h.missing other hNone)
  · intro other first hFirst
    obtain ⟨second, hSecond, hOne⟩ := h.found other first hFirst
    obtain ⟨third, hThird, hOther⟩ := hNext.found other second hSecond
    exact ⟨third, hThird, hStep first (OfflineQueueFile.mem_of_findMutation hFirst) second
      (OfflineQueueFile.mem_of_findMutation hSecond) third hOne hOther⟩

/-- What an answer that does not take the batch leaves. -/
theorem refused_of_settlePush [UuidCrate] {batch : OfflinePushBatch} {now : DateTime}
    {file marked sent : OfflineQueueFile} {queue later : QueueDisk}
    (hFile : ReadableQueue file)
    (hMissing : Turned Unsettled batch.missingLocalEventOperationIds file marked)
    (hSent : Turned (· = .sending) batch.operationIds marked sent)
    (hLoad : loadFile queue = .ok sent)
    {response : Except CloudSyncError CloudPushEventsResponse}
    (hResponse : ∀ push, response = .ok push → push.errors ≠ [])
    (hRun : settlePush batch now queue response = some later) :
    ∃ after, loadFile later = .ok after ∧ Refused file after batch := by
  have hTurned : ∃ after, loadFile later = .ok after ∧
      Turned Unsettled batch.operationIds sent after := by
    unfold settlePush at hRun
    cases response with
    | error error => exact turned_recordTransientFailure _ _ _ _ hLoad hRun
    | ok push =>
        have hErrors : push.errors.isEmpty = false := by
          simpa using hResponse push rfl
        dsimp only at hRun
        rw [hErrors] at hRun
        simp only [Bool.false_eq_true, if_false] at hRun
        split at hRun
        · exact turned_markBlocked _ _ _ hLoad hRun
        · exact turned_markUserActionRequired _ _ _ _ hLoad hRun
  obtain ⟨after, hAfter, hSettled⟩ := hTurned
  have hBoth := hMissing.passed hFile (hSent.overwrite hMissing.readable hSettled)
  exact ⟨after, hAfter, hBoth.1, hBoth.2⟩

/-- An accepted push of the whole log leaves the queue as it is. -/
theorem refused_of_empty {batch : OfflinePushBatch} {file sent after : OfflineQueueFile}
    (hEvents : batch.events = []) (hIds : batch.operationIds = [])
    (hSent : (∀ old ∈ file.mutations, ∃ new ∈ sent.mutations,
        Passed (· = .sending) file batch.missingLocalEventOperationIds batch.operationIds old new) ∧
      ∀ new ∈ sent.mutations, ∃ old ∈ file.mutations,
        Passed (· = .sending) file batch.missingLocalEventOperationIds batch.operationIds old new)
    (hSettled : (∀ old ∈ sent.mutations, ∃ new ∈ after.mutations,
        Settles batch.queuedHashes old new) ∧
      ∀ new ∈ after.mutations, ∃ old ∈ sent.mutations, Settles batch.queuedHashes old new) :
    Refused file after batch := by
  have hNone : ∀ mutation, ¬ file.Names batch.operationIds mutation := by
    intro mutation hNames
    obtain ⟨operationId, hMem, _⟩ := hNames
    rw [hIds] at hMem
    cases hMem
  have hHashes : batch.queuedHashes = [] := by
    unfold OfflinePushBatch.queuedHashes
    rw [hEvents]
    rfl
  have hPassed : ∀ old new, Passed (· = .sending) file batch.missingLocalEventOperationIds
      batch.operationIds old new →
        Passed Unsettled file batch.missingLocalEventOperationIds batch.operationIds old new :=
    fun old new h => ⟨h.identity, h.event, fun hNames => absurd hNames (hNone old), h.lacking,
      h.untouched⟩
  have hSame : ∀ old new, Settles batch.queuedHashes old new → new = old := by
    intro old new h
    apply h.kept
    rw [hHashes]
    rintro ⟨hash, hMem, _⟩
    cases hMem
  constructor
  · intro old hOld
    obtain ⟨middle, hMiddle, hFirst⟩ := hSent.1 old hOld
    obtain ⟨new, hNew, hSecond⟩ := hSettled.1 middle hMiddle
    obtain rfl := hSame middle new hSecond
    exact ⟨new, hNew, hPassed old new hFirst⟩
  · intro new hNew
    obtain ⟨middle, hMiddle, hSecond⟩ := hSettled.2 new hNew
    obtain rfl := hSame middle new hSecond
    obtain ⟨old, hOld, hFirst⟩ := hSent.2 new hMiddle
    exact ⟨old, hOld, hPassed old new hFirst⟩

/-- A queue in which only mutations without a local event were written. -/
theorem refused_of_marked {file marked : OfflineQueueFile} {batch : OfflinePushBatch}
    (hFile : ReadableQueue file)
    (hMissing : Turned Unsettled batch.missingLocalEventOperationIds file marked)
    (hIds : batch.operationIds = []) : Refused file marked batch := by
  have hNothing : Turned Unsettled batch.operationIds marked marked := by
    rw [hIds]
    exact turned_nil hMissing.readable
  have hBoth := hMissing.passed hFile hNothing
  exact ⟨hBoth.1, hBoth.2⟩

section Whole
variable [UuidCrate] [RustFmt] [CanonicalJson] [Sha2Crate]
  {client later : CloudClient} {mode : CloudPushMode} {now : DateTime}
  {reply : CloudPushReply} {file : OfflineQueueFile}

end Whole

section
open Crates

/-- A contact of the logbook that the first device was paired for. -/
def pushedContact : CoreEventEnvelope :=
  CoreEventEnvelope.fromNew (sampleEvent .qsoCreated 2 (some 7) .null) none (sampleStamp 8)

def contactMutation (status : OfflineMutationStatus) : OfflineMutationEnvelope :=
  { OfflineMutationEnvelope.new (sampleInput 2 7) 1 epoch 0 with
    status := status, localEventHash := some pushedContact.eventHash }

/-- A paired client whose log and queue hold the contact. -/
def clientWith (status : OfflineMutationStatus) : CloudClient where
  logbookId := 2
  cloudAuth := some sampleAuth
  localEvents := [pushedContact]
  offlineQueue := Disk.holding { mutations := [contactMutation status] }
  cloudServer := pairedServers.2

theorem errors_of_answer {answer : InMemoryCloudState × Except CloudSyncError
    CloudPushEventsResponse} {server : InMemoryCloudState} {push : CloudPushEventsResponse}
    {errors : List String} (h : answer = (server, .ok push))
    (hErrors : answer.2.toOption.map CloudPushEventsResponse.errors = some errors) :
    push.errors = errors := by
  rw [h] at hErrors
  exact Option.some.inj hErrors

theorem reflectsWhen_contact : ReflectsWhen (clientWith .pending) .manual
    { mutations := [contactMutation .pending] } epoch := by
  let client := clientWith .pending
  let batch := client.batch { mutations := [contactMutation .pending] } epoch
  obtain ⟨hEvents, hHash, hTaken⟩ : batch.events ≠ [] ∧
      pushedContact.eventHash ∈ batch.queuedHashes ∧
        (InMemoryCloudSyncServer.pushEvents client.cloudServer sampleAuth client.logbookId
          (pushedEvents client.localEvents batch) epoch).2.toOption.map
            CloudPushEventsResponse.errors = some [] := by
    decide +kernel
  unfold ReflectsWhen
  dsimp only
  intro _ auth server push hAuth hPush
  have hSame : client.cloudAuth = some sampleAuth := rfl
  obtain rfl := Option.some.inj (hSame.symm.trans hAuth)
  rw [if_pos ⟨hEvents, errors_of_answer hPush hTaken⟩]
  intro mutation hNames _
  obtain ⟨operationId, _, hFound⟩ := hNames
  obtain rfl := List.mem_singleton.mp (OfflineQueueFile.mem_of_findMutation hFound)
  exact ⟨pushedContact.eventHash, hHash, rfl⟩

end
end HamLogger
