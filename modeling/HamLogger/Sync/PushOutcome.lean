import HamLogger.Core.StoreRuns
import HamLogger.Sync.CloudAgreement

/-! What a push leaves in the server in memory and what it reports. The server
takes the longest prefix of the pushed events that its store accepts, and what
it reports of the first event after it is read off the text of an error. -/
namespace HamLogger

/-- The text that the push loop records for a refusal of the store. -/
def StoreError.pushMessage [UuidCrate] [RustFmt] : StoreError → String
  | .duplicateEventConflict eventId =>
      "event id " ++ UuidCrate.display eventId ++ " already exists with different content"
  | error => error.toString

/-- What is wrong with an event that fails the checks. -/
theorem validateSupportedRemoteEvent_error [CanonicalJson] [Sha2Crate] {event : CoreEventEnvelope}
    {error : StoreError} (h : validateSupportedRemoteEvent event = .error error) :
    error = .invalidRemoteHash event.eventId ∨
      error = .unsupportedSchemaVersion event.eventId event.schemaVersion ∨
        error = .unsupportedEventType event.eventId event.eventType := by
  unfold validateSupportedRemoteEvent at h
  split at h
  · exact Or.inl (Except.error.inj h).symm
  · split at h
    · exact Or.inr (Or.inl (Except.error.inj h).symm)
    · split at h
      · exact Or.inr (Or.inr (Except.error.inj h).symm)
      · cases h

namespace InMemoryLogbookEventStore
variable [CanonicalJson] [Sha2Crate]

/-- The store after events that it accepts one after another. -/
def acceptAll (store : InMemoryLogbookEventStore) :
    List CoreEventEnvelope → Option InMemoryLogbookEventStore
  | [] => some store
  | event :: rest =>
      match store.appendVerifiedRemoteEvent event with
      | (later, .ok _) => later.acceptAll rest
      | (_, .error _) => none

/-- The events that the store newly stores, in the order they arrive in. -/
def newlyAccepted (store : InMemoryLogbookEventStore) (events : List CoreEventEnvelope) :
    List CoreEventEnvelope :=
  store.recorded (events.map StoreCall.remote)

/-- The store refuses an event because of what it says itself. -/
theorem appendVerifiedRemoteEvent_error {store later : InMemoryLogbookEventStore}
    {event : CoreEventEnvelope} {error : StoreError}
    (h : store.appendVerifiedRemoteEvent event = (later, .error error)) :
    later = store ∧ (validateSupportedRemoteEvent event = .error error ∨
      validateSupportedRemoteEvent event = .ok () ∧
        ((error = .duplicateEventConflict event.eventId ∧
            ∃ existing, store.getEvent event.eventId = some existing ∧ existing ≠ event) ∨
          (store.getEvent event.eventId = none ∧
            event.previousHash ≠ store.getHead event.logbookId ∧
            error = .remotePreviousHashMismatch event.eventId (store.getHead event.logbookId)
              event.previousHash))) := by
  unfold appendVerifiedRemoteEvent at h
  split at h
  · next other hInvalid =>
      cases h
      exact ⟨rfl, Or.inl hInvalid⟩
  · next hValid =>
      split at h
      · next existing hFound =>
          split at h
          · cases h
          · next hOther =>
              cases h
              exact ⟨rfl, Or.inr ⟨hValid, Or.inl ⟨rfl, existing, hFound, hOther⟩⟩⟩
      · next hNone =>
          dsimp only at h
          split at h
          · next hPrevious =>
              cases h
              exact ⟨rfl, Or.inr ⟨hValid, Or.inr ⟨hNone, hPrevious, rfl⟩⟩⟩
          · cases h

theorem acceptAll_cons_ok {store later : InMemoryLogbookEventStore}
    {event stored : CoreEventEnvelope}
    (h : store.appendVerifiedRemoteEvent event = (later, .ok stored))
    (rest : List CoreEventEnvelope) : store.acceptAll (event :: rest) = later.acceptAll rest := by
  rw [acceptAll, h]

theorem newlyAccepted_cons (store : InMemoryLogbookEventStore) (event : CoreEventEnvelope)
    (rest : List CoreEventEnvelope) :
    store.newlyAccepted (event :: rest) = store.newlyStored (.remote event) ++
      (store.appendVerifiedRemoteEvent event).1.newlyAccepted rest := rfl

/-- What is accepted is held from then on, after what was held before. -/
theorem Represents.acceptAll {store later : InMemoryLogbookEventStore}
    {history events : List CoreEventEnvelope} (h : store.Represents history)
    (hAccept : store.acceptAll events = some later) :
    later.Represents (history ++ store.newlyAccepted events) ∧
      (store.newlyAccepted events).Sublist events ∧
        ∀ event ∈ events, validateSupportedRemoteEvent event = .ok () ∧
          event ∈ history ++ store.newlyAccepted events := by
  induction events generalizing store history with
  | nil =>
      obtain rfl := Option.some.inj hAccept
      refine ⟨?_, List.Sublist.refl _, fun event hMem => by cases hMem⟩
      rw [newlyAccepted, List.map_nil, recorded, List.append_nil]
      exact h
  | cons event rest ih =>
      rcases store.appendVerifiedRemoteEvent_cases event with ⟨error, hError⟩ |
        ⟨hValid, hFound, hOk⟩ | ⟨hValid, hNone, _, hOk⟩
      · rw [InMemoryLogbookEventStore.acceptAll, hError] at hAccept
        cases hAccept
      · rw [acceptAll_cons_ok hOk] at hAccept
        have hNothing : store.newlyStored (.remote event) = [] := by
          simp [newlyStored, perform, hOk, hFound]
        rw [newlyAccepted_cons, hNothing, hOk, List.nil_append]
        obtain ⟨hLater, hSublist, hAll⟩ := ih h hAccept
        refine ⟨hLater, hSublist.cons event, ?_⟩
        intro other hOther
        rcases List.mem_cons.mp hOther with rfl | hRest
        · exact ⟨hValid, List.mem_append_left _ ((h.event _ _).mp hFound).1⟩
        · exact hAll other hRest
      · rw [acceptAll_cons_ok hOk] at hAccept
        have hStored : store.newlyStored (.remote event) = [event] := by
          simp [newlyStored, perform, hOk, hNone]
        obtain ⟨hLater, hSublist, hAll⟩ := ih (h.insertEvent hNone) hAccept
        rw [newlyAccepted_cons, hStored, hOk, List.singleton_append]
        rw [List.append_assoc, List.singleton_append] at hLater hAll
        refine ⟨hLater, hSublist.cons_cons event, ?_⟩
        intro other hOther
        rcases List.mem_cons.mp hOther with rfl | hRest
        · exact ⟨hValid, List.mem_append_right _ List.mem_cons_self⟩
        · exact hAll other hRest

end InMemoryLogbookEventStore

section Loop
variable [UuidCrate] [RustFmt] [CanonicalJson] [Sha2Crate]

/-- The push loop over the store in memory. -/
abbrev storeLoop (store : InMemoryLogbookEventStore) (progress : PushProgress)
    (events : List CoreEventEnvelope) : InMemoryLogbookEventStore × PushProgress :=
  pushLoop InMemoryLogbookEventStore.getEvent
    InMemoryLogbookEventStore.appendVerifiedRemoteEvent store progress events

/-- One turn of the loop: the event is refused, held already, or stored. -/
theorem storeLoop_cases (store : InMemoryLogbookEventStore) (progress : PushProgress)
    (event : CoreEventEnvelope) (rest : List CoreEventEnvelope) :
    (∃ error, store.appendVerifiedRemoteEvent event = (store, .error error) ∧
      storeLoop store progress (event :: rest) = (store, progress.failed error.pushMessage)) ∨
    (store.appendVerifiedRemoteEvent event = (store, .ok event) ∧
      store.newlyStored (.remote event) = [] ∧
      storeLoop store progress (event :: rest) = storeLoop store
        { progress with ignoredDuplicateCount := progress.ignoredDuplicateCount + 1 } rest) ∨
    (store.appendVerifiedRemoteEvent event = (store.insertEvent event, .ok event) ∧
      store.newlyStored (.remote event) = [event] ∧
      storeLoop store progress (event :: rest) = storeLoop (store.insertEvent event)
        { progress with acceptedCount := progress.acceptedCount + 1 } rest) := by
  rcases store.appendVerifiedRemoteEvent_cases event with ⟨error, hError⟩ |
    ⟨hValid, hFound, hOk⟩ | ⟨hValid, hNone, _, hOk⟩
  · left
    refine ⟨error, hError, ?_⟩
    obtain ⟨_, hInvalid | ⟨hValid, ⟨rfl, existing, hFound, hOther⟩ | ⟨hNone, _, rfl⟩⟩⟩ :=
      InMemoryLogbookEventStore.appendVerifiedRemoteEvent_error hError
    · have hMessage : error.pushMessage = error.toString := by
        rcases validateSupportedRemoteEvent_error hInvalid with rfl | rfl | rfl <;> rfl
      rw [hMessage, storeLoop, pushLoop, hInvalid]
    · simp only [storeLoop, pushLoop, hValid, hFound, if_neg hOther]
      rfl
    · simp only [storeLoop, pushLoop, hValid, hNone, hError]
      rfl
  · right; left
    refine ⟨hOk, ?_, ?_⟩
    · simp [InMemoryLogbookEventStore.newlyStored, InMemoryLogbookEventStore.perform, hOk, hFound]
    · simp only [storeLoop, pushLoop, hValid, hFound, if_true]
  · right; right
    refine ⟨hOk, ?_, ?_⟩
    · simp [InMemoryLogbookEventStore.newlyStored, InMemoryLogbookEventStore.perform, hOk, hNone]
    · simp only [storeLoop, pushLoop, hValid, hNone, hOk]

/-- The loop takes a prefix of the events, and ends before an event that the
store refuses. -/
theorem storeLoop_spec (store : InMemoryLogbookEventStore) (progress : PushProgress)
    (events : List CoreEventEnvelope) :
    ∃ before rest later reached, storeLoop store progress events = (later, reached) ∧
      events = before ++ rest ∧ store.acceptAll before = some later ∧
      reached.acceptedCount = progress.acceptedCount + (store.newlyAccepted before).length ∧
      reached.acceptedCount + reached.ignoredDuplicateCount =
        progress.acceptedCount + progress.ignoredDuplicateCount + before.length ∧
      ((rest = [] ∧ reached.errors = progress.errors) ∨
        ∃ event after error, rest = event :: after ∧
          later.appendVerifiedRemoteEvent event = (later, .error error) ∧
          reached.errors = progress.errors ++ [error.pushMessage]) := by
  induction events generalizing store progress with
  | nil => exact ⟨[], [], store, progress, rfl, rfl, rfl, rfl, rfl, Or.inl ⟨rfl, rfl⟩⟩
  | cons event rest ih =>
      rcases storeLoop_cases store progress event rest with ⟨error, hError, hLoop⟩ |
        ⟨hOk, hStored, hLoop⟩ | ⟨hOk, hStored, hLoop⟩
      · exact ⟨[], event :: rest, store, _, hLoop, rfl, rfl, rfl, rfl,
          Or.inr ⟨event, rest, error, rfl, hError, rfl⟩⟩
      · obtain ⟨before, after, later, reached, hRest, hEvents, hAccept, hAccepted, hTotal, hEnd⟩ :=
          ih store _
        refine ⟨event :: before, after, later, reached, hLoop.trans hRest, by rw [hEvents]; rfl,
          (InMemoryLogbookEventStore.acceptAll_cons_ok hOk _).trans hAccept, ?_, ?_, hEnd⟩
        · rw [InMemoryLogbookEventStore.newlyAccepted_cons, hStored, hOk]
          exact hAccepted
        · rw [hTotal, List.length_cons]
          dsimp only
          omega
      · obtain ⟨before, after, later, reached, hRest, hEvents, hAccept, hAccepted, hTotal, hEnd⟩ :=
          ih (store.insertEvent event) _
        refine ⟨event :: before, after, later, reached, hLoop.trans hRest, by rw [hEvents]; rfl,
          (InMemoryLogbookEventStore.acceptAll_cons_ok hOk _).trans hAccept, ?_, ?_, hEnd⟩
        · rw [InMemoryLogbookEventStore.newlyAccepted_cons, hStored, hOk, hAccepted]
          simp only [List.singleton_append, List.length_cons]
          omega
        · rw [hTotal, List.length_cons]
          dsimp only
          omega

end Loop

namespace InMemoryLogbookEventStore
variable [CanonicalJson] [Sha2Crate]

/-- The longest prefix of the events that the store accepts. -/
structure LongestAccepted (store later : InMemoryLogbookEventStore)
    (events before : List CoreEventEnvelope) : Prop where
  starts : before <+: events
  accepted : store.acceptAll before = some later
  longest : ∀ longer, longer <+: events → before.length < longer.length →
    store.acceptAll longer = none

theorem acceptAll_append (store : InMemoryLogbookEventStore)
    (first second : List CoreEventEnvelope) :
    store.acceptAll (first ++ second) =
      (store.acceptAll first).bind fun later => later.acceptAll second := by
  induction first generalizing store with
  | nil => rfl
  | cons event rest ih =>
      rw [List.cons_append, acceptAll, acceptAll]
      rcases store.appendVerifiedRemoteEvent event with ⟨later, outcome⟩
      cases outcome with
      | error error => rfl
      | ok stored => exact ih later

/-- A prefix is the longest one where the event after it is refused. -/
theorem longestAccepted {store later : InMemoryLogbookEventStore}
    {before rest : List CoreEventEnvelope} (hAccept : store.acceptAll before = some later)
    (hEnd : ∀ event after, rest = event :: after →
      ∃ error, later.appendVerifiedRemoteEvent event = (later, .error error)) :
    store.LongestAccepted later (before ++ rest) before where
  starts := List.prefix_append before rest
  accepted := hAccept
  longest longer hLonger hLength := by
    obtain ⟨more, rfl⟩ := List.prefix_of_prefix_length_le (List.prefix_append before rest) hLonger
      hLength.le
    have hMore := (List.prefix_append_right_inj before).mp hLonger
    cases more with
    | nil => simp at hLength
    | cons event others =>
        obtain ⟨last, hRest⟩ := hMore
        obtain ⟨error, hError⟩ := hEnd event (others ++ last) hRest.symm
        rw [acceptAll_append, hAccept, Option.bind_some, acceptAll, hError]

end InMemoryLogbookEventStore

section Server
variable [UuidCrate] [RustFmt] [CanonicalJson] [Sha2Crate]

/-- Events that are held already are counted and change nothing. -/
theorem storeLoop_held {store : InMemoryLogbookEventStore} {held : List CoreEventEnvelope}
    (h : ∀ event ∈ held, validateSupportedRemoteEvent event = .ok () ∧
      store.getEvent event.eventId = some event)
    (progress : PushProgress) (rest : List CoreEventEnvelope) :
    storeLoop store progress (held ++ rest) = storeLoop store
      { progress with
        ignoredDuplicateCount := progress.ignoredDuplicateCount + held.length } rest := by
  induction held generalizing progress with
  | nil => rfl
  | cons event others ih =>
      obtain ⟨hValid, hFound⟩ := h event List.mem_cons_self
      have hTurn : storeLoop store progress (event :: (others ++ rest)) = storeLoop store
          { progress with ignoredDuplicateCount := progress.ignoredDuplicateCount + 1 }
          (others ++ rest) := by
        simp only [storeLoop, pushLoop, hValid, hFound, if_true]
      rw [List.cons_append, hTurn,
        ih fun other hOther => h other (List.mem_cons_of_mem event hOther)]
      simp only [List.length_cons, Nat.add_assoc, Nat.add_comm 1]

/-- The events of a push, sent once more at each of some times. -/
def redeliver (state : InMemoryCloudState) (auth : CloudAuth) (logbookId : Uuid)
    (events : List CoreEventEnvelope) (times : List DateTime) : InMemoryCloudState :=
  times.foldl (fun state now =>
    (InMemoryCloudSyncServer.pushEvents state auth logbookId events now).1) state

/-- What a push that the server answers did. -/
theorem pushEvents_ok {state later : InMemoryCloudState} {auth : CloudAuth} {logbookId : Uuid}
    {events : List CoreEventEnvelope} {now : DateTime} {response : CloudPushEventsResponse}
    (h : InMemoryCloudSyncServer.pushEvents state auth logbookId events now =
      (later, .ok response)) :
    (∀ event ∈ events, event.logbookId = logbookId) ∧
      ∃ store progress, storeLoop state.store {} events = (store, progress) ∧
        later = { state with store := store } ∧
        response = progress.response (store.getHead logbookId) := by
  unfold InMemoryCloudSyncServer.pushEvents at h
  split at h
  · cases h
  · split at h
    · cases h
    · next hOwn =>
        cases h
        refine ⟨?_, _, _, rfl, rfl, rfl⟩
        intro event hEvent
        by_contra hOther
        exact hOwn (List.any_eq_true.mpr ⟨event, hEvent, by simpa using hOther⟩)

/-- Where the device may push, and only its logbook is pushed, the server
answers. -/
theorem pushEvents_answers {state : InMemoryCloudState} {auth : CloudAuth} {logbookId : Uuid}
    {events : List CoreEventEnvelope} {now : DateTime} {session : CloudSession}
    (hSession : authorizeLogbook (InMemoryCloudSyncServer.authorize state.auth auth now)
      logbookId = .ok session) (hOwn : ∀ event ∈ events, event.logbookId = logbookId) :
    ∃ later response, InMemoryCloudSyncServer.pushEvents state auth logbookId events now =
      (later, .ok response) := by
  have hAll : events.any (fun event => event.logbookId ≠ logbookId) = false := by
    rw [List.any_eq_false]
    intro event hEvent hOther
    exact of_decide_eq_true hOther (hOwn event hEvent)
  unfold InMemoryCloudSyncServer.pushEvents
  rw [hSession]
  dsimp only
  rw [hAll]
  exact ⟨_, _, rfl⟩

/-- The server takes the longest prefix of a push that its store accepts, and
nothing of the same push when it arrives again. -/
theorem push_takes_longest_run {state later : InMemoryCloudState} {auth : CloudAuth}
    {logbookId : Uuid} {events : List CoreEventEnvelope} {now : DateTime}
    {response : CloudPushEventsResponse} (hStore : state.store.Consistent)
    (hPush : InMemoryCloudSyncServer.pushEvents state auth logbookId events now =
      (later, .ok response)) :
    (∃ before, state.store.LongestAccepted later.store events before ∧
      (state.store.newlyAccepted before).Sublist before ∧
      later.store.listEvents logbookId =
        state.store.listEvents logbookId ++ state.store.newlyAccepted before ∧
      (∀ other, other ≠ logbookId →
        later.store.listEvents other = state.store.listEvents other) ∧
      response.acceptedCount = (state.store.newlyAccepted before).length ∧
      response.acceptedCount + response.ignoredDuplicateCount = before.length) ∧
    (∀ times, redeliver later auth logbookId events times = later) ∧
    ∀ again session,
      authorizeLogbook (InMemoryCloudSyncServer.authorize later.auth auth again) logbookId =
        .ok session →
      ∃ second, InMemoryCloudSyncServer.pushEvents later auth logbookId events again =
        (later, .ok second) ∧ second.acceptedCount = 0 ∧ second.status = response.status := by
  obtain ⟨hOwn, store, progress, hLoop, rfl, rfl⟩ := pushEvents_ok hPush
  obtain ⟨history, hHistory⟩ := hStore
  obtain ⟨before, rest, last, reached, hReached, rfl, hAccept, hAccepted, hTotal, hEnd⟩ :=
    storeLoop_spec state.store {} events
  obtain ⟨rfl, rfl⟩ := Prod.mk.inj (hReached.symm.trans hLoop)
  obtain ⟨hLater, hSublist, hHeld⟩ := hHistory.acceptAll hAccept
  have hNewOwn : ∀ event ∈ state.store.newlyAccepted before, event.logbookId = logbookId :=
    fun event hEvent => hOwn event (List.mem_append_left rest (hSublist.subset hEvent))
  -- the loop over the same events finds the prefix and then the same refusal
  have hAgain : ∃ second, storeLoop last {} (before ++ rest) = (last, second) ∧
      second.acceptedCount = 0 ∧ second.errors = reached.errors := by
    rw [storeLoop_held fun event hEvent =>
      ⟨(hHeld event hEvent).1, hLater.getEvent_of_mem (hHeld event hEvent).2⟩]
    rcases hEnd with ⟨rfl, hErrors⟩ | ⟨event, after, error, rfl, hError, hErrors⟩
    · exact ⟨_, rfl, rfl, hErrors.symm⟩
    · rcases storeLoop_cases last _ event after with ⟨other, hOther, hTurn⟩ | ⟨hOk, _, _⟩ |
        ⟨hOk, _, _⟩
      · obtain rfl := Except.error.inj (congrArg Prod.snd (hError.symm.trans hOther))
        exact ⟨_, hTurn, rfl, hErrors.symm⟩
      · cases congrArg Prod.snd (hError.symm.trans hOk)
      · cases congrArg Prod.snd (hError.symm.trans hOk)
  obtain ⟨second, hSecond, hNone, hErrors⟩ := hAgain
  have hAnswer : ∀ again session,
      authorizeLogbook (InMemoryCloudSyncServer.authorize state.auth auth again) logbookId =
          .ok session →
        InMemoryCloudSyncServer.pushEvents { state with store := last } auth logbookId
          (before ++ rest) again =
            ({ state with store := last }, .ok (second.response (last.getHead logbookId))) := by
    intro again session hSession
    have hNoOther : ((before ++ rest).any fun event => event.logbookId ≠ logbookId) = false := by
      rw [List.any_eq_false]
      intro event hEvent
      simpa using hOwn event hEvent
    unfold InMemoryCloudSyncServer.pushEvents
    dsimp only
    rw [hSession, hNoOther]
    dsimp only
    rw [show pushLoop InMemoryLogbookEventStore.getEvent
      InMemoryLogbookEventStore.appendVerifiedRemoteEvent last {} (before ++ rest) =
        (last, second) from hSecond]
    rfl
  refine ⟨⟨before, ?_, hSublist, ?_, ?_, ?_, ?_⟩, ?_, ?_⟩
  · refine InMemoryLogbookEventStore.longestAccepted hAccept ?_
    rintro event after rfl
    rcases hEnd with ⟨hNil, _⟩ | ⟨_, _, error, hCons, hError, _⟩
    · cases hNil
    · cases hCons
      exact ⟨error, hError⟩
  · rw [hLater.listEvents, hHistory.listEvents, ofLogbook_append, ofLogbook_self hNewOwn]
  · intro other hOther
    rw [hLater.listEvents, hHistory.listEvents, ofLogbook_append,
      ofLogbook_eq_nil hNewOwn hOther, List.append_nil]
  · simpa [PushProgress.response] using hAccepted
  · simpa [PushProgress.response] using hTotal
  · intro times
    induction times with
    | nil => rfl
    | cons again times ih =>
        have hSame : (InMemoryCloudSyncServer.pushEvents { state with store := last } auth logbookId
            (before ++ rest) again).1 = { state with store := last } := by
          cases hSession : authorizeLogbook
              (InMemoryCloudSyncServer.authorize state.auth auth again) logbookId with
          | error error =>
              unfold InMemoryCloudSyncServer.pushEvents
              dsimp only
              rw [hSession]
          | ok session => rw [hAnswer again session hSession]
        rw [redeliver, List.foldl_cons, hSame]
        exact ih
  · intro again session hSession
    exact ⟨_, hAnswer again session hSession, hNone, by rw [PushProgress.response, hErrors]; rfl⟩

end Server
/-! What the status of a push says. -/

/-- The first of some events that the store refuses, with the reason. -/
def InMemoryLogbookEventStore.offending [CanonicalJson] [Sha2Crate]
    (store : InMemoryLogbookEventStore) :
    List CoreEventEnvelope → Option (CoreEventEnvelope × StoreError)
  | [] => none
  | event :: rest =>
      match store.appendVerifiedRemoteEvent event with
      | (later, .ok _) => later.offending rest
      | (_, .error error) => some (event, error)

/-- An event does not continue the head that the store has. -/
def StoreError.IsDivergence : StoreError → Prop
  | .remotePreviousHashMismatch .. => True
  | _ => False

/-- A push is diverged where its offending event does not continue the head,
and rejected where that event is refused for another reason. -/
def ClassedRightly [CanonicalJson] [Sha2Crate] (store : InMemoryLogbookEventStore)
    (events : List CoreEventEnvelope) (status : ReplicationStatus) : Prop :=
  (status = .diverged ↔ ∃ event error, store.offending events = some (event, error) ∧
      error.IsDivergence) ∧
    (status = .rejected ↔ ∃ event error, store.offending events = some (event, error) ∧
      ¬ error.IsDivergence)

/-- The text says what the text of a divergence says. -/
def SaysDiverged (text : String) : Prop :=
  containsText text "does not connect" = true ∨ containsText text "previous hash" = true

/-- Identifiers are displayed with hexadecimal digits and hyphens. -/
def DisplaysHexadecimal [UuidCrate] : Prop :=
  ∀ id, ∀ c ∈ (UuidCrate.display id).toList, c.isDigit = true ∨ c ∈ "abcdef-".toList

/-- A character that the text of an identifier or a number has not. -/
def isLetter (c : Char) : Bool := !(c.isDigit || decide (c ∈ "abcdef-".toList))

section Texts

theorem containsText_append_left {text part : String} (first : String)
    (h : containsText text part = true) : containsText (first ++ text) part = true := by
  unfold containsText at h ⊢
  rw [decide_eq_true_iff] at h ⊢
  rw [String.toList_append]
  exact h.trans List.infix_append_right

theorem containsText_append_right {text part : String} (last : String)
    (h : containsText text part = true) : containsText (text ++ last) part = true := by
  unfold containsText at h ⊢
  rw [decide_eq_true_iff] at h ⊢
  rw [String.toList_append]
  exact h.trans List.infix_append_left

/-- A phrase that occurs in a text after a fixed part occurs in the text or in
the fixed part, where no end of that part starts the phrase. -/
theorem containsText_append {fixed ending part text : String}
    (hLength : part.length ≤ ending.length)
    (hEnds : ∀ count ≤ part.length, count ≠ 0 →
      ¬ part.toList.take count <:+ ending.toList)
    (h : containsText (fixed ++ ending ++ text) part = true) :
    containsText (fixed ++ ending) part = true ∨ containsText text part = true := by
  unfold containsText at h ⊢
  rw [decide_eq_true_iff] at h ⊢
  rw [decide_eq_true_iff]
  rw [String.toList_append] at h
  rcases List.infix_append_iff.mp h with hFixed | hText | ⟨first, second, hPart, hFirst, hSecond⟩
  · exact Or.inl hFixed
  · exact Or.inr hText
  · cases hEmpty : first.length with
    | zero =>
        obtain rfl := List.length_eq_zero_iff.mp hEmpty
        rw [hPart]
        exact Or.inr hSecond.isInfix
    | succ n =>
        have hCount : first.length ≤ part.length := by
          rw [← String.length_toList, hPart, List.length_append]
          omega
        have hTake : part.toList.take first.length = first := by
          rw [hPart, List.take_left]
        rw [String.toList_append] at hFirst
        have hEnding : first <:+ ending.toList := by
          refine List.suffix_of_suffix_length_le hFirst (List.suffix_append _ _) ?_
          rw [String.length_toList]
          omega
        refine absurd ?_ (hEnds first.length hCount (by omega))
        rw [hTake]
        exact hEnding

theorem not_containsText {text part : String} {letters : List Char}
    (hLetters : text.toList.filter isLetter = letters)
    (h : ¬ part.toList.filter isLetter <:+: letters) : containsText text part = false := by
  unfold containsText
  rw [decide_eq_false_iff_not]
  intro hInfix
  exact h (hLetters ▸ hInfix.filter isLetter)

theorem pushReplicationStatus_singleton (error : String) :
    (pushReplicationStatus [error] = .diverged ↔ SaysDiverged error) ∧
      (pushReplicationStatus [error] = .rejected ↔ ¬ SaysDiverged error) := by
  unfold pushReplicationStatus SaysDiverged
  by_cases hConnect : containsText error "does not connect" = true
  · simp [hConnect]
  · by_cases hPrevious : containsText error "previous hash" = true
    · simp [hPrevious]
    · simp [hConnect, hPrevious]

theorem letters_repr (n : Nat) : (Nat.repr n).toList.filter isLetter = [] := by
  rw [List.filter_eq_nil_iff]
  intro c hMem
  have hDigits : c ∈ Nat.toDigits 10 n := by simpa [Nat.repr] using hMem
  have hDigit := Nat.isDigit_of_mem_toDigits (by decide) (by decide) hDigits
  simp [isLetter, hDigit]

variable [UuidCrate]

theorem letters_display (hDisplay : DisplaysHexadecimal) (id : Uuid) :
    (UuidCrate.display id).toList.filter isLetter = [] := by
  rw [List.filter_eq_nil_iff]
  intro c hMem
  unfold isLetter
  rcases hDisplay id c hMem with hDigit | hOther
  · simp [hDigit]
  · simp only [hOther, decide_true, Bool.or_true, Bool.not_true, Bool.false_eq_true,
      not_false_eq_true]

/-- The fixed parts of a text say nothing of a divergence, and neither does an
identifier between them. -/
theorem not_saysDiverged (hDisplay : DisplaysHexadecimal) {before after : String} (id : Uuid)
    {letters : List Char}
    (hLetters : before.toList.filter isLetter ++ after.toList.filter isLetter = letters)
    (hConnect : ¬ "does not connect".toList.filter isLetter <:+: letters)
    (hPrevious : ¬ "previous hash".toList.filter isLetter <:+: letters) :
    ¬ SaysDiverged (before ++ UuidCrate.display id ++ after) := by
  have hAll : (before ++ UuidCrate.display id ++ after).toList.filter isLetter = letters := by
    rw [String.toList_append, String.toList_append, List.filter_append, List.filter_append,
      letters_display hDisplay, List.append_nil]
    exact hLetters
  unfold SaysDiverged
  rw [not_containsText hAll hConnect, not_containsText hAll hPrevious]
  simp

theorem saysDiverged_eventType (hDisplay : DisplaysHexadecimal) (id : Uuid) (name : String) :
    SaysDiverged ("remote event " ++ UuidCrate.display id ++ " has unsupported event type " ++
      name) ↔ SaysDiverged name := by
  have hFixed : ¬ SaysDiverged ("remote event " ++ UuidCrate.display id ++
      " has unsupported event type ") := not_saysDiverged hDisplay _ rfl (by decide) (by decide)
  unfold SaysDiverged at hFixed ⊢
  rw [not_or] at hFixed
  constructor
  · rintro (hConnect | hPrevious)
    · exact Or.inl ((containsText_append (by decide) (by decide) hConnect).resolve_left hFixed.1)
    · exact Or.inr ((containsText_append (by decide) (by decide) hPrevious).resolve_left hFixed.2)
  · rintro (hConnect | hPrevious)
    · exact Or.inl (containsText_append_left _ hConnect)
    · exact Or.inr (containsText_append_left _ hPrevious)

/-- The text of a refusal says what the text of a divergence says just where
it is one, or where the type of the event says it. -/
theorem saysDiverged_pushMessage_iff [RustFmt] [CanonicalJson] [Sha2Crate]
    (hDisplay : DisplaysHexadecimal) {store later : InMemoryLogbookEventStore}
    {event : CoreEventEnvelope} {error : StoreError}
    (h : store.appendVerifiedRemoteEvent event = (later, .error error)) :
    SaysDiverged error.pushMessage ↔ error.IsDivergence ∨
      (error = .unsupportedEventType event.eventId event.eventType ∧
        SaysDiverged event.eventType.name) := by
  obtain ⟨_, hInvalid | ⟨_, ⟨rfl, _⟩ | ⟨_, _, rfl⟩⟩⟩ :=
    InMemoryLogbookEventStore.appendVerifiedRemoteEvent_error h
  · rcases validateSupportedRemoteEvent_error hInvalid with rfl | rfl | rfl
    · refine iff_of_false ?_ (by simp [StoreError.IsDivergence])
      exact not_saysDiverged hDisplay _ rfl (by decide) (by decide)
    · refine iff_of_false ?_ (by simp [StoreError.IsDivergence])
      have hText : StoreError.pushMessage (.unsupportedSchemaVersion event.eventId
          event.schemaVersion) = "remote event " ++ UuidCrate.display event.eventId ++
            (" uses unsupported schema version " ++ Nat.repr event.schemaVersion.toNat) :=
        String.append_assoc
      rw [hText]
      have hLetters : "remote event ".toList.filter isLetter ++
          (" uses unsupported schema version " ++
            Nat.repr event.schemaVersion.toNat).toList.filter isLetter =
              "rmot vnt  uss unsupport shm vrsion ".toList := by
        rw [String.toList_append, List.filter_append, letters_repr, List.append_nil]
        rfl
      exact not_saysDiverged hDisplay _ hLetters (by decide) (by decide)
    · rw [or_iff_right (show ¬ StoreError.IsDivergence _ from id), and_iff_right rfl]
      exact saysDiverged_eventType hDisplay event.eventId event.eventType.name
  · refine iff_of_false ?_ (by simp [StoreError.IsDivergence])
    exact not_saysDiverged hDisplay _ rfl (by decide) (by decide)
  · refine iff_of_true (Or.inr ?_) (Or.inl trivial)
    refine containsText_append_right _ (containsText_append_right _
      (containsText_append_right _ (containsText_append_left _ ?_)))
    decide

end Texts

section Status
variable [UuidCrate] [RustFmt] [CanonicalJson] [Sha2Crate]

/-- The loop ends at the offending event, or there is none. -/
theorem storeLoop_errors (store : InMemoryLogbookEventStore) (progress : PushProgress)
    (events : List CoreEventEnvelope) :
    (store.offending events = none ∧ (storeLoop store progress events).2.errors =
      progress.errors) ∨
    ∃ event error, ∃ later : InMemoryLogbookEventStore,
      store.offending events = some (event, error) ∧
      later.appendVerifiedRemoteEvent event = (later, .error error) ∧
      (storeLoop store progress events).2.errors = progress.errors ++ [error.pushMessage] := by
  induction events generalizing store progress with
  | nil => exact Or.inl ⟨rfl, rfl⟩
  | cons event rest ih =>
      rcases storeLoop_cases store progress event rest with ⟨error, hError, hLoop⟩ |
        ⟨hOk, _, hLoop⟩ | ⟨hOk, _, hLoop⟩
      · refine Or.inr ⟨event, error, store, ?_, hError, by rw [hLoop]; rfl⟩
        rw [InMemoryLogbookEventStore.offending, hError]
      · rw [InMemoryLogbookEventStore.offending, hOk, hLoop]
        exact ih store _
      · rw [InMemoryLogbookEventStore.offending, hOk, hLoop]
        exact ih _ _

/-- The status of a push is right just where the type of the offending event
does not say what the text of a divergence says. -/
theorem push_classed_rightly_iff (hDisplay : DisplaysHexadecimal)
    {state later : InMemoryCloudState} {auth : CloudAuth} {logbookId : Uuid}
    {events : List CoreEventEnvelope} {now : DateTime} {response : CloudPushEventsResponse}
    (hPush : InMemoryCloudSyncServer.pushEvents state auth logbookId events now =
      (later, .ok response)) :
    ClassedRightly state.store events response.status ↔
      ∀ event, state.store.offending events =
          some (event, .unsupportedEventType event.eventId event.eventType) →
        ¬ SaysDiverged event.eventType.name := by
  obtain ⟨_, store, progress, hLoop, _, rfl⟩ := pushEvents_ok hPush
  have hProgress : (storeLoop state.store {} events).2 = progress := congrArg Prod.snd hLoop
  unfold ClassedRightly PushProgress.response
  dsimp only
  rcases storeLoop_errors state.store {} events with ⟨hNone, hErrors⟩ |
    ⟨event, error, last, hSome, hError, hErrors⟩
  · rw [hProgress] at hErrors
    rw [hNone, hErrors]
    refine iff_of_true ?_ (fun event h => by cases h)
    simp [pushReplicationStatus]
  · rw [hProgress] at hErrors
    have hStatus := pushReplicationStatus_singleton error.pushMessage
    have hMessage := saysDiverged_pushMessage_iff hDisplay hError
    have hOwn : ∀ P : StoreError → Prop, (∃ other reason,
        state.store.offending events = some (other, reason) ∧ P reason) ↔ P error := by
      intro P
      rw [hSome]
      constructor
      · rintro ⟨other, reason, hSame, hReason⟩
        obtain ⟨rfl, rfl⟩ := Prod.mk.inj (Option.some.inj hSame)
        exact hReason
      · intro hReason
        exact ⟨event, error, rfl, hReason⟩
    have hType : (∀ other, state.store.offending events =
        some (other, .unsupportedEventType other.eventId other.eventType) →
          ¬ SaysDiverged other.eventType.name) ↔
        ¬ (error = .unsupportedEventType event.eventId event.eventType ∧
          SaysDiverged event.eventType.name) := by
      rw [hSome]
      constructor
      · rintro h ⟨rfl, hSays⟩
        exact h event rfl hSays
      · intro h other hSame hSays
        obtain ⟨rfl, rfl⟩ := Prod.mk.inj (Option.some.inj hSame)
        exact h ⟨rfl, hSays⟩
    rw [hErrors, List.nil_append, hStatus.1, hStatus.2, hMessage, hType,
      hOwn StoreError.IsDivergence, hOwn fun reason => ¬ reason.IsDivergence]
    by_cases hOdd : error = .unsupportedEventType event.eventId event.eventType ∧
        SaysDiverged event.eventType.name
    · have hOther : ¬ error.IsDivergence := by
        rw [hOdd.1]
        exact id
      rw [iff_true_intro hOdd]
      simp only [hOther, or_true, true_iff, false_and, not_true_eq_false]
    · simp only [hOdd, or_false, and_self, not_false_eq_true]

end Status

section
open Crates

/-- A contact for the logbook that the first device was paired for. -/
def deliveredContact : CoreEventEnvelope :=
  CoreEventEnvelope.fromNew (sampleEvent .qsoCreated 2 (some 7) .null) none (sampleStamp 8)

/-- An event of an unknown type, with a right hash. -/
def oddEvent : CoreEventEnvelope :=
  CoreEventEnvelope.fromNew (sampleEvent (.other "previous hash" (by decide)) 2 none .null) none
    (sampleStamp 9)

theorem displaysHexadecimal : DisplaysHexadecimal := by
  have hHex : ∀ digit < 16,
      (hexDigit digit).isDigit = true ∨ hexDigit digit ∈ "abcdef-".toList := by
    decide
  intro id c hMem
  have hDigit : ∀ c ∈ (List.range 32).map (uuidDigit id),
      c.isDigit = true ∨ c ∈ "abcdef-".toList := by
    intro c hMem
    obtain ⟨index, _, rfl⟩ := List.mem_map.mp hMem
    exact hHex _ (Nat.mod_lt _ (by decide))
  have hHyphen : '-' ∈ "abcdef-".toList := by decide
  have hDisplayed : c ∈ (displayUuid id).toList := hMem
  rw [displayUuid, String.toList_ofList] at hDisplayed
  simp only [List.mem_append, List.mem_cons] at hDisplayed
  rcases hDisplayed with (((hPart | rfl | hPart) | rfl | hPart) | rfl | hPart) | rfl | hPart
  · exact hDigit c (List.mem_of_mem_take hPart)
  · exact Or.inr hHyphen
  · exact hDigit c (List.mem_of_mem_drop (List.mem_of_mem_take hPart))
  · exact Or.inr hHyphen
  · exact hDigit c (List.mem_of_mem_drop (List.mem_of_mem_take hPart))
  · exact Or.inr hHyphen
  · exact hDigit c (List.mem_of_mem_drop (List.mem_of_mem_take hPart))
  · exact Or.inr hHyphen
  · exact hDigit c (List.mem_of_mem_drop hPart)

theorem sampleAuth_authorized : ∃ session, authorizeLogbook
    (InMemoryCloudSyncServer.authorize pairedServers.2.auth sampleAuth epoch) 2 = .ok session := by
  have hSome : (authorizeLogbook (InMemoryCloudSyncServer.authorize pairedServers.2.auth
      sampleAuth epoch) 2).toOption.isSome = true := by decide +kernel
  obtain ⟨session, hSession⟩ := Option.isSome_iff_exists.mp hSome
  exact ⟨session, (except_toOption_eq_some_iff _ _).mp hSession⟩

/-- A contact and an event that is refused after it. -/
theorem push_takes_longest_run_contact :
    ∃ later response, InMemoryCloudSyncServer.pushEvents pairedServers.2 sampleAuth 2
        [deliveredContact, oddEvent] epoch = (later, .ok response) ∧
      redeliver later sampleAuth 2 [deliveredContact, oddEvent] [epoch, epoch] = later := by
  obtain ⟨session, hSession⟩ := sampleAuth_authorized
  have hOwn : ∀ event ∈ [deliveredContact, oddEvent], event.logbookId = 2 := by
    intro event hEvent
    rcases List.mem_cons.mp hEvent with rfl | hOdd
    · rfl
    · rw [List.mem_singleton.mp hOdd]
      rfl
  obtain ⟨later, response, hPush⟩ := pushEvents_answers hSession hOwn
  refine ⟨later, response, hPush, ?_⟩
  exact (push_takes_longest_run
    ⟨[], InMemoryLogbookEventStore.represents_empty⟩ hPush).2.1 [epoch, epoch]

/-- The contact is no offending event. -/
theorem push_classed_rightly_iff_contact :
    ∃ later response, InMemoryCloudSyncServer.pushEvents pairedServers.2 sampleAuth 2
        [deliveredContact] epoch = (later, .ok response) ∧
      ClassedRightly pairedServers.2.store [deliveredContact] response.status := by
  obtain ⟨session, hSession⟩ := sampleAuth_authorized
  have hOwn : ∀ event ∈ [deliveredContact], event.logbookId = 2 := by
    intro event hEvent
    rw [List.mem_singleton.mp hEvent]
    rfl
  have hNone : pairedServers.2.store.offending [deliveredContact] = none := by
    have hValid : validateSupportedRemoteEvent deliveredContact = .ok () :=
      (validateSupportedRemoteEvent_fromNew _ _ _).mpr ⟨rfl, by decide⟩
    rw [InMemoryLogbookEventStore.offending,
      InMemoryLogbookEventStore.appendVerifiedRemoteEvent_new hValid rfl rfl]
    rfl
  obtain ⟨later, response, hPush⟩ := pushEvents_answers hSession hOwn
  refine ⟨later, response, hPush, (push_classed_rightly_iff displaysHexadecimal hPush).mpr ?_⟩
  intro event hEvent
  cases hNone.symm.trans hEvent

/-- An event of an unknown type is refused for its type and reported as a
divergence. -/
theorem odd_type_reported_diverged :
    ∃ later response, InMemoryCloudSyncServer.pushEvents pairedServers.2 sampleAuth 2
        [oddEvent] epoch = (later, .ok response) ∧
      ¬ ClassedRightly pairedServers.2.store [oddEvent] response.status := by
  have hStatus : (InMemoryCloudSyncServer.pushEvents pairedServers.2 sampleAuth 2
      [oddEvent] epoch).2.toOption.map CloudPushEventsResponse.status = some .diverged := by
    decide +kernel
  have hRefused : pairedServers.2.store.offending [oddEvent] =
      some (oddEvent, .unsupportedEventType oddEvent.eventId oddEvent.eventType) := by
    have hHash : oddEvent.hashIsValid = true := CoreEventEnvelope.fromNew_hashIsValid _ _ _
    have hInvalid : validateSupportedRemoteEvent oddEvent =
        .error (.unsupportedEventType oddEvent.eventId oddEvent.eventType) := by
      unfold validateSupportedRemoteEvent
      rw [if_neg (by rw [hHash]; decide), if_neg (fun h => h rfl), if_pos (by decide)]
    rw [InMemoryLogbookEventStore.offending, InMemoryLogbookEventStore.appendVerifiedRemoteEvent,
      hInvalid]
  rcases hPush : InMemoryCloudSyncServer.pushEvents pairedServers.2 sampleAuth 2
      [oddEvent] epoch with ⟨later, answer⟩
  rw [hPush] at hStatus
  cases answer with
  | error error => cases hStatus
  | ok response =>
      refine ⟨later, response, rfl, fun hRight => ?_⟩
      obtain ⟨event, error, hOffending, hDivergence⟩ := hRight.1.mp (Option.some.inj hStatus)
      cases hRefused.symm.trans hOffending
      exact hDivergence

end
end HamLogger
