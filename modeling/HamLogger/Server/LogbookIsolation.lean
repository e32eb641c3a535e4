import HamLogger.Core.StoreRuns
import HamLogger.Server.ImportSteps

/-! What the events of other logbooks change for the synchronisation of a
logbook. All logbooks share one index of event identifiers, so an event whose
identifier is taken in another logbook is refused. -/
namespace HamLogger

open Program

namespace InMemoryLogbookEventStore

/-- Two stores with the same events in a logbook. -/
def Alike (logbookId : Uuid) (first second : InMemoryLogbookEventStore) : Prop :=
  ∃ events others, first.Represents events ∧ second.Represents others ∧
    ofLogbook events logbookId = ofLogbook others logbookId

/-- An event of another logbook has the identifier. -/
def TakenElsewhere (store : InMemoryLogbookEventStore) (logbookId eventId : Uuid) : Prop :=
  ∃ existing, store.getEvent eventId = some existing ∧ existing.logbookId ≠ logbookId

variable {logbookId : Uuid} {first second : InMemoryLogbookEventStore}

theorem alike_of_listEvents (hFirst : first.Consistent) (hSecond : second.Consistent)
    (h : first.listEvents logbookId = second.listEvents logbookId) :
    Alike logbookId first second := by
  obtain ⟨events, hEvents⟩ := hFirst
  obtain ⟨others, hOthers⟩ := hSecond
  rw [hEvents.listEvents, hOthers.listEvents] at h
  exact ⟨events, others, hEvents, hOthers, h⟩

/-- A logbook that has no entry is verified like one with an empty list. -/
theorem Represents.verifyChain_eq [CanonicalJson] [Sha2Crate] {store : InMemoryLogbookEventStore}
    {history : List CoreEventEnvelope} (h : store.Represents history) (logbookId : Uuid) :
    store.verifyChain logbookId =
      match store.verifyEvents ((ofLogbook history logbookId).map CoreEventEnvelope.eventId)
          none with
      | .error error => .error error
      | .ok actualHead =>
          if store.heads.lookup logbookId ≠ actualHead then
            .error (.chainVerification (.headMismatch (store.heads.lookup logbookId) actualHead))
          else .ok () := by
  have hIds := h.logbook logbookId
  have hHead : store.heads.lookup logbookId = _ := h.head logbookId
  unfold verifyChain
  cases hLookup : store.eventsByLogbook.lookup logbookId with
  | some eventIds =>
      rw [hLookup, Option.getD_some] at hIds
      subst hIds
      rfl
  | none =>
      have hEmpty : ofLogbook history logbookId = [] := by simpa [hLookup] using hIds.symm
      rw [hHead, hEmpty]
      simp [verifyEvents]

namespace Alike

theorem symm (h : Alike logbookId first second) : Alike logbookId second first := by
  obtain ⟨events, others, hEvents, hOthers, hSame⟩ := h
  exact ⟨others, events, hOthers, hEvents, hSame.symm⟩

theorem listEvents (h : Alike logbookId first second) :
    first.listEvents logbookId = second.listEvents logbookId := by
  obtain ⟨events, others, hEvents, hOthers, hSame⟩ := h
  rw [hEvents.listEvents, hOthers.listEvents, hSame]

theorem getHead (h : Alike logbookId first second) :
    first.getHead logbookId = second.getHead logbookId := by
  obtain ⟨events, others, hEvents, hOthers, hSame⟩ := h
  rw [hEvents.head, hOthers.head, hSame]

/-- An event of the logbook is found in both stores. -/
theorem getEvent_own (h : Alike logbookId first second) {eventId : Uuid}
    {existing : CoreEventEnvelope} (hFound : first.getEvent eventId = some existing)
    (hOwn : existing.logbookId = logbookId) : second.getEvent eventId = some existing := by
  obtain ⟨events, others, hEvents, hOthers, hSame⟩ := h
  obtain ⟨hMem, hId⟩ := (hEvents.event eventId existing).mp hFound
  have hListed : existing ∈ ofLogbook events logbookId := mem_ofLogbook.mpr ⟨hMem, hOwn⟩
  rw [hSame] at hListed
  exact (hOthers.event eventId existing).mpr ⟨(mem_ofLogbook.mp hListed).1, hId⟩

/-- An identifier that is not taken in another logbook is not taken at all, or
by an event of the logbook. -/
theorem getEvent_none (h : Alike logbookId first second) {eventId : Uuid}
    (hFirst : first.TakenElsewhere logbookId eventId ∨ first.getEvent eventId = none)
    (hSecond : ¬ second.TakenElsewhere logbookId eventId) : second.getEvent eventId = none := by
  cases hFound : second.getEvent eventId with
  | none => rfl
  | some existing =>
      have hOwn : existing.logbookId = logbookId := by
        by_contra hOther
        exact hSecond ⟨existing, hFound, hOther⟩
      have hBoth := h.symm.getEvent_own hFound hOwn
      rcases hFirst with ⟨other, hOther, hElsewhere⟩ | hNone
      · rw [hBoth] at hOther
        exact absurd (Option.some.inj hOther ▸ hOwn) hElsewhere
      · rw [hBoth] at hNone
        cases hNone

theorem getEvent (h : Alike logbookId first second) {eventId : Uuid}
    (hFirst : ¬ first.TakenElsewhere logbookId eventId)
    (hSecond : ¬ second.TakenElsewhere logbookId eventId) :
    first.getEvent eventId = second.getEvent eventId := by
  cases hFound : first.getEvent eventId with
  | none => exact (h.getEvent_none (Or.inr hFound) hSecond).symm
  | some existing =>
      have hOwn : existing.logbookId = logbookId := by
        by_contra hOther
        exact hFirst ⟨existing, hFound, hOther⟩
      exact (h.getEvent_own hFound hOwn).symm

theorem insertEvent (h : Alike logbookId first second) {event : CoreEventEnvelope}
    (hFirst : first.getEvent event.eventId = none)
    (hSecond : second.getEvent event.eventId = none) :
    Alike logbookId (first.insertEvent event) (second.insertEvent event) := by
  obtain ⟨events, others, hEvents, hOthers, hSame⟩ := h
  refine ⟨_, _, hEvents.insertEvent hFirst, hOthers.insertEvent hSecond, ?_⟩
  rw [ofLogbook_append, ofLogbook_append, hSame]

variable [CanonicalJson] [Sha2Crate]

/-- Stores that have the same event under an identifier append alike. -/
theorem append (h : Alike logbookId first second) {event : CoreEventEnvelope}
    (hLogbook : event.logbookId = logbookId)
    (hFound : first.getEvent event.eventId = second.getEvent event.eventId) :
    (first.appendVerifiedRemoteEvent event).2 = (second.appendVerifiedRemoteEvent event).2 ∧
      Alike logbookId (first.appendVerifiedRemoteEvent event).1
        (second.appendVerifiedRemoteEvent event).1 := by
  have hHead : first.heads.lookup event.logbookId = second.heads.lookup event.logbookId := by
    rw [hLogbook]
    exact h.getHead
  have hNone : first.getEvent event.eventId = none → second.getEvent event.eventId = none →
      Alike logbookId (first.insertEvent event) (second.insertEvent event) := h.insertEvent
  unfold InMemoryLogbookEventStore.getEvent at hFound hNone
  unfold appendVerifiedRemoteEvent
  cases validateSupportedRemoteEvent event with
  | error error => exact ⟨rfl, h⟩
  | ok _ =>
      rw [hFound] at hNone ⊢
      rw [hHead]
      cases hExisting : second.eventsById.lookup event.eventId with
      | some existing =>
          dsimp only
          split
          · exact ⟨rfl, h⟩
          · exact ⟨rfl, h⟩
      | none =>
          dsimp only
          split
          · exact ⟨rfl, h⟩
          · exact ⟨rfl, hNone hExisting hExisting⟩

/-- The chains of the logbook are verified alike. -/
theorem verifyChain (h : Alike logbookId first second) :
    first.verifyChain logbookId = second.verifyChain logbookId := by
  have hHead : first.heads.lookup logbookId = second.heads.lookup logbookId := h.getHead
  obtain ⟨events, others, hEvents, hOthers, hSame⟩ := h
  have hLoop : ∀ {part : List CoreEventEnvelope}, (∀ event ∈ part, event ∈ events) →
      (∀ event ∈ part, event ∈ others) → ∀ start,
        first.verifyEvents (part.map CoreEventEnvelope.eventId) start =
          second.verifyEvents (part.map CoreEventEnvelope.eventId) start := by
    intro part hFirst hSecond
    induction part with
    | nil => exact fun _ => rfl
    | cons event rest ih =>
        intro start
        have hFound : first.eventsById.lookup event.eventId = some event :=
          hEvents.getEvent_of_mem (hFirst event List.mem_cons_self)
        have hOther : second.eventsById.lookup event.eventId = some event :=
          hOthers.getEvent_of_mem (hSecond event List.mem_cons_self)
        have hRest := ih (fun event hMem => hFirst event (List.mem_cons_of_mem _ hMem))
          (fun event hMem => hSecond event (List.mem_cons_of_mem _ hMem)) (some event.eventHash)
        rw [List.map_cons, verifyEvents, verifyEvents, hFound, hOther]
        dsimp only
        rw [hRest]
  have hVerified : first.verifyEvents ((ofLogbook events logbookId).map CoreEventEnvelope.eventId)
      none = second.verifyEvents ((ofLogbook events logbookId).map CoreEventEnvelope.eventId)
        none := by
    apply hLoop
    · intro event hMem
      exact (mem_ofLogbook.mp hMem).1
    · intro event hMem
      rw [hSame] at hMem
      exact (mem_ofLogbook.mp hMem).1
  rw [hEvents.verifyChain_eq, hOthers.verifyChain_eq, ← hSame, hVerified, hHead]

end Alike

/-- Other logbooks do not matter for the events of a batch: as long as the
events before it are taken by both stores, the identifier of an event that
matters is taken in another logbook of both or of none. -/
def Undisturbed (take : InMemoryLogbookEventStore → CoreEventEnvelope →
      Option InMemoryLogbookEventStore) (matters : CoreEventEnvelope → Prop) (logbookId : Uuid)
    (first second : InMemoryLogbookEventStore) : List CoreEventEnvelope → Prop
  | [] => True
  | event :: rest =>
      (matters event → (first.TakenElsewhere logbookId event.eventId ↔
        second.TakenElsewhere logbookId event.eventId)) ∧
      ∀ firstLater secondLater, take first event = some firstLater →
        take second event = some secondLater →
          Undisturbed take matters logbookId firstLater secondLater rest

section Cases
variable {take : InMemoryLogbookEventStore → CoreEventEnvelope → Option InMemoryLogbookEventStore}
  {matters : CoreEventEnvelope → Prop} {event : CoreEventEnvelope} {rest : List CoreEventEnvelope}
  {firstLater secondLater : InMemoryLogbookEventStore}

theorem undisturbed_cons_taken (hFree : matters event →
      (first.TakenElsewhere logbookId event.eventId ↔
        second.TakenElsewhere logbookId event.eventId))
    (hFirst : take first event = some firstLater) (hSecond : take second event = some secondLater) :
    Undisturbed take matters logbookId first second (event :: rest) ↔
      Undisturbed take matters logbookId firstLater secondLater rest := by
  rw [Undisturbed, and_iff_right hFree, hFirst, hSecond]
  constructor
  · intro h
    exact h firstLater secondLater rfl rfl
  · intro h firstNext secondNext hFirstNext hSecondNext
    cases hFirstNext
    cases hSecondNext
    exact h

theorem undisturbed_cons_refused (hFree : matters event →
      (first.TakenElsewhere logbookId event.eventId ↔
        second.TakenElsewhere logbookId event.eventId))
    (hFirst : take first event = none) :
    Undisturbed take matters logbookId first second (event :: rest) := by
  refine ⟨hFree, fun _ _ hTaken => ?_⟩
  rw [hFirst] at hTaken
  cases hTaken

end Cases

variable [CanonicalJson] [Sha2Crate]

/-- The store after an event that it appends, or has. -/
def takeAppended (store : InMemoryLogbookEventStore) (event : CoreEventEnvelope) :
    Option InMemoryLogbookEventStore :=
  match store.appendVerifiedRemoteEvent event with
  | (later, .ok _) => some later
  | (_, .error _) => none

/-- The store after a pushed event that it takes. What is stored is not looked
at again. -/
def takePushed (store : InMemoryLogbookEventStore) (event : CoreEventEnvelope) :
    Option InMemoryLogbookEventStore :=
  match store.getEvent event.eventId with
  | some existing => if existing = event then some store else none
  | none => store.takeAppended event

/-- An identifier that is taken in another logbook is a conflict. -/
theorem TakenElsewhere.append {event : CoreEventEnvelope} (hLogbook : event.logbookId = logbookId)
    (h : first.TakenElsewhere logbookId event.eventId)
    (hValid : validateSupportedRemoteEvent event = .ok ()) :
    first.appendVerifiedRemoteEvent event =
      (first, .error (.duplicateEventConflict event.eventId)) := by
  obtain ⟨existing, hFound, hOther⟩ := h
  have hApart : existing ≠ event := by
    intro hSame
    exact hOther (hSame ▸ hLogbook)
  unfold InMemoryLogbookEventStore.getEvent at hFound
  unfold appendVerifiedRemoteEvent
  rw [hValid, hFound]
  exact if_neg hApart

theorem TakenElsewhere.takePushed {event : CoreEventEnvelope}
    (hLogbook : event.logbookId = logbookId)
    (h : first.TakenElsewhere logbookId event.eventId) : first.takePushed event = none := by
  obtain ⟨existing, hFound, hOther⟩ := h
  unfold InMemoryLogbookEventStore.takePushed
  rw [hFound]
  exact if_neg fun (hSame : existing = event) => hOther (by rw [hSame, hLogbook])

end InMemoryLogbookEventStore

/-! The loops. -/

/-- Texts that begin differently are different. -/
theorem append_ne_append {left right rest other : String} (count : Nat)
    (hLeft : count ≤ left.toList.length) (hRight : count ≤ right.toList.length)
    (h : left.toList.take count ≠ right.toList.take count) : left ++ rest ≠ right ++ other := by
  intro hSame
  have hTake := congrArg (fun text => text.toList.take count) hSame
  simp only [String.toList_append, List.take_append_of_le_length hLeft,
    List.take_append_of_le_length hRight] at hTake
  exact h hTake

/-- Texts that end differently are different. -/
theorem append_ne_of_last {left right rest other : String} {c d : Char}
    (hLeft : rest.toList.getLast? = some c) (hRight : other.toList.getLast? = some d)
    (h : c ≠ d) : left ++ rest ≠ right ++ other := by
  intro hSame
  have hLast := congrArg (fun text => text.toList.getLast?) hSame
  simp only [String.toList_append, List.getLast?_append, hLeft, hRight, Option.some_or,
    Option.some.injEq] at hLast
  exact h hLast

theorem ne_conflictMessage [UuidCrate] {text : String} (left : String) (eventId : Uuid)
    (hText : ∃ rest, text = left ++ rest) (hLength : 7 ≤ left.toList.length)
    (hStart : left.toList.take 7 ≠ "event id ".toList.take 7) :
    text ≠ conflictMessage eventId := by
  obtain ⟨rest, rfl⟩ := hText
  rw [conflictMessage, String.append_assoc]
  exact append_ne_append 7 hLength (by simp) hStart

namespace HostedServer

section Appends
variable [CanonicalJson] [Sha2Crate]

open InMemoryLogbookEventStore

/-- What an import appends stays after what was there. -/
theorem represents_appendBackupEvents {store : InMemoryLogbookEventStore}
    {history : List CoreEventEnvelope} (h : store.Represents history)
    (events : List CoreEventEnvelope) :
    ∃ added, (appendBackupEvents store events).1.Represents (history ++ added) := by
  induction events generalizing store history with
  | nil => exact ⟨[], by rw [List.append_nil]; exact h⟩
  | cons event rest ih =>
      unfold appendBackupEvents
      rcases store.appendVerifiedRemoteEvent_cases event with ⟨error, hError⟩ |
        ⟨_, _, hStored⟩ | ⟨_, hNew, _, hAppended⟩
      · rw [hError]
        exact ⟨[], by rw [List.append_nil]; exact h⟩
      · rw [hStored]
        exact ih h
      · rw [hAppended]
        obtain ⟨added, hAdded⟩ := ih (h.insertEvent hNew)
        exact ⟨event :: added, by rw [List.append_cons]; exact hAdded⟩

end Appends

section Texts
variable [UuidCrate] [RustFmt]

/-- No error of the store reads like a refusal by the loop. -/
theorem toString_ne_conflictMessage (error : StoreError) (eventId : Uuid) :
    error.toString ≠ conflictMessage eventId := by
  cases error with
  | eventNotFound _ =>
      exact ne_conflictMessage "event not found: " eventId ⟨_, rfl⟩ (by simp) (by simp)
  | chainVerification _ =>
      exact ne_conflictMessage "chain verification failed: " eventId ⟨_, rfl⟩ (by simp) (by simp)
  | projection _ =>
      exact ne_conflictMessage "projection rebuild failed: " eventId ⟨_, rfl⟩ (by simp) (by simp)
  | io _ => exact ne_conflictMessage "event store I/O error: " eventId ⟨_, rfl⟩ (by simp) (by simp)
  | serde _ =>
      exact ne_conflictMessage "event store serialization error: " eventId ⟨_, rfl⟩ (by simp)
        (by simp)
  | invalidRemoteHash _ =>
      exact ne_conflictMessage "remote event " eventId ⟨_, String.append_assoc ..⟩ (by simp)
        (by simp)
  | duplicateEventConflict _ =>
      exact ne_conflictMessage "remote event id " eventId ⟨_, String.append_assoc ..⟩ (by simp)
        (by simp)
  | unsupportedSchemaVersion _ _ | unsupportedEventType _ _ =>
      exact ne_conflictMessage "remote event " eventId
        ⟨_, (String.append_assoc ..).trans (String.append_assoc ..)⟩ (by simp) (by simp)
  | remotePreviousHashMismatch _ _ _ =>
      exact ne_conflictMessage "remote event " eventId
        ⟨_, (String.append_assoc ..).trans ((String.append_assoc ..).trans
          ((String.append_assoc ..).trans (String.append_assoc ..)))⟩ (by simp) (by simp)

/-- A conflict does not read like a broken chain. -/
theorem duplicate_ne_mismatch (eventId other : Uuid) (expected actual : Option String) :
    (StoreError.duplicateEventConflict eventId).toString ≠
      (StoreError.remotePreviousHashMismatch other expected actual).toString := by
  cases expected with
  | none =>
      exact append_ne_of_last (c := 't') (d := 'e') (by simp) (by simp [debugOptionStr])
        (by decide)
  | some hash =>
      exact append_ne_of_last (c := 't') (d := ')') (by simp)
        (by simp [debugOptionStr, String.toList_append, List.getLast?_cons]) (by decide)

end Texts

variable [UuidCrate] [RustFmt] [CanonicalJson] [Sha2Crate]
  {logbookId : Uuid} {first second : InMemoryLogbookEventStore}

open InMemoryLogbookEventStore

theorem syncPushLoop_taken {event : CoreEventEnvelope} (hLogbook : event.logbookId = logbookId)
    (h : first.TakenElsewhere logbookId event.eventId) (progress : PushProgress)
    (rest : List CoreEventEnvelope) :
    syncPushLoop first progress (event :: rest) =
      (first, progress.failed (conflictMessage event.eventId)) := by
  obtain ⟨existing, hFound, hOther⟩ := h
  rw [syncPushLoop, hFound]
  exact if_neg fun (hSame : existing = event) => hOther (by rw [hSame, hLogbook])

/-- The loop never takes an accepted event back. -/
theorem syncPushLoop_accepted (store : InMemoryLogbookEventStore) (progress : PushProgress)
    (events : List CoreEventEnvelope) : progress.acceptedCount ≤
      (syncPushLoop store progress events).2.acceptedCount := by
  induction events generalizing store progress with
  | nil => exact le_rfl
  | cons event rest ih =>
      unfold syncPushLoop
      cases store.getEvent event.eventId with
      | some existing =>
          dsimp only
          split
          · exact ih store { progress with
              ignoredDuplicateCount := progress.ignoredDuplicateCount + 1 }
          · exact le_rfl
      | none =>
          dsimp only
          obtain ⟨later, outcome⟩ := store.appendVerifiedRemoteEvent event
          cases outcome with
          | error error => exact le_rfl
          | ok appended =>
              exact (Nat.le_succ _).trans (ih later { progress with
                acceptedCount := progress.acceptedCount + 1 })

/-- Where only one store has the identifier in another logbook, the pushes end
differently. -/
theorem syncPushLoop_apart (hAlike : Alike logbookId first second) {event : CoreEventEnvelope}
    (hLogbook : event.logbookId = logbookId)
    (hTaken : first.TakenElsewhere logbookId event.eventId)
    (hFree : ¬ second.TakenElsewhere logbookId event.eventId) (progress : PushProgress)
    (rest : List CoreEventEnvelope) :
    (syncPushLoop first progress (event :: rest)).2 ≠
      (syncPushLoop second progress (event :: rest)).2 := by
  rw [syncPushLoop_taken hLogbook hTaken, syncPushLoop,
    hAlike.getEvent_none (Or.inl hTaken) hFree]
  dsimp only
  obtain ⟨later, outcome⟩ := second.appendVerifiedRemoteEvent event
  cases outcome with
  | error error =>
      intro h
      have hErrors := List.append_cancel_left (congrArg PushProgress.errors h)
      exact toString_ne_conflictMessage error event.eventId (List.singleton_inj.mp hErrors).symm
  | ok stored =>
      intro h
      have hCount := syncPushLoop_accepted later { progress with
        acceptedCount := progress.acceptedCount + 1 } rest
      rw [← h] at hCount
      simp only [PushProgress.failed] at hCount
      omega

/-- A batch pushed into two stores with the same events in its logbook ends the
same exactly where other logbooks do not matter. -/
theorem syncPushLoop_same (hAlike : Alike logbookId first second)
    {events : List CoreEventEnvelope} (hOwn : ∀ event ∈ events, event.logbookId = logbookId)
    (progress : PushProgress) :
    (Undisturbed takePushed (fun _ => True) logbookId first second events →
      (syncPushLoop first progress events).2 = (syncPushLoop second progress events).2 ∧
        Alike logbookId (syncPushLoop first progress events).1
          (syncPushLoop second progress events).1) ∧
    ((syncPushLoop first progress events).2 = (syncPushLoop second progress events).2 →
      Undisturbed takePushed (fun _ => True) logbookId first second events) := by
  induction events generalizing first second progress with
  | nil => exact ⟨fun _ => ⟨rfl, hAlike⟩, fun _ => trivial⟩
  | cons event rest ih =>
      have hLogbook := hOwn event List.mem_cons_self
      have hRest := fun event hMem => hOwn event (List.mem_cons_of_mem _ hMem)
      by_cases hFirst : first.TakenElsewhere logbookId event.eventId
      · by_cases hSecond : second.TakenElsewhere logbookId event.eventId
        · rw [syncPushLoop_taken hLogbook hFirst, syncPushLoop_taken hLogbook hSecond]
          exact ⟨fun _ => ⟨rfl, hAlike⟩, fun _ => undisturbed_cons_refused
            (fun _ => iff_of_true hFirst hSecond) (hFirst.takePushed hLogbook)⟩
        · refine ⟨fun h => absurd ((h.1 trivial).mp hFirst) hSecond, fun h => absurd h ?_⟩
          exact syncPushLoop_apart hAlike hLogbook hFirst hSecond progress rest
      · by_cases hSecond : second.TakenElsewhere logbookId event.eventId
        · refine ⟨fun h => absurd ((h.1 trivial).mpr hSecond) hFirst, fun h => absurd h.symm ?_⟩
          exact syncPushLoop_apart hAlike.symm hLogbook hSecond hFirst progress rest
        · have hFound := hAlike.getEvent hFirst hSecond
          have hFree : (True → (first.TakenElsewhere logbookId event.eventId ↔
              second.TakenElsewhere logbookId event.eventId)) :=
            fun _ => iff_of_false hFirst hSecond
          rw [syncPushLoop, syncPushLoop, hFound]
          cases hExisting : second.getEvent event.eventId with
          | some existing =>
              have hOne := hFound.trans hExisting
              dsimp only
              by_cases hSame : existing = event
              · rw [if_pos hSame, if_pos hSame, undisturbed_cons_taken hFree
                  (by rw [takePushed, hOne]; exact if_pos hSame)
                  (by rw [takePushed, hExisting]; exact if_pos hSame)]
                exact ih hAlike hRest _
              · rw [if_neg hSame, if_neg hSame]
                exact ⟨fun _ => ⟨rfl, hAlike⟩, fun _ => undisturbed_cons_refused hFree
                  (by rw [takePushed, hOne]; exact if_neg hSame)⟩
          | none =>
              have hNone := hFound.trans hExisting
              obtain ⟨hOutcome, hLater⟩ := hAlike.append hLogbook hFound
              rcases hOne : first.appendVerifiedRemoteEvent event with ⟨firstLater, outcome⟩
              rcases hOther : second.appendVerifiedRemoteEvent event with ⟨secondLater, result⟩
              rw [hOne, hOther] at hOutcome hLater
              obtain rfl : outcome = result := hOutcome
              cases outcome with
              | error error =>
                  exact ⟨fun _ => ⟨rfl, hLater⟩, fun _ => undisturbed_cons_refused hFree
                    (by rw [takePushed, hNone, takeAppended, hOne])⟩
              | ok stored =>
                  rw [undisturbed_cons_taken hFree
                    (by rw [takePushed, hNone, takeAppended, hOne])
                    (by rw [takePushed, hExisting, takeAppended, hOther])]
                  exact ih hLater hRest _

/-- Where only one store has the identifier in another logbook, the imports
leave different events or end with different errors. -/
theorem appendBackupEvents_apart (hAlike : Alike logbookId first second)
    {event : CoreEventEnvelope} (hLogbook : event.logbookId = logbookId)
    (hValid : validateSupportedRemoteEvent event = .ok ())
    (hTaken : first.TakenElsewhere logbookId event.eventId)
    (hFree : ¬ second.TakenElsewhere logbookId event.eventId) (rest : List CoreEventEnvelope) :
    ((appendBackupEvents first (event :: rest)).1.listEvents logbookId).length <
        ((appendBackupEvents second (event :: rest)).1.listEvents logbookId).length ∨
      ∃ error other, (appendBackupEvents first (event :: rest)).2 = .error error ∧
        (appendBackupEvents second (event :: rest)).2 = .error other ∧
        error.toString ≠ other.toString := by
  have hNone := hAlike.getEvent_none (Or.inl hTaken) hFree
  have hList := hAlike.listEvents
  obtain ⟨_, history, _, hHistory, _⟩ := hAlike
  have hLookup : second.eventsById.lookup event.eventId = none := hNone
  unfold appendBackupEvents
  rw [hTaken.append hLogbook hValid]
  unfold appendVerifiedRemoteEvent
  rw [hValid, hLookup]
  dsimp only
  split
  · next later error hSplit =>
      split at hSplit
      · cases hSplit
        exact Or.inr ⟨_, _, rfl, rfl, duplicate_ne_mismatch _ _ _ _⟩
      · cases hSplit
  · next later stored hSplit =>
      split at hSplit
      · cases hSplit
      · cases hSplit
        obtain ⟨added, hAdded⟩ := represents_appendBackupEvents (hHistory.insertEvent hNone) rest
        left
        dsimp only
        rw [hList, hHistory.listEvents, hAdded.listEvents, ofLogbook_append, ofLogbook_append]
        simp only [ofLogbook, List.length_append, List.filter_cons, hLogbook]
        simp only [decide_true, if_true, List.length_cons]
        omega

theorem appendBackupEvents_same (hAlike : Alike logbookId first second)
    {events : List CoreEventEnvelope} (hOwn : ∀ event ∈ events, event.logbookId = logbookId) :
    (Undisturbed takeAppended (fun event => validateSupportedRemoteEvent event = .ok ()) logbookId
        first second events →
      (appendBackupEvents first events).2 = (appendBackupEvents second events).2 ∧
        Alike logbookId (appendBackupEvents first events).1 (appendBackupEvents second events).1) ∧
    (¬ Undisturbed takeAppended (fun event => validateSupportedRemoteEvent event = .ok ())
        logbookId first second events →
      (appendBackupEvents first events).1.listEvents logbookId ≠
          (appendBackupEvents second events).1.listEvents logbookId ∨
        ∃ error other, (appendBackupEvents first events).2 = .error error ∧
          (appendBackupEvents second events).2 = .error other ∧
          error.toString ≠ other.toString) := by
  induction events generalizing first second with
  | nil => exact ⟨fun _ => ⟨rfl, hAlike⟩, fun h => absurd trivial h⟩
  | cons event rest ih =>
      have hLogbook := hOwn event List.mem_cons_self
      have hRest := fun event hMem => hOwn event (List.mem_cons_of_mem _ hMem)
      have hTakeError : ∀ (store : InMemoryLogbookEventStore) later error,
          store.appendVerifiedRemoteEvent event = (later, .error error) →
            store.takeAppended event = none := by
        intro store later error hError
        rw [takeAppended, hError]
      cases hValid : validateSupportedRemoteEvent event with
      | error error =>
          have hRefused : ∀ store : InMemoryLogbookEventStore,
              store.appendVerifiedRemoteEvent event = (store, .error error) := by
            intro store
            rw [appendVerifiedRemoteEvent, hValid]
          have hFree : Undisturbed takeAppended
              (fun event => validateSupportedRemoteEvent event = .ok ()) logbookId first second
              (event :: rest) :=
            undisturbed_cons_refused (fun hOk => by rw [hValid] at hOk; cases hOk)
              (hTakeError first first error (hRefused first))
          refine ⟨fun _ => ?_, fun h => absurd hFree h⟩
          rw [appendBackupEvents, appendBackupEvents, hRefused, hRefused]
          exact ⟨rfl, hAlike⟩
      | ok _ =>
          by_cases hFirst : first.TakenElsewhere logbookId event.eventId
          · by_cases hSecond : second.TakenElsewhere logbookId event.eventId
            · refine ⟨fun _ => ?_, fun h => absurd (undisturbed_cons_refused
                (fun _ => iff_of_true hFirst hSecond)
                (hTakeError _ _ _ (hFirst.append hLogbook hValid))) h⟩
              rw [appendBackupEvents, appendBackupEvents, hFirst.append hLogbook hValid,
                hSecond.append hLogbook hValid]
              exact ⟨rfl, hAlike⟩
            · refine ⟨fun h => absurd ((h.1 hValid).mp hFirst) hSecond, fun _ => ?_⟩
              rcases appendBackupEvents_apart hAlike hLogbook hValid hFirst hSecond rest with
                hLength | hErrors
              · exact Or.inl fun h => hLength.ne (congrArg List.length h)
              · exact Or.inr hErrors
          · by_cases hSecond : second.TakenElsewhere logbookId event.eventId
            · refine ⟨fun h => absurd ((h.1 hValid).mpr hSecond) hFirst, fun _ => ?_⟩
              rcases appendBackupEvents_apart hAlike.symm hLogbook hValid hSecond hFirst rest with
                hLength | ⟨error, other, hError, hOther, hTexts⟩
              · exact Or.inl fun h => hLength.ne' (congrArg List.length h)
              · exact Or.inr ⟨other, error, hOther, hError, hTexts.symm⟩
            · obtain ⟨hOutcome, hLater⟩ :=
                hAlike.append hLogbook (hAlike.getEvent hFirst hSecond)
              have hFree : validateSupportedRemoteEvent event = .ok () →
                  (first.TakenElsewhere logbookId event.eventId ↔
                    second.TakenElsewhere logbookId event.eventId) :=
                fun _ => iff_of_false hFirst hSecond
              rcases hOne : first.appendVerifiedRemoteEvent event with ⟨firstLater, outcome⟩
              rcases hOther : second.appendVerifiedRemoteEvent event with ⟨secondLater, result⟩
              rw [hOne, hOther] at hOutcome hLater
              obtain rfl : outcome = result := hOutcome
              rw [appendBackupEvents, appendBackupEvents, hOne, hOther]
              cases outcome with
              | error error =>
                  exact ⟨fun _ => ⟨rfl, hLater⟩, fun h => absurd
                    (undisturbed_cons_refused hFree (hTakeError _ _ _ hOne)) h⟩
              | ok stored =>
                  rw [undisturbed_cons_taken hFree (by rw [takeAppended, hOne])
                    (by rw [takeAppended, hOther])]
                  obtain ⟨hSame, hApart⟩ := ih hLater hRest
                  refine ⟨fun h => ?_, fun h => ?_⟩
                  · exact ⟨congrArg (Except.map (· + 1)) (hSame h).1, (hSame h).2⟩
                  · rcases hApart h with hLists | ⟨error, other, hError, hOtherError, hTexts⟩
                    · exact Or.inl hLists
                    · refine Or.inr ⟨error, other, ?_, ?_, hTexts⟩
                      · exact congrArg (Except.map (· + 1)) hError
                      · exact congrArg (Except.map (· + 1)) hOtherError

end HostedServer
end HamLogger
