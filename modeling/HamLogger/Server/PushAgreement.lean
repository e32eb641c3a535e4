import HamLogger.Server.SyncHandlers
import HamLogger.Sync.CloudAgreement
import HamLogger.Sync.PushOutcome

/-! The same push sent to the cloud sync server in memory, to the durable one
and to the hosted server. The hosted server looks whether an event is stored
before it validates it, and the other two validate it first. -/
namespace HamLogger

open Program

section
variable [UuidCrate] [RustFmt] [CanonicalJson] [Sha2Crate]

/-- An event that fails the validation is not stored as it is, and where its
identifier is taken the two refusals are classed alike. -/
def InMemoryLogbookEventStore.RefusesAlike (store : InMemoryLogbookEventStore)
    (event : CoreEventEnvelope) : Prop :=
  ∀ error, validateSupportedRemoteEvent event = .error error →
    ∀ existing, store.getEvent event.eventId = some existing →
      existing ≠ event ∧ pushReplicationStatus [conflictMessage event.eventId] =
        pushReplicationStatus [error.toString]

/-- The first event of a push that fails the validation is refused alike,
unless the push ends before it. -/
def InMemoryLogbookEventStore.FirstRefusedAlike (store : InMemoryLogbookEventStore)
    (events : List CoreEventEnvelope) : Prop :=
  ∀ before event after later, events = before ++ event :: after →
    store.acceptAll before = some later → later.RefusesAlike event

/-- What a push reports, apart from the texts of its errors. -/
def CloudPushEventsResponse.report (response : CloudPushEventsResponse) :
    ReplicationStatus × Nat × Nat × Nat × Option String :=
  (response.status, response.acceptedCount, response.ignoredDuplicateCount,
    response.rejectedCount, response.serverHeadHash)

namespace HostedServer
variable {store : InMemoryLogbookEventStore}

/-- The loop never takes a duplicate back. -/
theorem syncPushLoop_duplicates (store : InMemoryLogbookEventStore) (progress : PushProgress)
    (events : List CoreEventEnvelope) : progress.ignoredDuplicateCount ≤
      (syncPushLoop store progress events).2.ignoredDuplicateCount := by
  induction events generalizing store progress with
  | nil => exact le_rfl
  | cons event rest ih =>
      unfold syncPushLoop
      cases store.getEvent event.eventId with
      | some existing =>
          dsimp only
          split
          · exact (Nat.le_succ _).trans (ih store { progress with
              ignoredDuplicateCount := progress.ignoredDuplicateCount + 1 })
          · exact le_rfl
      | none =>
          dsimp only
          obtain ⟨later, outcome⟩ := store.appendVerifiedRemoteEvent event
          cases outcome with
          | error error => exact le_rfl
          | ok appended => exact ih later { progress with
              acceptedCount := progress.acceptedCount + 1 }

theorem firstRefusedAlike_cons {event : CoreEventEnvelope} {rest : List CoreEventEnvelope} :
    store.FirstRefusedAlike (event :: rest) ↔ store.RefusesAlike event ∧
      ∀ later stored, store.appendVerifiedRemoteEvent event = (later, .ok stored) →
        later.FirstRefusedAlike rest := by
  constructor
  · intro h
    refine ⟨h [] event rest store rfl rfl, fun later stored hLater => ?_⟩
    intro before next after final hRest hFinal
    apply h (event :: before) next after final (by rw [hRest]; rfl)
    rw [InMemoryLogbookEventStore.acceptAll, hLater]
    exact hFinal
  · intro h before next after final hEvents hFinal
    cases before with
    | nil =>
        obtain ⟨rfl, rfl⟩ := List.cons.inj hEvents
        obtain rfl := Option.some.inj hFinal
        exact h.1
    | cons first before =>
        obtain ⟨rfl, hRest⟩ := List.cons.inj hEvents
        rw [InMemoryLogbookEventStore.acceptAll] at hFinal
        rcases hLater : store.appendVerifiedRemoteEvent event with ⟨later, outcome⟩
        rw [hLater] at hFinal
        cases outcome with
        | error error => cases hFinal
        | ok stored => exact h.2 later stored hLater before next after final hRest hFinal

/-- The loops agree exactly where the first event that is not valid is refused
alike. -/
theorem loops_agree_iff (store : InMemoryLogbookEventStore) {progress : PushProgress}
    (hNone : progress.errors = []) (logbookId : Uuid) (events : List CoreEventEnvelope) :
    let hosted := syncPushLoop store progress events
    let cloud := pushLoop InMemoryLogbookEventStore.getEvent
      InMemoryLogbookEventStore.appendVerifiedRemoteEvent store progress events
    ((hosted.2.response (hosted.1.getHead logbookId)).report =
        (cloud.2.response (cloud.1.getHead logbookId)).report ↔ store.FirstRefusedAlike events) ∧
      (store.FirstRefusedAlike events → hosted.1 = cloud.1) := by
  induction events generalizing store progress with
  | nil =>
      simp only [syncPushLoop, pushLoop, true_iff, implies_true, and_true]
      intro before event after later hEvents
      simp at hEvents
  | cons event rest ih =>
      rw [firstRefusedAlike_cons]
      cases hValid : validateSupportedRemoteEvent event with
      | error error =>
          have hRefused : store.appendVerifiedRemoteEvent event = (store, .error error) := by
            rw [InMemoryLogbookEventStore.appendVerifiedRemoteEvent, hValid]
          have hRest : ∀ later stored, store.appendVerifiedRemoteEvent event = (later, .ok stored) →
              later.FirstRefusedAlike rest := by
            intro later stored hLater
            rw [hRefused] at hLater
            cases hLater
          have hCloud : pushLoop InMemoryLogbookEventStore.getEvent
              InMemoryLogbookEventStore.appendVerifiedRemoteEvent store progress (event :: rest) =
                (store, progress.failed error.toString) := by
            rw [pushLoop, hValid]
          rw [hCloud, and_iff_left hRest]
          clear hRest
          cases hFound : store.getEvent event.eventId with
          | none =>
              have hAlike : store.RefusesAlike event := by
                intro _ _ existing hExisting
                rw [hFound] at hExisting
                cases hExisting
              simp only [syncPushLoop, hFound, hRefused, true_iff, implies_true, and_true]
              exact hAlike
          | some existing =>
              by_cases hSame : existing = event
              · have hDuplicate : progress.ignoredDuplicateCount + 1 ≤ _ :=
                  syncPushLoop_duplicates store { progress with
                    ignoredDuplicateCount := progress.ignoredDuplicateCount + 1 } rest
                have hNever : ¬ store.RefusesAlike event := fun h =>
                  (h error hValid existing hFound).1 hSame
                simp only [syncPushLoop, hFound, hSame, if_true]
                refine ⟨⟨fun h => ?_, fun h => absurd h hNever⟩, fun h => absurd h hNever⟩
                have hCount := congrArg (fun report => report.2.2.1) h
                simp only [CloudPushEventsResponse.report, PushProgress.response,
                  PushProgress.failed] at hCount
                omega
              · simp only [syncPushLoop, hFound, hSame, if_false, implies_true, and_true]
                constructor
                · intro h other hOther found hExisting
                  rw [hValid] at hOther
                  rw [hFound] at hExisting
                  obtain rfl := Option.some.inj hExisting
                  obtain rfl := Except.error.inj hOther
                  have hStatus := congrArg Prod.fst h
                  simp only [CloudPushEventsResponse.report, PushProgress.response,
                    PushProgress.failed, hNone, List.nil_append] at hStatus
                  exact ⟨hSame, hStatus⟩
                · intro h
                  simp only [CloudPushEventsResponse.report, PushProgress.response,
                    PushProgress.failed, hNone, List.nil_append,
                    (h error hValid existing hFound).2, List.length_singleton]
      | ok _ =>
          have hAlike : store.RefusesAlike event := by
            intro error hError
            rw [hValid] at hError
            cases hError
          rw [and_iff_right hAlike]
          cases hFound : store.getEvent event.eventId with
          | some existing =>
              by_cases hSame : existing = event
              · have hStored : store.appendVerifiedRemoteEvent event = (store, .ok existing) := by
                  rw [InMemoryLogbookEventStore.appendVerifiedRemoteEvent, hValid]
                  simp only [InMemoryLogbookEventStore.getEvent] at hFound
                  simp only [hFound, hSame, if_true]
                simp only [syncPushLoop, pushLoop, hValid, hFound, hSame, if_true]
                have hRest : (∀ later stored, store.appendVerifiedRemoteEvent event =
                    (later, .ok stored) → later.FirstRefusedAlike rest) ↔
                    store.FirstRefusedAlike rest := by
                  constructor
                  · intro h
                    exact h store existing hStored
                  · intro h later stored hLater
                    rw [hStored] at hLater
                    cases hLater
                    exact h
                rw [hRest]
                exact ih store (by exact hNone)
              · have hConflict : store.appendVerifiedRemoteEvent event =
                    (store, .error (.duplicateEventConflict event.eventId)) := by
                  rw [InMemoryLogbookEventStore.appendVerifiedRemoteEvent, hValid]
                  simp only [InMemoryLogbookEventStore.getEvent] at hFound
                  simp only [hFound, hSame, if_false]
                simp only [syncPushLoop, pushLoop, hValid, hFound, hSame, if_false,
                  conflictMessage, true_iff, implies_true, and_true]
                intro later stored hLater
                rw [hConflict] at hLater
                cases hLater
          | none =>
              simp only [syncPushLoop, pushLoop, hValid, hFound]
              rcases hLater : store.appendVerifiedRemoteEvent event with ⟨later, outcome⟩
              cases outcome with
              | error error =>
                  simp only [true_iff, implies_true, and_true]
                  intro other stored hOther
                  cases hOther
              | ok stored =>
                  have hRest : (∀ other appended,
                      (later, (Except.ok stored : Except StoreError _)) =
                      (other, .ok appended) → other.FirstRefusedAlike rest) ↔
                      later.FirstRefusedAlike rest := by
                    constructor
                    · intro h
                      exact h later stored rfl
                    · intro h other appended hOther
                      cases hOther
                      exact h
                  rw [hRest]
                  exact ih later (by exact hNone)

/-- An authorized push into the hosted server is the loop over its events. -/
theorem syncPush_eq {context : RequestContext} {input : PushEventsInput} {state : HostedState}
    {server : ServerState}
    (hAuthorized : (authorizeSync context input.logbookId .logQso).execute state.server =
      (server, .ok ()))
    (hLogbook : ∀ event ∈ input.events, event.logbookId = input.logbookId) :
    (syncPush context (.ok input)).execute state =
      let (store, progress) := syncPushLoop state.store {} input.events
      ({ server := server, store := store },
        .ok (progress.response (store.getHead input.logbookId))) := by
  have hOwn : input.events.any (fun event => event.logbookId ≠ input.logbookId) = false := by
    rw [List.any_eq_false]
    intro event hEvent
    simp [hLogbook event hEvent]
  unfold syncPush
  simp only [execute_bind, execute_onServer, parseJson, execute_pure, hAuthorized, hOwn,
    Bool.false_eq_true, if_false, execute_get, execute_set]

end HostedServer

/-- The three servers are answered an authorized push, with the same report,
and leave the same events in every logbook. -/
def PushedAlike [EventJson] (context : RequestContext) (auth : CloudAuth) (now : DateTime)
    (input : PushEventsInput) (memory : InMemoryCloudState) (durable : DurableCloudState)
    (hosted : HostedState) : Prop :=
  ∃ memoryResponse durableResponse hostedResponse,
    (InMemoryCloudSyncServer.pushEvents memory auth input.logbookId input.events now).2 =
        .ok memoryResponse ∧
      (DurableCloudSyncServer.pushEvents durable auth input.logbookId input.events now).2 =
        .ok durableResponse ∧
      ((HostedServer.syncPush context (.ok input)).execute hosted).2 = .ok hostedResponse ∧
      memoryResponse.report = durableResponse.report ∧
      hostedResponse.report = memoryResponse.report ∧
      ∀ logbookId,
        (InMemoryCloudSyncServer.pushEvents memory auth input.logbookId input.events
            now).1.store.listEvents logbookId =
          (DurableCloudSyncServer.pushEvents durable auth input.logbookId input.events
            now).1.store.memory.listEvents logbookId ∧
        ((HostedServer.syncPush context (.ok input)).execute hosted).1.store.listEvents logbookId =
          (InMemoryCloudSyncServer.pushEvents memory auth input.logbookId input.events
            now).1.store.listEvents logbookId

end

section
open Crates

/-- An incident of the logbook that was opened on the server. -/
def openedIncident : CoreEventEnvelope :=
  CoreEventEnvelope.fromNew
    { sampleEvent .emcommIncidentOpened 102 (some 7) .null with sourcePluginId := none } none
    (sampleStamp 8)

def storedIncident : InMemoryLogbookEventStore := InMemoryLogbookEventStore.insertEvent {}
  openedIncident

/-- The first contact of an empty logbook. -/
def firstContact : CoreEventEnvelope :=
  CoreEventEnvelope.fromNew (sampleEvent .qsoCreated 102 (some 7) .null) none (sampleStamp 8)

def memoryWith (store : InMemoryLogbookEventStore) : InMemoryCloudState where
  auth := (InMemoryCloudSyncServer.pairDevice sampleConfig {}
    { samplePairing with requestedLogbooks := [102] } epoch 1).1
  store := store

def durableWith (store : InMemoryLogbookEventStore) : DurableCloudState where
  tables := (DurableCloudSyncServer.pairDevice sampleConfig {}
    { samplePairing with requestedLogbooks := [102] } epoch 1 none).1
  store := { memory := store }

local instance pushedEventJson : EventJson := eventJson []

end
end HamLogger
