import HamLogger.Sync.PullGuarantees
import Mathlib.Logic.Function.Basic

/-! Replicas of one logbook that append locally and pull from each other.
What a replica pulls was read from some replica at some earlier time and may
have lost any of its events on the way. -/
namespace HamLogger

open Transition (Run System)
open InMemoryLogbookEventStore

/-- The stores of all replicas, and the event lists that were read from them. -/
structure ReplicaState (Replica : Type) where
  stores : Replica → InMemoryLogbookEventStore
  snapshots : List (List CoreEventEnvelope)

inductive ReplicaAction (Replica : Type) where
  | append (replica : Replica) (event : NewLogbookEvent) (stamp : EventStamp)
  | read (replica : Replica)
  | pull (replica : Replica) (request : PullEventsRequest) (events : List CoreEventEnvelope)

/-- Every replica starts empty and nothing has been read. -/
def ReplicaState.initial (Replica : Type) : ReplicaState Replica where
  stores := fun _ => {}
  snapshots := []

section System
variable {Replica : Type} [CanonicalJson] [Sha2Crate]

/-- Every replica holds a verified history. -/
def ReplicasVerified (state : ReplicaState Replica) : Prop :=
  ∀ replica, ∃ history, (state.stores replica).Verified history

theorem replicasVerified_initial : ReplicasVerified (ReplicaState.initial Replica) :=
  fun _ => ⟨[], verified_empty⟩

variable [DecidableEq Replica] (logbookId : Uuid) [UuidCrate] [RustFmt]

/-- Replace the store of one replica. -/
def ReplicaState.setStore (state : ReplicaState Replica) (replica : Replica)
    (store : InMemoryLogbookEventStore) : ReplicaState Replica :=
  { state with stores := Function.update state.stores replica store }

/-- One action of one replica on the given logbook. -/
inductive ReplicaStep : ReplicaState Replica → ReplicaAction Replica → ReplicaState Replica →
    Prop where
  | append (state : ReplicaState Replica) (replica : Replica) (event : NewLogbookEvent)
      (stamp : EventStamp) (hLogbook : event.logbookId = logbookId)
      (hFresh : (state.stores replica).getEvent stamp.eventId = none) :
      ReplicaStep state (.append replica event stamp)
        (state.setStore replica ((state.stores replica).appendEvent event stamp).1)
  | read (state : ReplicaState Replica) (replica : Replica) :
      ReplicaStep state (.read replica)
        { state with
          snapshots := (state.stores replica).listEvents logbookId :: state.snapshots }
  | pull (state : ReplicaState Replica) (replica : Replica) (request : PullEventsRequest)
      (events snapshot : List CoreEventEnvelope) (hLogbook : request.logbookId = logbookId)
      (hRead : snapshot ∈ state.snapshots) (hPart : events.Sublist snapshot) :
      ReplicaStep state (.pull replica request events)
        (state.setStore replica (pullMissingEvents (state.stores replica) request events).1)

def replicaSystem : System (ReplicaState Replica) (ReplicaAction Replica) where
  step := ReplicaStep logbookId

variable {logbookId}

/-- One action extends the history of every replica. -/
theorem ReplicaStep.extends {state next : ReplicaState Replica} {action : ReplicaAction Replica}
    (h : ReplicaStep logbookId state action next) (replica : Replica)
    {history : List CoreEventEnvelope} (hVerified : (state.stores replica).Verified history) :
    ∃ added, (next.stores replica).Verified (history ++ added) := by
  cases h with
  | append actor event stamp hLogbook hFresh =>
      by_cases hActor : replica = actor
      · subst hActor
        have hCall : StoreCall.Fresh (state.stores replica) (.append event stamp) := hFresh
        refine ⟨(state.stores replica).newlyStored (.append event stamp), ?_⟩
        simp only [ReplicaState.setStore, Function.update_self]
        exact hVerified.perform hCall
      · refine ⟨[], ?_⟩
        rw [List.append_nil]
        simpa [ReplicaState.setStore, Function.update_of_ne hActor] using hVerified
  | read actor =>
      exact ⟨[], by simpa using hVerified⟩
  | pull actor request events snapshot hLogbook hRead hPart =>
      by_cases hActor : replica = actor
      · subst hActor
        obtain ⟨added, _, hPulled⟩ := verified_pull request events hVerified
        refine ⟨added, ?_⟩
        simpa [ReplicaState.setStore, Function.update_self] using hPulled
      · refine ⟨[], ?_⟩
        rw [List.append_nil]
        simpa [ReplicaState.setStore, Function.update_of_ne hActor] using hVerified

theorem ReplicaStep.verified {state next : ReplicaState Replica}
    {action : ReplicaAction Replica} (h : ReplicasVerified state)
    (step : ReplicaStep logbookId state action next) : ReplicasVerified next := by
  intro replica
  obtain ⟨history, hVerified⟩ := h replica
  obtain ⟨added, hNext⟩ := step.extends replica hVerified
  exact ⟨history ++ added, hNext⟩

/-- One action only ever appends to the list of a replica. -/
theorem ReplicaStep.listEvents_prefix {state next : ReplicaState Replica}
    {action : ReplicaAction Replica} (h : ReplicasVerified state)
    (step : ReplicaStep logbookId state action next) (replica : Replica) :
    (state.stores replica).listEvents logbookId <+:
      (next.stores replica).listEvents logbookId := by
  obtain ⟨history, hVerified⟩ := h replica
  obtain ⟨added, hNext⟩ := step.extends replica hVerified
  rw [hVerified.represents.listEvents, hNext.represents.listEvents, ofLogbook_append]
  exact List.prefix_append _ _

/-- In every state that replicas of one logbook reach, no list has lost,
moved or changed an event, lists that share an event agree up to it, and
lists with the same head are the same. -/
theorem replicas_agree {actions : List (ReplicaAction Replica)} {state : ReplicaState Replica}
    (run : Run (replicaSystem logbookId) (.initial Replica) actions state)
    (hCollisionFree : eventChain.CollisionFree fun event =>
      ∃ replica, event ∈ (state.stores replica).listEvents logbookId) :
    (∀ more later, Run (replicaSystem logbookId) state more later → ∀ replica,
      (state.stores replica).listEvents logbookId <+:
        (later.stores replica).listEvents logbookId) ∧
    (∀ first second event before before' after after',
      (state.stores first).listEvents logbookId = before ++ event :: after →
      (state.stores second).listEvents logbookId = before' ++ event :: after' →
      before = before') ∧
    (∀ first second,
      (state.stores first).getHead logbookId = (state.stores second).getHead logbookId →
      (state.stores first).listEvents logbookId = (state.stores second).listEvents logbookId) := by
  have hVerified : ReplicasVerified state :=
    run.invariant (P := ReplicasVerified) (fun _ _ _ h step => ReplicaStep.verified h step)
      replicasVerified_initial
  have hLinked : ∀ replica, eventChain.Linked none
      ((state.stores replica).listEvents logbookId) := by
    intro replica
    obtain ⟨history, h⟩ := hVerified replica
    rw [h.represents.listEvents]
    exact (h.chain logbookId).2
  have hHead : ∀ replica, (state.stores replica).getHead logbookId =
      eventChain.tip none ((state.stores replica).listEvents logbookId) := by
    intro replica
    obtain ⟨history, h⟩ := hVerified replica
    exact h.represents.getHead logbookId
  refine ⟨?_, ?_, ?_⟩
  · intro more later hMore replica
    have hGrow := hMore.relation_of_invariant (P := ReplicasVerified)
      (R := fun s t : ReplicaState Replica => ∀ replica,
        (s.stores replica).listEvents logbookId <+: (t.stores replica).listEvents logbookId)
      (fun _ _ _ h step => ReplicaStep.verified h step) (fun _ _ => List.prefix_refl _)
      (fun _ _ _ first second replica => (first replica).trans (second replica))
      (fun _ _ _ h step => ReplicaStep.listEvents_prefix h step) hVerified
    exact hGrow replica
  · intro first second event before before' after after' hFirst hSecond
    have hKnown : ∀ replica, ∀ e ∈ (state.stores replica).listEvents logbookId,
        ∃ replica, e ∈ (state.stores replica).listEvents logbookId :=
      fun replica e he => ⟨replica, he⟩
    exact hCollisionFree.agree_before (hFirst ▸ hLinked first) (hSecond ▸ hLinked second)
      (hFirst ▸ hKnown first) (hSecond ▸ hKnown second)
  · intro first second hEq
    refine hCollisionFree.eq_of_tip_eq (hLinked first) (hLinked second)
      (fun e he => ⟨first, he⟩) (fun e he => ⟨second, he⟩) ?_
    rw [← hHead, ← hHead]
    exact hEq

end System

open scoped Crates in
/-- One replica appends a contact and another one pulls it. -/
theorem replicas_agree_contact :
    let contact := CoreEventEnvelope.fromNew
      (Crates.sampleEvent .qsoCreated 1 (some 2) (.object [])) none (Crates.sampleStamp 3)
    ∃ actions state, Run (replicaSystem 1) (.initial Bool) actions state ∧
      (state.stores false).listEvents 1 = [contact] ∧
      ∀ more later, Run (replicaSystem 1) state more later → ∀ replica,
        (state.stores replica).listEvents 1 <+: (later.stores replica).listEvents 1 := by
  intro contact
  let event := Crates.sampleEvent .qsoCreated 1 (some 2) (.object [])
  let request : PullEventsRequest := { peerId := "peer", logbookId := 1, localHeadHash := none }
  let own := ({} : InMemoryLogbookEventStore).insertEvent contact
  have hOwn : own.Represents [contact] := represents_empty.insertEvent rfl
  have hOwnList : own.listEvents 1 = [contact] := hOwn.listEvents 1
  have hValid : validateSupportedRemoteEvent contact = .ok () :=
    (validateSupportedRemoteEvent_fromNew ..).mpr ⟨rfl, rfl⟩
  have hPulled := (pull_first_event request rfl rfl hValid).2
  let appended := (ReplicaState.initial Bool).setStore true own
  let shared : ReplicaState Bool := { appended with snapshots := [[contact]] }
  obtain ⟨pulled, hEq⟩ : ∃ pulled : InMemoryLogbookEventStore,
      pulled = (pullMissingEvents {} request [contact]).1 := ⟨_, rfl⟩
  let state := shared.setStore false pulled
  have hAppend : (replicaSystem 1).step (.initial Bool)
      (.append true event (Crates.sampleStamp 3)) appended :=
    ReplicaStep.append _ true event (Crates.sampleStamp 3) rfl rfl
  have hRead : (replicaSystem 1).step appended (.read true) shared := by
    have hStep : (replicaSystem 1).step appended (.read true)
        { appended with snapshots := (appended.stores true).listEvents 1 :: appended.snapshots } :=
      ReplicaStep.read appended true
    have hList : (appended.stores true).listEvents 1 = [contact] := hOwnList
    rw [hList] at hStep
    exact hStep
  have hPull : (replicaSystem 1).step shared (.pull false request [contact]) state := by
    have hStep : (replicaSystem 1).step shared (.pull false request [contact])
        (shared.setStore false (pullMissingEvents (shared.stores false) request [contact]).1) :=
      ReplicaStep.pull shared false request [contact] [contact] rfl (by simp [shared])
        (List.Sublist.refl _)
    have hEmpty : shared.stores false = {} := rfl
    rw [hEmpty, ← hEq] at hStep
    exact hStep
  rw [← hEq] at hPulled
  have hLists : ∀ replica, (state.stores replica).listEvents 1 = [contact] := by
    rintro (_ | _)
    · exact hPulled
    · exact hOwnList
  have hCollisionFree : eventChain.CollisionFree fun event =>
      ∃ replica, event ∈ (state.stores replica).listEvents 1 := by
    rintro a b ⟨first, ha⟩ ⟨second, hb⟩ _
    rw [hLists] at ha hb
    rw [List.mem_singleton.mp ha, List.mem_singleton.mp hb]
  have hRun := ((Run.single hAppend).trans (Run.single hRead)).trans (Run.single hPull)
  exact ⟨_, state, hRun, hLists false, (replicas_agree hRun hCollisionFree).1⟩

end HamLogger
