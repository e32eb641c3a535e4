import HamLogger.Core.NetStates

/-! What stays true of activations and net sessions while proposals are
accepted: an activation that is over stays as it is, and what has ended did
so no earlier than it started. -/
namespace HamLogger

open Projection (rebuild)
open Replay (Accepted)
open Transition (Run)

/-- What a payload says under a key, or else what is recorded there. -/
def saidOrRecorded (recorded payload : Value) (key : String) : Option Value :=
  (Fields.get (payload.asObject.getD []).reverse key).or (recorded.get key)

theorem Fields.get_mergeFields_reverse (target patch : Fields) (key : String) :
    Fields.get (Value.mergeFields target patch) key =
      (Fields.get patch.reverse key).or (target.get key) := by
  induction patch using List.reverseRecOn with
  | nil => rfl
  | append_singleton patch field ih =>
      have hMerge : Value.mergeFields target (patch ++ [field]) =
          (Value.mergeFields target patch).insert field.1 field.2 := by
        rw [Value.mergeFields, List.foldl_append]
        rfl
      rw [hMerge, List.reverse_append, List.reverse_singleton, List.singleton_append, Fields.get]
      by_cases hSame : key = field.1
      · rw [hSame, if_pos rfl, Fields.get_insert_self]
        rfl
      · rw [if_neg hSame, Fields.get_insert_of_ne hSame, ih]

/-- A merge leaves what the patch says, or else what is recorded. -/
theorem get_mergedWith_eq (recorded payload : Value) (key : String) :
    (mergedWith recorded payload).get key = saidOrRecorded recorded payload key := by
  rw [mergedWith, Value.get_object, Fields.get_mergeFields_reverse, saidOrRecorded]
  cases recorded <;> rfl

section Times
variable [ChronoCrate]

/-- An instant that is written as a string. -/
def writtenInstant (value : Option Value) : Option DateTime :=
  (value.bind Value.asStr).bind ChronoCrate.parseFromRfc3339

/-- The end, where both times parse, is not before the start. -/
def InOrder (startedAt endedAt : Option Value) : Prop :=
  ∀ started ∈ writtenInstant startedAt, ∀ ended ∈ writtenInstant endedAt, started ≤ ended

instance (startedAt endedAt : Option Value) : Decidable (InOrder startedAt endedAt) :=
  inferInstanceAs (Decidable (∀ started ∈ writtenInstant startedAt,
    ∀ ended ∈ writtenInstant endedAt, started ≤ ended))

/-- The times that a payload records are in order. -/
def TimesInOrder (payload : Value) : Prop :=
  InOrder (payload.get "started_at") (payload.get "ended_at")

/-- The times of a payload, or else those recorded, are in order. -/
def EndsAfterStart (recorded payload : Value) : Prop :=
  InOrder (saidOrRecorded recorded payload "started_at")
    (saidOrRecorded recorded payload "ended_at")

theorem EndsAfterStart.merged {recorded payload : Value} (h : EndsAfterStart recorded payload) :
    TimesInOrder (mergedWith recorded payload) := by
  unfold TimesInOrder
  rw [get_mergedWith_eq, get_mergedWith_eq]
  exact h

/-- The schema check of a payload that holds both times. -/
theorem timesInOrder_of_valid {payload : Fields}
    (h : validateEndedAfterStarted payload = .ok ()) : TimesInOrder (.object payload) := by
  intro started hStarted ended hEnded
  have hStart : timeField payload "started_at" = some started := hStarted
  have hEnd : timeField payload "ended_at" = some ended := hEnded
  unfold validateEndedAfterStarted at h
  rw [hStart, hEnd] at h
  dsimp only at h
  split at h
  · cases h
  · next hLater => exact Int.le_of_lt (Int.not_le.mp hLater)

theorem timesInOrder_of_activation {payload : Fields} {requireStartedAt : Bool}
    (h : validateActivationPayload payload requireStartedAt = .ok ()) :
    TimesInOrder (.object payload) := by
  have hRefused : ∀ {text : String} {rest : Unit → Outcome ProposalValidationError Unit},
      (do let refused ← invalidSchema text; rest refused) ≠ .ok () := by
    intro text rest hOk
    obtain ⟨_, hError, _⟩ := (except_bind_eq_ok_iff ..).mp hOk
    cases hError
  unfold validateActivationPayload at h
  obtain ⟨_, _, h⟩ := (except_bind_eq_ok_iff ..).mp h
  dsimp only at h
  split at h
  · exact absurd h hRefused
  · split at h
    · split at h
      · exact absurd h hRefused
      · exact timesInOrder_of_valid h
    · split at h
      · exact absurd h hRefused
      · exact timesInOrder_of_valid h
    · exact timesInOrder_of_valid h

theorem TimesInOrder.set {payload result new : Value} {key : String}
    (h : TimesInOrder payload) (hSet : payload.set key new = some result)
    (hStart : "started_at" ≠ key) (hEnd : "ended_at" ≠ key) : TimesInOrder result := by
  unfold TimesInOrder
  rw [Value.get_set_of_ne hStart hSet, Value.get_set_of_ne hEnd hSet]
  exact h

end Times

namespace ActivationProjection

/-- The activation has ended or was cancelled. -/
def IsOver (record : ActivationRecord) : Prop :=
  record.status = "ended" ∨ record.status = "cancelled"

/-- The activations that are over in one projection are so in another one,
and have ended or were cancelled as before. -/
def StaysOver (projection next : ActivationProjection) : Prop :=
  ∀ id record, projection.get id = some record → IsOver record →
    ∃ later, next.get id = some later ∧ later.status = record.status

theorem StaysOver.trans {projection next last : ActivationProjection}
    (hFirst : projection.StaysOver next) (hSecond : next.StaysOver last) :
    projection.StaysOver last := by
  intro id record hRecord hOver
  obtain ⟨later, hLater, hSame⟩ := hFirst id record hRecord hOver
  obtain ⟨final, hFinal, hStatus⟩ := hSecond id later hLater (by rw [IsOver, hSame]; exact hOver)
  exact ⟨final, hFinal, hStatus.trans hSame⟩

/-- The status that an update sets, or else the one recorded. -/
def updatedStatus (record : ActivationRecord) (payload : Value) : String :=
  ((payload.get "status").bind Value.asStr).getD record.status

section Events
variable {records changed : KeyMap Uuid ActivationRecord}
  {event : CoreEventEnvelope} {entityId : Uuid}

/-- The status and the payload of an activation. -/
def state (record : ActivationRecord) : String × Value := (record.status, record.payload)

theorem changes_merged {status : Option String}
    (h : records.tryModify entityId (mergedRecord event status) = .ok changed) (id : Uuid) :
    (changed.lookup id).map state = (records.lookup id).map state ∨
      (id = entityId ∧ ∃ record, records.lookup id = some record ∧ (changed.lookup id).map state =
        some (status.getD record.status, mergedWith record.payload event.payload)) := by
  rcases KeyMap.lookup_of_tryModify h id with ⟨_, hSame⟩ | ⟨rfl, hOld, hNew⟩ |
    ⟨rfl, old, new, hOld, hChange, hNew⟩
  · exact Or.inl (congrArg (Option.map state) hSame)
  · exact Or.inl (congrArg (Option.map state) (hNew.trans hOld.symm))
  · obtain ⟨payload, hMerged, rfl⟩ := (except_map_eq_ok_iff ..).mp hChange
    refine Or.inr ⟨rfl, old, hOld, ?_⟩
    rw [hNew, eq_mergedWith hMerged]
    rfl

variable [UuidCrate]

/-- What an event does to the activation that it names. -/
inductive Changes (event : CoreEventEnvelope) (id : Uuid) (old : Option ActivationRecord) :
    Option (String × Value) → Prop where
  | created {status : String} {payload : Value}
      (hType : event.eventType = .activationCreated ∨ event.eventType = .activationStarted)
      (hPayload : event.payload.set "activation_id" (uuidJson id) = some payload) :
      Changes event id old (some (status, payload))
  | updated {record : ActivationRecord} (hOld : old = some record)
      (hType : event.eventType = .activationUpdated) :
      Changes event id old
        (some (updatedStatus record event.payload, mergedWith record.payload event.payload))
  | ended {record : ActivationRecord} (hOld : old = some record)
      (hType : event.eventType = .activationEnded) :
      Changes event id old (some ("ended", mergedWith record.payload event.payload))
  | cancelled {record : ActivationRecord} (hOld : old = some record)
      (hType : event.eventType = .activationCancelled) :
      Changes event id old (some ("cancelled", record.payload))

/-- An event changes the state of the activation that it names, or of none. -/
theorem changes_applyRecords (h : applyRecords records event entityId = .ok changed) (id : Uuid) :
    (changed.lookup id).map state = (records.lookup id).map state ∨
      (id = entityId ∧ Changes event id (records.lookup id) ((changed.lookup id).map state)) := by
  have hCreated : (event.eventType = .activationCreated ∨ event.eventType = .activationStarted) →
      records.tryInsert entityId (createdRecord event entityId) = .ok changed →
      (changed.lookup id).map state = (records.lookup id).map state ∨
        (id = entityId ∧
          Changes event id (records.lookup id) ((changed.lookup id).map state)) := by
    intro hType hInsert
    obtain ⟨new, hNew, rfl⟩ := (KeyMap.tryInsert_eq_ok_iff ..).mp hInsert
    obtain ⟨payload, hPayload, rfl⟩ := (except_map_eq_ok_iff ..).mp hNew
    rw [KeyMap.lookup_insert_eq_ite]
    split
    · next hSame =>
        subst hSame
        exact Or.inr ⟨rfl, .created hType (set_of_assignField hPayload)⟩
    · exact Or.inl rfl
  have hHidden : ∀ key change, (∀ record, state (change record) = state record) →
      ((records.modify key change).lookup id).map state = (records.lookup id).map state :=
    fun key change hSame => KeyMap.view_modify_hidden hSame id
  unfold applyRecords at h
  split at h
  · next hType => exact hCreated (Or.inl hType) h
  · next hType => exact hCreated (Or.inr hType) h
  · next hType =>
      refine (changes_merged h id).imp_right fun ⟨hKey, record, hOld, hState⟩ => ⟨hKey, ?_⟩
      rw [hState]
      exact .updated hOld hType
  · next hType =>
      refine (changes_merged h id).imp_right fun ⟨hKey, record, hOld, hState⟩ => ⟨hKey, ?_⟩
      rw [hState]
      exact .ended hOld hType
  · next hType =>
      rw [← Except.ok.inj h, KeyMap.lookup_modify]
      split
      · next hSame =>
          subst hSame
          cases hOld : records.lookup id with
          | none => exact Or.inl rfl
          | some record => exact Or.inr ⟨rfl, @Changes.cancelled _ _ _ _ record rfl hType⟩
      · exact Or.inl rfl
  · rw [← Except.ok.inj h]
    exact Or.inl (hHidden _ _ fun _ => rfl)
  · split at h
    · rw [← Except.ok.inj h]
      exact Or.inl rfl
    · rw [← Except.ok.inj h]
      exact Or.inl (hHidden _ _ fun _ => rfl)
  · split at h
    · rw [← Except.ok.inj h]
      exact Or.inl rfl
    · rw [← Except.ok.inj h]
      exact Or.inl (hHidden _ _ fun _ => rfl)
  · rw [← Except.ok.inj h]
    exact Or.inl rfl

variable {projection next : ActivationProjection}

/-- One event changes the state of the activation that it names, or of none. -/
theorem changes_apply (h : projection.apply event = .ok next) (id : Uuid) :
    (next.get id).map state = (projection.get id).map state ∨
      (event.entityId = some id ∧
        Changes event id (projection.get id) ((next.get id).map state)) := by
  have hRecompute : ∀ later : ActivationProjection, (later.recomputeStats.get id).map state =
      (later.records.lookup id).map state := by
    intro later
    refine KeyMap.view_mapValues (fun old => ?_) id
    rfl
  unfold apply at h
  split at h
  · cases h
  · cases hKey : event.entityId with
    | none =>
        simp only [hKey] at h
        rw [← Except.ok.inj h, hRecompute]
        exact Or.inl rfl
    | some entityId =>
        simp only [hKey] at h
        obtain ⟨later, hLater, rfl⟩ := (except_map_eq_ok_iff ..).mp h
        rw [hRecompute]
        exact (changes_applyRecords hLater id).imp_right fun ⟨hSame, hChanges⟩ =>
          ⟨congrArg some hSame.symm, hChanges⟩

variable [ChronoCrate]

/-- Every activation that has ended did so no earlier than it started. -/
def EndsInOrder (projection : ActivationProjection) : Prop :=
  ∀ id record, projection.get id = some record → record.status = "ended" →
    TimesInOrder record.payload

/-- An event that leaves the activation as it is if it is over, and ends it
no earlier than it started. -/
def Keeps (projection : ActivationProjection) (eventType : EventType) (id : Uuid)
    (payload : Value) : Prop :=
  ∀ record, projection.get id = some record →
    match eventType with
    | .activationCreated | .activationStarted => ¬ IsOver record
    | .activationUpdated =>
        (IsOver record → updatedStatus record payload = record.status) ∧
          (updatedStatus record payload = "ended" → EndsAfterStart record.payload payload)
    | .activationEnded => record.status ≠ "cancelled" ∧ EndsAfterStart record.payload payload
    | .activationCancelled => record.status ≠ "ended"
    | _ => True

/-- An activation that is over stays so. -/
theorem staysOver_apply (h : projection.apply event = .ok next)
    (hKeeps : ∀ id, event.entityId = some id →
      projection.Keeps event.eventType id event.payload) : projection.StaysOver next := by
  intro id record hRecord hOver
  have hStatus : ∀ status payload, (next.get id).map state = some (status, payload) →
      status = record.status →
        ∃ later, next.get id = some later ∧ later.status = record.status := by
    intro status payload hLater hSame
    obtain ⟨later, hFound, hState⟩ := Option.map_eq_some_iff.mp hLater
    exact ⟨later, hFound, (congrArg Prod.fst hState).trans hSame⟩
  rcases changes_apply h id with hSame | ⟨hKey, hChanges⟩
  · rw [hRecord] at hSame
    exact hStatus _ _ hSame rfl
  · have hRight := hKeeps id hKey record hRecord
    generalize hLater : (next.get id).map state = later at hChanges
    cases hChanges with
    | created hType _ =>
        rcases hType with hType | hType
        all_goals
          rw [hType] at hRight
          exact absurd hOver hRight
    | updated hOld hType =>
        obtain rfl := Option.some.inj (hRecord.symm.trans hOld)
        rw [hType] at hRight
        exact hStatus _ _ hLater (hRight.1 hOver)
    | ended hOld hType =>
        obtain rfl := Option.some.inj (hRecord.symm.trans hOld)
        rw [hType] at hRight
        exact hStatus _ _ hLater (hOver.resolve_right hRight.1).symm
    | cancelled hOld hType =>
        obtain rfl := Option.some.inj (hRecord.symm.trans hOld)
        rw [hType] at hRight
        exact hStatus _ _ hLater (hOver.resolve_left hRight).symm

/-- What has ended did so no earlier than it started. -/
theorem EndsInOrder.apply (hPrior : projection.EndsInOrder) (h : projection.apply event = .ok next)
    (hKeeps : ∀ id, event.entityId = some id →
      projection.Keeps event.eventType id event.payload)
    (hCreated : event.eventType = .activationCreated ∨ event.eventType = .activationStarted →
      TimesInOrder event.payload) : next.EndsInOrder := by
  intro id later hLater hEnded
  rcases changes_apply h id with hSame | ⟨hKey, hChanges⟩
  · rw [hLater] at hSame
    obtain ⟨record, hRecord, hState⟩ := Option.map_eq_some_iff.mp hSame.symm
    have hPayload : record.payload = later.payload := congrArg Prod.snd hState
    have hStatus : record.status = later.status := congrArg Prod.fst hState
    rw [← hPayload]
    exact hPrior id record hRecord (hStatus.trans hEnded)
  · rw [hLater] at hChanges
    generalize hState : (some later).map state = found at hChanges
    have hParts : ∀ {status payload}, some (state later) = some (status, payload) →
        later.status = status ∧ later.payload = payload := fun hFound =>
      Prod.mk.inj (Option.some.inj hFound)
    cases hChanges with
    | created hType hPayload =>
        rw [(hParts hState).2]
        exact (hCreated hType).set hPayload (by decide) (by decide)
    | updated hOld hType =>
        have hRight := hKeeps id hKey _ hOld
        rw [hType] at hRight
        rw [(hParts hState).2]
        exact (hRight.2 ((hParts hState).1.symm.trans hEnded)).merged
    | ended hOld hType =>
        have hRight := hKeeps id hKey _ hOld
        rw [hType] at hRight
        rw [(hParts hState).2]
        exact hRight.2.merged
    | cancelled hOld hType =>
        rw [(hParts hState).1] at hEnded
        exact absurd hEnded (by decide)

end Events
end ActivationProjection

namespace NetControlProjection
variable [ChronoCrate]

/-- Every session that has ended did so no earlier than it started. -/
def EndsInOrder (projection : NetControlProjection) : Prop :=
  ∀ id session, projection.getSession id = some session → session.status = .ended →
    TimesInOrder session.payload

/-- An event that ends a session no earlier than it started. -/
def Keeps (projection : NetControlProjection) (eventType : EventType) (id : Uuid)
    (payload : Value) : Prop :=
  eventType = .netSessionEnded → ∀ session, projection.getSession id = some session →
    EndsAfterStart session.payload payload

section Events
variable [UuidCrate] {projection next : NetControlProjection} {event : CoreEventEnvelope}
  {entityId : Uuid}

theorem endsInOrder_applyRecords (h : projection.applyRecords event entityId = .ok next)
    (hPrior : projection.EndsInOrder)
    (hKeeps : projection.Keeps event.eventType entityId event.payload) : next.EndsInOrder := by
  unfold applyRecords at h
  split at h
  case h_3 hType =>
    obtain ⟨sessions, hInsert, rfl⟩ := (except_map_eq_ok_iff ..).mp h
    refine KeyMap.forall_of_tryInsert hPrior (fun session hStarted => ?_) hInsert
    obtain ⟨payload, _, rfl⟩ := (except_map_eq_ok_iff ..).mp hStarted
    exact fun hEnded => by cases hEnded
  case h_4 hType =>
    obtain ⟨sessions, hModify, rfl⟩ := (except_map_eq_ok_iff ..).mp h
    refine KeyMap.forall_of_tryModify hPrior (fun old new hOld hChange _ => ?_) hModify
    obtain ⟨payload, hMerged, rfl⟩ := (except_map_eq_ok_iff ..).mp hChange
    rw [eq_mergedWith hMerged]
    exact (hKeeps hType old hOld).merged
  case h_5 hType =>
    obtain ⟨sessions, hModify, rfl⟩ := (except_map_eq_ok_iff ..).mp h
    refine KeyMap.forall_of_tryModify hPrior (fun old new hOld hChange => ?_) hModify
    obtain ⟨payload, _, rfl⟩ := (except_map_eq_ok_iff ..).mp hChange
    exact fun hEnded => by cases hEnded
  all_goals first
    | obtain ⟨records, hRecords, rfl⟩ := (except_map_eq_ok_iff ..).mp h
      exact hPrior
    | rw [← Except.ok.inj h]
      exact hPrior

theorem EndsInOrder.apply (hPrior : projection.EndsInOrder) (h : projection.apply event = .ok next)
    (hKeeps : ∀ id, event.entityId = some id →
      projection.Keeps event.eventType id event.payload) : next.EndsInOrder := by
  unfold NetControlProjection.apply at h
  cases hId : event.entityId with
  | none =>
      simp only [hId] at h
      rw [← Except.ok.inj h]
      exact hPrior
  | some id =>
      simp only [hId] at h
      obtain ⟨middle, hMiddle, rfl⟩ := (except_map_eq_ok_iff ..).mp h
      intro other session hSession hEnded
      obtain ⟨prior, hRecord, rfl⟩ := Option.map_eq_some_iff.mp
        ((KeyMap.lookup_mapValues ..).symm.trans hSession)
      exact endsInOrder_applyRecords hMiddle hPrior (hKeeps id hId) other prior hRecord hEnded

end Events
end NetControlProjection

/-- An activation that is created or started has its own times in order. -/
theorem Accepts.timesInOrder [UuidCrate] [ChronoCrate] [CanonicalJson] [Sha2Crate]
    {store : InMemoryLogbookEventStore} {context : ProposalContext}
    {proposal : ProposalEnvelope} {fresh : Uuid} {newEvent : NewLogbookEvent}
    (h : Accepts store context proposal fresh newEvent)
    (hType : newEvent.eventType = .activationCreated ∨ newEvent.eventType = .activationStarted) :
    TimesInOrder newEvent.payload := by
  have hOfficial := toOfficialEvent_ok h.official
  obtain ⟨creates, hEvent⟩ := hOfficial.eventType
  obtain ⟨_, payload, hPayload, hValid⟩ := validateQsoSchema_ok h.valid
  obtain ⟨id, _, _, hSet⟩ := hOfficial.entity
  have hProposal : proposal.proposalType = .activationCreate ∨
      proposal.proposalType = .activationStart := by
    rcases hType with hType | hType
    all_goals
      rw [hType] at hEvent
      cases hProposal : proposal.proposalType <;> simp_all [officialEventType]
  rw [hPayload] at hSet
  unfold validatePayload at hValid
  rcases hProposal with hProposal | hProposal
  all_goals
    rw [hProposal] at hValid hSet
    exact (timesInOrder_of_activation hValid).set hSet (by decide) (by decide)

section Runs
variable {B : Type} [EventBus B] [UuidCrate] [ChronoCrate] [RustFmt] [CanonicalJson] [Sha2Crate]

/-- The event leaves what is over as it is, and ends nothing before its start. -/
def KeepsOver (seen : List CoreEventEnvelope) (eventType : EventType) (entityId : Option Uuid)
    (payload : Value) : Prop :=
  ∀ id, entityId = some id →
    (∀ projection, rebuild ActivationProjection seen = .ok projection →
      projection.Keeps eventType id payload) ∧
    ∀ projection, rebuild NetControlProjection seen = .ok projection →
      projection.Keeps eventType id payload

def ProposesToKeep (seen : List CoreEventEnvelope) (newEvent : NewLogbookEvent) : Prop :=
  KeepsOver seen newEvent.eventType newEvent.entityId newEvent.payload

/-- The same of a recorded event, whose own times are in order if it creates
an activation. -/
def RecordedToKeep (seen : List CoreEventEnvelope) (event : CoreEventEnvelope) : Prop :=
  KeepsOver seen event.eventType event.entityId event.payload ∧
    (event.eventType = .activationCreated ∨ event.eventType = .activationStarted →
      TimesInOrder event.payload)

theorem recorded_run {logbookId : Uuid} {start final : InMemoryLogbookEventStore × B}
    {calls : List SubmitCall} (hStart : start.1.Consistent)
    (hLog : Accepted (fun seen event => Readable seen event ∧ RecordedToKeep seen event)
      (start.1.listEvents logbookId))
    (run : Run ((proposalSystem B).restrict (AcceptsOnly logbookId ProposesToKeep)) start calls
      final) : final.1.Consistent ∧
    Accepted (fun seen event => Readable seen event ∧ RecordedToKeep seen event)
      (final.1.listEvents logbookId) := by
  refine accepted_run ?_ run hStart hLog
  intro store context proposal fresh newEvent stamp hAccepts _ hKeeps
  refine ⟨hAccepts.readable _ _ _, ?_⟩
  rw [RecordedToKeep, officialEventAt, CoreEventEnvelope.fromNew_eventType,
    CoreEventEnvelope.fromNew_payload, CoreEventEnvelope.fromNew_entityId]
  exact ⟨hKeeps, hAccepts.timesInOrder⟩

end Runs

section
open Crates

/-! An activation of the first logbook, from noon until another time. -/

def startActivation : SubmitCall :=
  sampleSubmit .activationStart .activationCreate 2
    [("activation_type", .string "field"), ("operator_callsign", .string "KE8YGW"),
      ("started_at", .string "2026-07-06T12:00:00Z"), ("station_callsign", .string "KE8YGW")] 10

def endActivation (endedAt : String) : SubmitCall :=
  sampleSubmit .activationEnd .activationEnd 2 [("ended_at", .string endedAt)] 11

def reopenActivation : SubmitCall :=
  sampleSubmit .activationUpdate .activationUpdate 2 [("status", .string "active")] 12

def endNet (endedAt : String) : SubmitCall :=
  sampleSubmit .netSessionEnd .netSessionEnd 2 [("ended_at", .string endedAt)] 11

/-- The events of the first logbook after submissions. -/
def firstLogbookAfter (calls : List SubmitCall) : List CoreEventEnvelope :=
  (calls.foldl afterSubmission emptyLogbooks).1.listEvents 1

def activationAfter (calls : List SubmitCall) : Option ActivationRecord :=
  (rebuild ActivationProjection (firstLogbookAfter calls)).toOption.bind fun projection =>
    projection.get 2

def netSessionAfter (calls : List SubmitCall) : Option NetSessionRecord :=
  (rebuild NetControlProjection (firstLogbookAfter calls)).toOption.bind fun projection =>
    projection.getSession 2

theorem activationAfter_eq {calls : List SubmitCall} {projection : ActivationProjection}
    (h : rebuild ActivationProjection (firstLogbookAfter calls) = .ok projection) :
    activationAfter calls = projection.get 2 := by
  rw [activationAfter, h]
  rfl

end
end HamLogger
