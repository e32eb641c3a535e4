import HamLogger.Core.Net

/-! When a log can be read back by the contact, activation and net
projections. Whether one event can be applied depends on its payload and on
which records the events before it have created, so it is decided by the log
without the state of the projection. -/
namespace HamLogger

open Replay (Decided Accepted)

/-- An earlier event of one of the given types is about the entity. -/
def CreatedEarlier (kinds : List EventType) (seen : List CoreEventEnvelope) (id : Uuid) : Prop :=
  ∃ event ∈ seen, event.eventType ∈ kinds ∧ event.entityId = some id

theorem createdEarlier_snoc (kinds : List EventType) (seen : List CoreEventEnvelope)
    (event : CoreEventEnvelope) (id : Uuid) :
    CreatedEarlier kinds (seen ++ [event]) id ↔
      CreatedEarlier kinds seen id ∨ (event.eventType ∈ kinds ∧ event.entityId = some id) := by
  constructor
  · rintro ⟨earlier, hMem, hKind, hId⟩
    rcases List.mem_append.mp hMem with hSeen | hLast
    · exact Or.inl ⟨earlier, hSeen, hKind, hId⟩
    · obtain rfl := List.mem_singleton.mp hLast
      exact Or.inr ⟨hKind, hId⟩
  · rintro (⟨earlier, hSeen, hKind, hId⟩ | ⟨hKind, hId⟩)
    · exact ⟨earlier, List.mem_append_left _ hSeen, hKind, hId⟩
    · exact ⟨event, by simp, hKind, hId⟩

/-- A map holds a record for exactly the entities that were created. -/
def Tracks {Record : Type} (kinds : List EventType) (seen : List CoreEventEnvelope)
    (records : KeyMap Uuid Record) : Prop :=
  ∀ id, id ∈ records ↔ CreatedEarlier kinds seen id

namespace Tracks
variable {Record : Type} {kinds : List EventType} {seen : List CoreEventEnvelope}
  {records : KeyMap Uuid Record} {event : CoreEventEnvelope}

theorem empty (kinds : List EventType) : Tracks kinds [] (∅ : KeyMap Uuid Record) := by
  intro id
  constructor
  · intro h
    simp at h
  · rintro ⟨event, hMem, _⟩
    cases hMem

theorem insert (h : Tracks kinds seen records) {id : Uuid} (hKind : event.eventType ∈ kinds)
    (hId : event.entityId = some id) (record : Record) :
    Tracks kinds (seen ++ [event]) (records.insert id record) := by
  intro other
  rw [AList.mem_insert, createdEarlier_snoc, h other, hId]
  simp only [hKind, true_and, Option.some.injEq]
  rw [or_comm, eq_comm]

theorem keep (h : Tracks kinds seen records) (hOther : event.eventType ∉ kinds)
    {changed : KeyMap Uuid Record} (hKeys : ∀ id, id ∈ changed ↔ id ∈ records) :
    Tracks kinds (seen ++ [event]) changed := by
  intro id
  rw [hKeys, h id, createdEarlier_snoc]
  simp [hOther]

theorem keep_of_no_entity (h : Tracks kinds seen records) (hId : event.entityId = none) :
    Tracks kinds (seen ++ [event]) records := by
  intro id
  rw [h id, createdEarlier_snoc]
  simp [hId]

end Tracks

/-- The types of the events that create the records an event merges into. -/
def amends : EventType → List EventType
  | .qsoCorrected => [.qsoCreated]
  | .activationUpdated | .activationEnded => [.activationCreated, .activationStarted]
  | .netTemplateUpdated => [.netTemplateCreated]
  | .netSessionEnded | .netSessionCancelled => [.netSessionStarted]
  | .netCheckinUpdated => [.netCheckinCreated]
  | .netTrafficUpdated => [.netTrafficCreated]
  | _ => []

section Readable
variable [UuidCrate]

/-- What a creation needs of its payload: a field can be assigned in it, and
check-ins and traffic name their session. -/
def CreationReadable (event : CoreEventEnvelope) : Prop :=
  match event.eventType with
  | .qsoCreated | .activationCreated | .activationStarted | .netTemplateCreated
  | .netSessionStarted => event.payload.isIndexable = true
  | .netCheckinCreated | .netTrafficCreated =>
      (uuidField event.payload "net_session_id").isSome = true
  | _ => True

/-- The event can be applied after the events before it: a creation has a
usable payload, and what is merged into an existing record is an object. -/
def Readable (seen : List CoreEventEnvelope) (event : CoreEventEnvelope) : Prop :=
  ∀ id, event.entityId = some id → CreationReadable event ∧
    (CreatedEarlier (amends event.eventType) seen id → event.payload.isObject = true)

/-- The types of events that the contact records can fail on. -/
def qsoKinds : List EventType := [.qsoCreated, .qsoCorrected]

/-- The types of events that the activation records can fail on. -/
def activationKinds : List EventType :=
  [.activationCreated, .activationStarted, .activationUpdated, .activationEnded]

/-- The types of events that the net records can fail on. -/
def netKinds : List EventType :=
  [.netTemplateCreated, .netTemplateUpdated, .netSessionStarted, .netSessionEnded,
   .netSessionCancelled, .netCheckinCreated, .netCheckinUpdated, .netTrafficCreated,
   .netTrafficUpdated]

/-- Readability of the events of some types. -/
def ReadableOf (kinds : List EventType) (seen : List CoreEventEnvelope)
    (event : CoreEventEnvelope) : Prop :=
  event.eventType ∈ kinds → Readable seen event

theorem readable_of_other {seen : List CoreEventEnvelope} {event : CoreEventEnvelope}
    (h : event.eventType ∉ qsoKinds ∧ event.eventType ∉ activationKinds ∧
      event.eventType ∉ netKinds) : Readable seen event := by
  have hCreation : CreationReadable event := by
    unfold CreationReadable
    split <;> simp_all [qsoKinds, activationKinds, netKinds]
  have hAmends : amends event.eventType = [] := by
    unfold amends
    split <;> simp_all [qsoKinds, activationKinds, netKinds]
  intro id hId
  refine ⟨hCreation, ?_⟩
  rintro ⟨earlier, _, hKind, _⟩
  rw [hAmends] at hKind
  cases hKind

/-- Every event is readable or of one of the types a projection can fail on. -/
theorem readable_iff (seen : List CoreEventEnvelope) (event : CoreEventEnvelope) :
    Readable seen event ↔ ReadableOf qsoKinds seen event ∧
      ReadableOf activationKinds seen event ∧ ReadableOf netKinds seen event := by
  constructor
  · exact fun h => ⟨fun _ => h, fun _ => h, fun _ => h⟩
  · rintro ⟨hQso, hActivation, hNet⟩
    by_cases hQsoKind : event.eventType ∈ qsoKinds
    · exact hQso hQsoKind
    · by_cases hActivationKind : event.eventType ∈ activationKinds
      · exact hActivation hActivationKind
      · by_cases hNetKind : event.eventType ∈ netKinds
        · exact hNet hNetKind
        · exact readable_of_other ⟨hQsoKind, hActivationKind, hNetKind⟩

end Readable

section Steps
variable {ε Record : Type} {records : KeyMap Uuid Record} {kinds : List EventType}
  {seen : List CoreEventEnvelope}

/-- Inserting a built record works when building it does. -/
theorem tryInsert_succeeds_iff (records : KeyMap Uuid Record) (id : Uuid)
    (build : Outcome ε Record) :
    (∃ next, KeyMap.tryInsert records id build = .ok next) ↔ ∃ record, build = .ok record := by
  constructor
  · rintro ⟨next, h⟩
    obtain ⟨record, hBuild, _⟩ := (KeyMap.tryInsert_eq_ok_iff ..).mp h
    exact ⟨record, hBuild⟩
  · rintro ⟨record, hBuild⟩
    exact ⟨_, (KeyMap.tryInsert_eq_ok_iff ..).mpr ⟨record, hBuild, rfl⟩⟩

/-- Merging into a record works when there is none or the patch is an object. -/
theorem tryModify_succeeds_of_tracks (h : Tracks kinds seen records) (id : Uuid)
    {change : Record → Outcome ε Record} {payload : Value}
    (hChange : ∀ record, (∃ next, change record = .ok next) ↔ payload.isObject = true) :
    (∃ next, KeyMap.tryModify records id change = .ok next) ↔
      (CreatedEarlier kinds seen id → payload.isObject = true) := by
  rw [KeyMap.tryModify_succeeds_iff, ← h id, ← AList.lookup_isSome, Option.isSome_iff_exists]
  constructor
  · rintro hAll ⟨record, hRecord⟩
    exact (hChange record).mp (hAll record hRecord)
  · intro hObject record hRecord
    exact (hChange record).mpr (hObject ⟨record, hRecord⟩)

theorem map_succeeds_iff {α β : Type} (convert : α → β) (outcome : Except ε α) :
    (∃ result, outcome.map convert = .ok result) ↔ ∃ inner, outcome = .ok inner := by
  cases outcome <;> simp [Except.map]

end Steps

theorem not_createdEarlier_nil (seen : List CoreEventEnvelope) (id : Uuid) :
    ¬CreatedEarlier [] seen id := by
  rintro ⟨event, _, hKind, _⟩
  cases hKind

theorem qso_corrected_succeeds_iff (event : CoreEventEnvelope) (record : QsoRecord) :
    (∃ next, QsoCurrentStateProjection.correctedRecord event record = .ok next) ↔
      event.payload.isObject = true := by
  rw [QsoCurrentStateProjection.correctedRecord, map_succeeds_iff]
  exact Value.mergeObject_succeeds_iff _ _ _

theorem activation_merged_succeeds_iff (event : CoreEventEnvelope) (status : Option String)
    (record : ActivationRecord) :
    (∃ next, ActivationProjection.mergedRecord event status record = .ok next) ↔
      event.payload.isObject = true := by
  rw [ActivationProjection.mergedRecord, map_succeeds_iff]
  exact Value.mergeObject_succeeds_iff _ _ _

section Decisions
variable [UuidCrate]

theorem readableOf_of_no_entity {kinds : List EventType} {seen : List CoreEventEnvelope}
    {event : CoreEventEnvelope} (hId : event.entityId = none) : ReadableOf kinds seen event := by
  intro _ id h
  rw [hId] at h
  cases h

/-- For an event about an entity, of a type the projection can fail on. -/
theorem readableOf_iff {kinds : List EventType} {seen : List CoreEventEnvelope}
    {event : CoreEventEnvelope} {id : Uuid} (hId : event.entityId = some id)
    (hKind : event.eventType ∈ kinds) :
    ReadableOf kinds seen event ↔ CreationReadable event ∧
      (CreatedEarlier (amends event.eventType) seen id → event.payload.isObject = true) := by
  constructor
  · exact fun h => h hKind id hId
  · intro h _ other hOther
    rw [hId] at hOther
    obtain rfl := Option.some.inj hOther
    exact h

theorem qso_created_succeeds_iff (event : CoreEventEnvelope) (id : Uuid) :
    (∃ record, QsoCurrentStateProjection.createdRecord event id = .ok record) ↔
      event.payload.isIndexable = true := by
  rw [QsoCurrentStateProjection.createdRecord, map_succeeds_iff, assignField_succeeds_iff]

/-- The contact projection fails exactly on its unreadable events. -/
theorem qso_decided : Decided (Projection.apply (P := QsoCurrentStateProjection))
    (fun seen projection => Tracks [.qsoCreated] seen projection.records)
    (ReadableOf qsoKinds) where
  succeeds seen projection event h := by
    show (∃ next, projection.apply event = .ok next) ↔ _
    unfold QsoCurrentStateProjection.apply
    cases hId : event.entityId with
    | none => exact iff_of_true ⟨_, rfl⟩ (readableOf_of_no_entity hId)
    | some id =>
        dsimp only
        split
        · rename_i hType
          rw [map_succeeds_iff, tryInsert_succeeds_iff, qso_created_succeeds_iff,
            readableOf_iff hId (by simp [qsoKinds, hType])]
          simp [CreationReadable, amends, hType, not_createdEarlier_nil]
        · rename_i hType
          rw [map_succeeds_iff,
            tryModify_succeeds_of_tracks h id (qso_corrected_succeeds_iff event),
            readableOf_iff hId (by simp [qsoKinds, hType])]
          simp [CreationReadable, amends, hType]
        all_goals exact iff_of_true ⟨_, rfl⟩ fun hKind => by simp_all [qsoKinds]
  keeps seen projection event next h hApply := by
    have hStep : projection.apply event = .ok next := hApply
    unfold QsoCurrentStateProjection.apply at hStep
    cases hId : event.entityId with
    | none =>
        rw [hId] at hStep
        obtain rfl : projection = next := by simpa using hStep
        exact h.keep_of_no_entity hId
    | some id =>
        rw [hId] at hStep
        dsimp only at hStep
        split at hStep
        · rename_i hType
          obtain ⟨records, hInsert, rfl⟩ := (except_map_eq_ok_iff ..).mp hStep
          obtain ⟨record, _, rfl⟩ := (KeyMap.tryInsert_eq_ok_iff ..).mp hInsert
          exact h.insert (by simp [hType]) hId record
        · rename_i hType
          obtain ⟨records, hModify, rfl⟩ := (except_map_eq_ok_iff ..).mp hStep
          exact h.keep (by simp [hType]) (KeyMap.mem_of_tryModify hModify)
        all_goals
          obtain rfl := Except.ok.inj hStep
          exact h.keep (by simp_all) fun other => by simp

theorem activation_created_succeeds_iff (event : CoreEventEnvelope) (id : Uuid) :
    (∃ record, ActivationProjection.createdRecord event id = .ok record) ↔
      event.payload.isIndexable = true := by
  rw [ActivationProjection.createdRecord, map_succeeds_iff, assignField_succeeds_iff]

/-- The types of the events that put an activation record in place. -/
def activationCreations : List EventType := [.activationCreated, .activationStarted]

/-- The activation records fail exactly on their unreadable events. -/
theorem activation_records_succeeds_iff {seen : List CoreEventEnvelope}
    {records : KeyMap Uuid ActivationRecord} (h : Tracks activationCreations seen records)
    {event : CoreEventEnvelope} {id : Uuid} (hId : event.entityId = some id) :
    (∃ next, ActivationProjection.applyRecords records event id = .ok next) ↔
      ReadableOf activationKinds seen event := by
  unfold ActivationProjection.applyRecords
  split
  · rename_i hType
    rw [tryInsert_succeeds_iff, activation_created_succeeds_iff,
      readableOf_iff hId (by simp [activationKinds, hType])]
    simp [CreationReadable, amends, hType, not_createdEarlier_nil]
  · rename_i hType
    rw [tryInsert_succeeds_iff, activation_created_succeeds_iff,
      readableOf_iff hId (by simp [activationKinds, hType])]
    simp [CreationReadable, amends, hType, not_createdEarlier_nil]
  · rename_i hType
    rw [tryModify_succeeds_of_tracks h id (activation_merged_succeeds_iff event _),
      readableOf_iff hId (by simp [activationKinds, hType])]
    simp [CreationReadable, amends, activationCreations, hType]
  · rename_i hType
    rw [tryModify_succeeds_of_tracks h id (activation_merged_succeeds_iff event _),
      readableOf_iff hId (by simp [activationKinds, hType])]
    simp [CreationReadable, amends, activationCreations, hType]
  · exact iff_of_true ⟨_, rfl⟩ fun hKind => by simp_all [activationKinds]
  · exact iff_of_true ⟨_, rfl⟩ fun hKind => by simp_all [activationKinds]
  · split <;> exact iff_of_true ⟨_, rfl⟩ fun hKind => by simp_all [activationKinds]
  · split <;> exact iff_of_true ⟨_, rfl⟩ fun hKind => by simp_all [activationKinds]
  · exact iff_of_true ⟨_, rfl⟩ fun hKind => by simp_all [activationKinds]

theorem activation_records_keeps {seen : List CoreEventEnvelope}
    {records next : KeyMap Uuid ActivationRecord} (h : Tracks activationCreations seen records)
    {event : CoreEventEnvelope} {id : Uuid} (hId : event.entityId = some id)
    (hApply : ActivationProjection.applyRecords records event id = .ok next) :
    Tracks activationCreations (seen ++ [event]) next := by
  unfold ActivationProjection.applyRecords at hApply
  split at hApply
  · rename_i hType
    obtain ⟨record, _, rfl⟩ := (KeyMap.tryInsert_eq_ok_iff ..).mp hApply
    exact h.insert (by simp [activationCreations, hType]) hId record
  · rename_i hType
    obtain ⟨record, _, rfl⟩ := (KeyMap.tryInsert_eq_ok_iff ..).mp hApply
    exact h.insert (by simp [activationCreations, hType]) hId record
  · rename_i hType
    exact h.keep (by simp [activationCreations, hType]) (KeyMap.mem_of_tryModify hApply)
  · rename_i hType
    exact h.keep (by simp [activationCreations, hType]) (KeyMap.mem_of_tryModify hApply)
  · obtain rfl := Except.ok.inj hApply
    exact h.keep (by simp_all [activationCreations]) fun other => by simp
  · obtain rfl := Except.ok.inj hApply
    exact h.keep (by simp_all [activationCreations]) fun other => by simp
  · split at hApply <;> obtain rfl := Except.ok.inj hApply <;>
      exact h.keep (by simp_all [activationCreations]) fun other => by simp
  · split at hApply <;> obtain rfl := Except.ok.inj hApply <;>
      exact h.keep (by simp_all [activationCreations]) fun other => by simp
  · obtain rfl := Except.ok.inj hApply
    exact h.keep (by simp_all [activationCreations]) fun other => Iff.rfl

/-- Applying an event to the activations applies it to the contacts first. -/
theorem activation_apply_succeeds_iff (projection : ActivationProjection)
    (event : CoreEventEnvelope) :
    (∃ next, projection.apply event = .ok next) ↔
      (∃ qsos, projection.qsoProjection.apply event = .ok qsos) ∧
      ∀ id, event.entityId = some id →
        ∃ records, ActivationProjection.applyRecords projection.records event id = .ok records := by
  unfold ActivationProjection.apply
  cases hQso : projection.qsoProjection.apply event with
  | error fault => simp
  | ok qsos =>
      cases hId : event.entityId with
      | none => simp
      | some id => simp [map_succeeds_iff]

/-- The activation projection fails exactly on the unreadable events of its
own and of the contacts. -/
theorem activation_decided : Decided (Projection.apply (P := ActivationProjection))
    (fun seen projection => Tracks [.qsoCreated] seen projection.qsoProjection.records ∧
      Tracks activationCreations seen projection.records)
    (fun seen event => ReadableOf qsoKinds seen event ∧ ReadableOf activationKinds seen event) where
  succeeds seen projection event h := by
    show (∃ next, projection.apply event = .ok next) ↔ _
    rw [activation_apply_succeeds_iff, ← qso_decided.succeeds seen _ event h.1]
    refine and_congr_right fun _ => ?_
    cases hId : event.entityId with
    | none => exact iff_of_true (fun id hSome => by cases hSome) (readableOf_of_no_entity hId)
    | some id =>
        rw [← activation_records_succeeds_iff h.2 hId]
        constructor
        · exact fun hAll => hAll id rfl
        · rintro hOne other hOther
          obtain rfl := Option.some.inj hOther
          exact hOne
  keeps seen projection event next h hApply := by
    have hStep : projection.apply event = .ok next := hApply
    unfold ActivationProjection.apply at hStep
    cases hQso : projection.qsoProjection.apply event with
    | error fault => simp [hQso] at hStep
    | ok qsos =>
        have hQsoKept := qso_decided.keeps seen _ event qsos h.1 hQso
        cases hId : event.entityId with
        | none =>
            simp only [hQso, hId] at hStep
            obtain rfl := Except.ok.inj hStep
            refine ⟨hQsoKept, fun id => ?_⟩
            rw [ActivationProjection.recomputeStats, KeyMap.mem_mapValues]
            exact h.2.keep_of_no_entity hId id
        | some id =>
            simp only [hQso, hId] at hStep
            obtain ⟨records, hRecords, rfl⟩ := (except_map_eq_ok_iff ..).mp hStep
            refine ⟨hQsoKept, fun other => ?_⟩
            rw [ActivationProjection.recomputeStats, KeyMap.mem_mapValues]
            exact activation_records_keeps h.2 hId hRecords other

end Decisions
end HamLogger
