import HamLogger.Core.Crates
import HamLogger.Core.EmCommReadability

/-! Applying one event to the incident records: a failed event leaves the
projection as it was, except for one that corrects a person. -/
namespace HamLogger.EmCommProjection

/-- A committed call that fails changes nothing. -/
theorem commit_of_error {projection : EmCommProjection}
    {result : Except EmCommProjectionError EmCommProjection} {error : EmCommProjectionError}
    (h : (projection.commit result).2 = .error error) :
    (projection.commit result).1 = projection := by
  cases result with
  | ok next => cases h
  | error => rfl

/-- A record that takes an amendment has one more entry in its history. -/
theorem append_ne {Status : Type} {record amended : EmCommRecord Status}
    {event : CoreEventEnvelope} {status : Status}
    (h : record.append event status = .ok amended) : amended.history ≠ record.history := by
  unfold EmCommRecord.append at h
  split at h
  · cases h
  · obtain rfl := Except.ok.inj h
    simp

theorem append_succeeds_iff {Status : Type} (record : EmCommRecord Status)
    {event : CoreEventEnvelope} (hEvent : event.payload.isObject = true) (status : Status) :
    (∃ amended, record.append event status = .ok amended) ↔ record.payload.isObject = true := by
  constructor
  · intro h
    obtain ⟨amended, hAmended⟩ := h
    obtain ⟨patch, hPatch⟩ := (Value.isObject_iff _).mp hEvent
    cases hTarget : record.payload <;>
      simp_all [EmCommRecord.append, mergePayload, Value.asObject]
  · intro h
    obtain ⟨amended, hAmended, _⟩ := EmCommRecord.append_of_isObject h hEvent status
    exact ⟨amended, hAmended⟩

section Person
variable [UuidCrate]

/-- The event corrects a person on record, and the period it names is not an
identifier. -/
structure HalfUpdates (projection : EmCommProjection) (event : CoreEventEnvelope) : Prop where
  eventType : event.eventType = .emcommPersonUpdated
  isObject : event.payload.isObject = true
  recorded : ∃ id person, event.entityId = some id ∧ projection.people.lookup id = some person ∧
    person.record.payload.isObject = true
  period : ¬ OptionalUuidField event.payload "period_id"

instance (payload : Value) (key : String) : Decidable (OptionalUuidField payload key) :=
  inferInstanceAs (Decidable (_ ∨ _ ∨ _))

theorem optionalUuid_fails_iff (payload : Fields) (key : String) :
    (∃ error, optionalUuid payload key = .error error) ↔
      ¬ OptionalUuidField (.object payload) key := by
  rw [← optionalUuid_succeeds_iff]
  cases optionalUuid payload key <;> simp

/-- A correction of a person that fails keeps the person as it was, unless the
record took the amendment before the period was read. -/
theorem updatePerson_atomic_iff {projection : EmCommProjection} {event : CoreEventEnvelope}
    {payload : Fields} {id : Uuid} (hType : event.eventType = .emcommPersonUpdated)
    (hId : event.entityId = some id) (hPayload : event.payload = .object payload) :
    (∀ error, (projection.updatePerson id event payload).2 = .error error →
        (projection.updatePerson id event payload).1 = projection) ↔
      ¬ HalfUpdates projection event := by
  have hObject : event.payload.isObject = true := by
    rw [hPayload]
    rfl
  cases hPerson : projection.people.lookup id with
  | none =>
      have hUpdate : projection.updatePerson id event payload = (projection, .ok ()) := by
        rw [updatePerson, hPerson]
      rw [hUpdate]
      refine iff_of_true (fun _ _ => rfl) fun hHalf => ?_
      obtain ⟨other, person, hOther, hFound, _⟩ := hHalf.recorded
      cases hId.symm.trans hOther
      cases hPerson.symm.trans hFound
  | some person =>
      cases hAppend : person.record.append event person.record.status with
      | error failure =>
          have hUpdate : projection.updatePerson id event payload =
              (projection, .error failure) := by
            rw [updatePerson, hPerson]
            dsimp only
            rw [hAppend]
          rw [hUpdate]
          refine iff_of_true (fun _ _ => rfl) fun hHalf => ?_
          obtain ⟨other, found, hOther, hFound, hTarget⟩ := hHalf.recorded
          cases hId.symm.trans hOther
          cases hPerson.symm.trans hFound
          obtain ⟨amended, hAmended⟩ :=
            (append_succeeds_iff _ hObject person.record.status).mpr hTarget
          cases hAppend.symm.trans hAmended
      | ok amended =>
          have hTarget : person.record.payload.isObject = true :=
            (append_succeeds_iff _ hObject _).mp ⟨amended, hAppend⟩
          cases hPeriod : optionalUuid payload "period_id" with
          | ok period =>
              have hField : OptionalUuidField event.payload "period_id" := by
                rw [hPayload, ← optionalUuid_succeeds_iff]
                exact ⟨period, hPeriod⟩
              refine iff_of_true (fun error hError => ?_) fun hHalf => hHalf.period hField
              rw [updatePerson, hPerson] at hError
              dsimp only at hError
              rw [hAppend, hPeriod] at hError
              cases period <;> cases hError
          | error failure =>
              have hField : ¬ OptionalUuidField event.payload "period_id" := by
                rw [hPayload, ← optionalUuid_fails_iff]
                exact ⟨failure, hPeriod⟩
              have hUpdate : projection.updatePerson id event payload =
                  ({ projection with
                    people := projection.people.insert id { person with record := amended } },
                    .error failure) := by
                rw [updatePerson, hPerson]
                dsimp only
                rw [hAppend, hPeriod]
              rw [hUpdate]
              refine iff_of_false (fun hSame => ?_) (not_not.mpr ⟨hType, hObject, ?_, hField⟩)
              · -- the history of the person has grown
                have hPeople : projection.people.insert id { person with record := amended } =
                    projection.people := congrArg people (hSame failure rfl)
                have hFound : (projection.people.insert id { person with
                    record := amended }).lookup id = some person := by
                  rw [hPeople, hPerson]
                rw [AList.lookup_insert] at hFound
                have hRecord := congrArg PersonRecord.record (Option.some.inj hFound)
                exact append_ne hAppend (congrArg EmCommRecord.history hRecord)
              · exact ⟨id, person, hId, hPerson, hTarget⟩

end Person

section Apply
variable [UuidCrate] [ChronoCrate]

/-- Apply every event, going on after those that fail. -/
def applyEach (projection : EmCommProjection) (events : List CoreEventEnvelope) :
    EmCommProjection :=
  events.foldl (fun projection event => (projection.apply event).1) projection

/-- Every event but the correction of a person is read in full before anything
is written. -/
theorem applyRecords_of_error {projection : EmCommProjection} {event : CoreEventEnvelope}
    {id : Uuid} {payload : Fields} (hType : event.eventType ≠ .emcommPersonUpdated)
    {error : EmCommProjectionError}
    (h : (projection.applyRecords event id payload).2 = .error error) :
    (projection.applyRecords event id payload).1 = projection := by
  unfold applyRecords at h ⊢
  split at h
  all_goals first
    | exact commit_of_error h
    | contradiction

/-- A failed event leaves the projection as it was, unless it corrects a person
on record with a period that is not an identifier. -/
theorem apply_unchanged_iff (projection : EmCommProjection) (event : CoreEventEnvelope) :
    (∀ error, (projection.apply event).2 = .error error →
        (projection.apply event).1 = projection) ↔
      ¬ HalfUpdates projection event := by
  cases hId : event.entityId with
  | none =>
      have hApply : projection.apply event = (projection, .ok ()) := by
        rw [apply, hId]
      rw [hApply]
      refine iff_of_true (fun _ _ => rfl) fun hHalf => ?_
      obtain ⟨id, person, hSome, _⟩ := hHalf.recorded
      cases hId.symm.trans hSome
  | some id =>
      cases hPayload : event.payload.asObject with
      | none =>
          refine iff_of_true (fun error hError => ?_) fun hHalf => ?_
          · rw [apply, hId]
            dsimp only
            split
            · rfl
            · rw [hPayload]
          · have hObject := hHalf.isObject
            rw [Value.isObject, hPayload] at hObject
            cases hObject
      | some payload =>
          have hValue : event.payload = .object payload := by
            cases hEvent : event.payload <;> simp_all [Value.asObject]
          by_cases hType : event.eventType = .emcommPersonUpdated
          · have hApply : projection.apply event = projection.updatePerson id event payload := by
              rw [apply, hId]
              dsimp only
              rw [if_neg (by rw [hType]; decide), hPayload]
              dsimp only
              rw [applyRecords, hType]
            rw [hApply]
            exact updatePerson_atomic_iff hType hId hValue
          · refine iff_of_true (fun error hError => ?_) fun hHalf => hType hHalf.eventType
            rw [apply, hId] at hError ⊢
            dsimp only at hError ⊢
            split at hError
            · cases hError
            · rename_i hEmComm
              rw [hPayload] at hError ⊢
              rw [if_neg hEmComm]
              exact applyRecords_of_error hType hError

/-- The same for going on after a failed event, which is then going on without
it. -/
theorem apply_atomic_iff (projection : EmCommProjection) (event : CoreEventEnvelope) :
    (∀ error, (projection.apply event).2 = .error error →
        (projection.apply event).1 = projection ∧
          ∀ rest, projection.applyEach (event :: rest) = projection.applyEach rest) ↔
      ¬ HalfUpdates projection event := by
  rw [← apply_unchanged_iff]
  constructor
  · intro h error hError
    exact (h error hError).1
  · intro h error hError
    refine ⟨h error hError, fun rest => ?_⟩
    rw [applyEach, List.foldl_cons, h error hError, applyEach]

end Apply

section
open Crates

/-- A person is checked in and then corrected with a period that is a name. The
correction fails and stays in the history of the person. -/
theorem named_period_half_updates :
    let checkIn := CoreEventEnvelope.fromNew (sampleEvent .emcommPersonCheckedIn 1 (some 2)
      (.object [("incident_id", .string "00000000-0000-0000-0000-000000000003")])) none
      (sampleStamp 4)
    let correction := CoreEventEnvelope.fromNew (sampleEvent .emcommPersonUpdated 1 (some 2)
      (.object [("period_id", .string "night shift")])) (some checkIn.eventHash) (sampleStamp 5)
    let projection := applyEach {} [checkIn]
    ∃ error, (projection.apply correction).2 = .error error ∧
      (projection.apply correction).1 ≠ projection := by
  intro checkIn correction projection
  have hHalf : HalfUpdates projection correction := by
    refine ⟨rfl, rfl, ⟨2, _, rfl, rfl, rfl⟩, ?_⟩
    rw [CoreEventEnvelope.fromNew_payload]
    decide
  by_contra hNone
  refine (apply_unchanged_iff projection correction).mp (fun error hError => ?_) hHalf
  by_contra hChanged
  exact hNone ⟨error, hError, hChanged⟩

end

end HamLogger.EmCommProjection
