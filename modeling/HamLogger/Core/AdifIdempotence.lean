import HamLogger.Core.AdifImport
import HamLogger.Core.ContactRules

/-! What an import counts, which records it skips, and what a second import of
the same text does. Every record that was imported or skipped is a duplicate of
a visible contact from then on, and every other record fails again. -/
namespace HamLogger

open Projection (rebuild)

/-- An existing contact that makes a payload a duplicate. A payload without a
band is compared with contacts on any band, and the window reaches up to the
next minute. -/
structure SameContact [ChronoCrate] (windowMinutes : Int64) (payload existing : Value) : Prop where
  callsign : ∃ value, textField existing "contacted_callsign" = some value ∧
    eqIgnoreAsciiCase value ((textField payload "contacted_callsign").getD "") = true
  mode : ∃ value, textField existing "mode" = some value ∧
    eqIgnoreAsciiCase value ((textField payload "mode").getD "") = true
  band : ∀ band, textField payload "band" = some band →
    ∃ value, textField existing "band" = some value ∧ eqIgnoreAsciiCase value band = true
  time : ∃ startedAt existingStarted, instantField payload "started_at" = some startedAt ∧
    instantField existing "started_at" = some existingStarted ∧
      ((existingStarted.nanos - startedAt.nanos).natAbs : Int) <
        (windowMinutes.toInt + 1) * 60000000000

theorem minutesApart_le_iff (first second : DateTime) (minutes : Int) :
    (minutesApart first second : Int) ≤ minutes ↔
      ((first.nanos - second.nanos).natAbs : Int) < (minutes + 1) * 60000000000 := by
  have hMinutes : minutesApart first second =
      (first.nanos - second.nanos).natAbs / 60000000000 := Int.natAbs_tdiv _ _
  omega

section Checks
variable {α β : Type} {ε : Type}

theorem outcome_bind_ne_panic {first : Outcome ε α} {next : α → Outcome ε β}
    (hFirst : first ≠ .error .panic) (hNext : ∀ value, next value ≠ .error .panic) :
    (first >>= next) ≠ .error .panic := by
  intro h
  rcases (except_bind_eq_error_iff ..).mp h with hPanics | ⟨value, _, hPanics⟩
  · exact hFirst hPanics
  · exact hNext value hPanics

theorem requireStrings_ne_panic (payload : Fields) (label : String) (fields : List String) :
    requireStrings payload label fields ≠ .error .panic := by
  induction fields with
  | nil => exact fun h => by cases h
  | cons field fields ih =>
      refine outcome_bind_ne_panic ?_ fun _ => ih
      unfold requireString
      split <;> exact fun h => by cases h

theorem validateStartedAt_ne_panic [ChronoCrate] (payload : Fields) :
    validateStartedAt payload ≠ .error .panic := by
  unfold validateStartedAt validateTime
  split
  · exact fun h => by cases h
  · split <;> exact fun h => by cases h

theorem validateFrequency_ne_panic (payload : Fields) :
    validateFrequency payload ≠ .error .panic := by
  unfold validateFrequency
  split
  · exact fun h => by cases h
  · split
    · exact fun h => by cases h
    · split <;> exact fun h => by cases h

/-- The payload of a record is an object. -/
theorem adifRecordToQsoPayload_object [ChronoFormat] [FloatText] {record : AdifRecord}
    {options : AdifImportOptions} {payload : Value}
    (h : adifRecordToQsoPayload record options = .ok payload) :
    ∃ fields, payload = .object fields := by
  obtain ⟨callsign, _, h⟩ := (except_bind_eq_ok_iff ..).mp h
  obtain ⟨mode, _, h⟩ := (except_bind_eq_ok_iff ..).mp h
  obtain ⟨startedAt, _, h⟩ := (except_bind_eq_ok_iff ..).mp h
  obtain ⟨endedAt, _, h⟩ := (except_bind_eq_ok_iff ..).mp h
  exact ⟨_, (Except.ok.inj h).symm⟩

end Checks

section Duplicates
variable [ChronoCrate] {payload existing : Value} {window : Int64}

theorem isDuplicate_iff (projection : QsoCurrentStateProjection) :
    isDuplicate projection payload window = true ↔
      ∃ contact ∈ projection.list false, SameContact window payload contact.payload := by
  unfold isDuplicate
  cases hStarted : instantField payload "started_at" with
  | none =>
      refine iff_of_false (by simp) ?_
      rintro ⟨contact, _, _, _, _, startedAt, _, hSome, _⟩
      rw [hStarted] at hSome
      cases hSome
  | some startedAt =>
      simp only [List.any_eq_true, Bool.and_eq_true, Option.any_eq_true, decide_eq_true_eq,
        minutesApart_le_iff]
      refine exists_congr fun contact => and_congr_right fun _ => ?_
      constructor
      · rintro ⟨⟨⟨hCall, hMode⟩, hBand⟩, existingStarted, hExisting, hClose⟩
        refine ⟨hCall, hMode, fun band hSome => ?_,
          startedAt, existingStarted, hStarted, hExisting, hClose⟩
        rw [hSome] at hBand
        simpa [Option.any_eq_true] using hBand
      · rintro ⟨hCall, hMode, hBand, other, existingStarted, hOther, hExisting, hClose⟩
        obtain rfl := Option.some.inj (hStarted.symm.trans hOther)
        refine ⟨⟨⟨hCall, hMode⟩, ?_⟩, existingStarted, hExisting, hClose⟩
        cases hSome : textField payload "band" with
        | none => rfl
        | some band => simpa [Option.any_eq_true] using hBand band hSome

/-- A contact that has the compared fields of a payload is the same contact. -/
theorem SameContact.of_fields (hRules : ContactRules payload) (hWindow : 0 ≤ window.toInt)
    (h : ∀ key ∈ ["contacted_callsign", "mode", "band", "started_at"],
      existing.get key = payload.get key) : SameContact window payload existing := by
  have hText : ∀ key ∈ ["contacted_callsign", "mode", "band", "started_at"],
      textField existing key = textField payload key := fun key hKey => by
    rw [textField, textField, h key hKey]
  have hName : ∀ key ∈ contactNames, ∃ value, textField payload key = some value := by
    intro key hKey
    have hString := hRules.names key hKey
    cases hValue : payload.get key with
    | none => simp [hValue] at hString
    | some value =>
        cases value <;> simp_all [textField, Value.isString, Value.asStr]
  have hSame : ∀ value, eqIgnoreAsciiCase value value = true := by simp [eqIgnoreAsciiCase]
  obtain ⟨callsign, hCallsign⟩ := hName "contacted_callsign" (by decide)
  obtain ⟨mode, hMode⟩ := hName "mode" (by decide)
  obtain ⟨startedAt, hStarted⟩ : ∃ startedAt,
      instantField payload "started_at" = some startedAt := by
    have hInstant := hRules.startedAt
    cases hValue : payload.get "started_at" with
    | none => simp [hValue] at hInstant
    | some value =>
        rw [hValue, Option.any_some, isInstant, Option.isSome_iff_exists] at hInstant
        obtain ⟨instant, hInstant⟩ := hInstant
        exact ⟨instant, by rw [instantField, textField, hValue]; exact hInstant⟩
  refine ⟨⟨callsign, ?_, ?_⟩, ⟨mode, ?_, ?_⟩, fun band hBand => ⟨band, ?_, hSame band⟩,
    startedAt, startedAt, hStarted, ?_, ?_⟩
  · rw [hText _ (by decide), hCallsign]
  · rw [hCallsign]
    exact hSame callsign
  · rw [hText _ (by decide), hMode]
  · rw [hMode]
    exact hSame mode
  · rw [hText _ (by decide), hBand]
  · rw [instantField, hText _ (by decide)]
    exact hStarted
  · rw [Int.sub_self, Int.natAbs_zero]
    omega

end Duplicates

section Steps
variable [UuidCrate] [CanonicalJson] [Sha2Crate] {context : ProposalContext} {logbookId : Uuid}
  {options : AdifImportOptions} {stamp : ImportStamp}

/-- The official event of an imported contact. -/
structure IsImported (logbookId : Uuid) (payload : Value) (fresh : Uuid)
    (newEvent : NewLogbookEvent) : Prop where
  eventType : newEvent.eventType = .qsoCreated
  entityId : newEvent.entityId = some fresh
  logbook : newEvent.logbookId = logbookId
  payload : payload.set "qso_id" (uuidJson fresh) = some newEvent.payload

/-- A created contact comes beside the others. -/
theorem apply_imported {payload : Value} {fresh : Uuid} {newEvent : NewLogbookEvent}
    (h : IsImported logbookId payload fresh newEvent) (projection : QsoCurrentStateProjection)
    (previousHash : Option String) (stamp : EventStamp) : ∃ record : QsoRecord,
      projection.apply (.fromNew newEvent previousHash stamp) =
        .ok { projection with records := projection.records.insert fresh record } ∧
      record.deleted = false ∧
      ∀ key, key ≠ "qso_id" → record.payload.get key = payload.get key := by
  obtain ⟨assigned, hAssigned⟩ : ∃ assigned,
      newEvent.payload.set "qso_id" (uuidJson fresh) = some assigned := by
    have hSet := h.payload
    cases hPayload : newEvent.payload with
    | object fields => exact ⟨_, rfl⟩
    | null => exact ⟨_, rfl⟩
    | bool _ | number _ | string _ | array _ =>
        cases payload <;> simp [Value.set, hPayload] at hSet
  have hEntity : (CoreEventEnvelope.fromNew newEvent previousHash stamp).entityId = some fresh :=
    h.entityId
  have hType : (CoreEventEnvelope.fromNew newEvent previousHash stamp).eventType = .qsoCreated :=
    h.eventType
  have hPayload : (CoreEventEnvelope.fromNew newEvent previousHash stamp).payload =
      newEvent.payload := rfl
  have hCreated : (assignField (CoreEventEnvelope.fromNew newEvent previousHash stamp).payload
      "qso_id" (uuidJson fresh) : Outcome ProjectionError Value) = .ok assigned := by
    rw [assignField, hPayload, hAssigned]
  refine ⟨{ qsoId := fresh, payload := assigned, noteHistory := [], deleted := false
            lastEventHash := (CoreEventEnvelope.fromNew newEvent previousHash stamp).eventHash },
    ?_, rfl, ?_⟩
  · rw [QsoCurrentStateProjection.apply, hEntity]
    dsimp only
    rw [hType]
    dsimp only
    rw [QsoCurrentStateProjection.createdRecord, hCreated]
    rfl
  · intro key hKey
    exact (Value.get_set_of_ne hKey hAssigned).trans (Value.get_set_of_ne hKey h.payload)

theorem currentContacts_of_rebuild {store : InMemoryLogbookEventStore}
    {projection : QsoCurrentStateProjection}
    (h : rebuild QsoCurrentStateProjection (store.listEvents logbookId) = .ok projection) :
    currentContacts store logbookId = some projection := by
  have hStore : LogbookEventStore.rebuildProjections store logbookId =
      (.ok projection : Outcome StoreError QsoCurrentStateProjection) := by
    show Outcome.mapError _ (rebuild QsoCurrentStateProjection (store.listEvents logbookId)) = _
    rw [h]
    rfl
  rw [currentContacts, hStore]

variable [ChronoCrate]

theorem isImported_of_accepts {store : InMemoryLogbookEventStore} {payload : Value}
    {newEvent : NewLogbookEvent}
    (h : Accepts store context (qsoProposal logbookId options payload stamp)
      stamp.submission.freshEntityId newEvent) :
    IsImported logbookId payload stamp.submission.freshEntityId newEvent := by
  have hOfficial := h.official
  simp only [toOfficialEvent, qsoProposal, officialEventType] at hOfficial
  obtain ⟨id, hId, hRest⟩ := (except_bind_eq_ok_iff ..).mp hOfficial
  obtain ⟨assigned, hAssigned, hEvent⟩ := (except_bind_eq_ok_iff ..).mp hRest
  obtain rfl : stamp.submission.freshEntityId = id := Except.ok.inj hId
  obtain rfl := Except.ok.inj hEvent
  refine ⟨rfl, rfl, rfl, ?_⟩
  unfold assignField at hAssigned
  split at hAssigned
  · next result hSet =>
      rw [← Except.ok.inj hAssigned]
      exact hSet
  · cases hAssigned

/-- Whether a payload is accepted depends on nothing but the payload. -/
theorem accepts_again {store other : InMemoryLogbookEventStore} {payload : Value}
    {newEvent : NewLogbookEvent} {again : ImportStamp}
    (h : Accepts store context (qsoProposal logbookId options payload stamp)
      stamp.submission.freshEntityId newEvent) : ∃ newEvent,
        Accepts other context (qsoProposal logbookId options payload again)
          again.submission.freshEntityId newEvent := by
  obtain ⟨_, fields, hPayload, _⟩ := validateQsoSchema_ok h.valid
  obtain rfl : payload = .object fields := hPayload
  have hAuthorized : Authorized context
      (qsoProposal logbookId options (.object fields) again) :=
    ⟨h.authorized.plugin, h.authorized.granted, h.authorized.role⟩
  exact ⟨_, hAuthorized, h.valid, rfl⟩

/-- The checks on a contact and its translation do not panic. -/
theorem calm_qsoProposal {B : Type} [EventBus B] [RustFmt] (fields : Fields) :
    Calm (submitProposal context (qsoProposal logbookId options (.object fields) stamp)
      stamp.submission : Submission InMemoryLogbookEventStore B ProposalOutcome) := by
  refine calm_submitProposal (fun store => ?_) ?_
  · exact outcome_bind_ne_panic (requireStrings_ne_panic _ _ _) fun _ =>
      outcome_bind_ne_panic (validateStartedAt_ne_panic _) fun _ => validateFrequency_ne_panic _
  · exact outcome_bind_ne_panic (fun h => by cases h) fun _ =>
      outcome_bind_ne_panic (fun h => by cases h) fun _ h => by cases h

/-- What the proposal of a contact ends with. -/
theorem qsoProposal_cases {B : Type} [EventBus B] [RustFmt] (hBus : Delivers B)
    (fields : Fields) (store : InMemoryLogbookEventStore) (bus : B) :
    (∃ last error, (submitProposal context (qsoProposal logbookId options (.object fields) stamp)
        stamp.submission).execute (store, bus) = ((store, last), .error (.error error)) ∧
      ∀ newEvent, ¬Accepts store context (qsoProposal logbookId options (.object fields) stamp)
        stamp.submission.freshEntityId newEvent) ∨
    ∃ last accepted newEvent,
      (submitProposal context (qsoProposal logbookId options (.object fields) stamp)
        stamp.submission).execute (store, bus) =
          ((store.insertEvent (officialEventAt store newEvent stamp.submission.event), last),
            .ok accepted) ∧
      Accepts store context (qsoProposal logbookId options (.object fields) stamp)
        stamp.submission.freshEntityId newEvent := by
  by_cases hAny : ∃ newEvent, Accepts store context
      (qsoProposal logbookId options (.object fields) stamp) stamp.submission.freshEntityId newEvent
  · obtain ⟨newEvent, hAccepts⟩ := hAny
    obtain ⟨last, hLast⟩ := yields_submitProposal hBus hAccepts
      (show LogbookEventStore.appendEvent store newEvent stamp.submission.event = (_, .ok _)
        from rfl) bus
    exact .inr ⟨last, _, newEvent, hLast, hAccepts⟩
  · have hRefused := not_exists.mp hAny
    have hCalm : ((submitProposal context (qsoProposal logbookId options (.object fields) stamp)
        stamp.submission).execute (store, bus)).2 ≠ .error .panic := calm_qsoProposal fields _
    have hLeaves := submitProposal_ensures store context
      (qsoProposal logbookId options (.object fields) stamp) stamp.submission bus
    unfold Program.Ensures at hLeaves
    rcases hRun : (submitProposal context (qsoProposal logbookId options (.object fields) stamp)
      stamp.submission).execute (store, bus) with ⟨⟨later, last⟩, outcome⟩
    rw [hRun] at hCalm hLeaves
    rcases hLeaves with ⟨hStore, hNone⟩ | ⟨newEvent, hAccepts, _⟩
    · obtain rfl : later = store := hStore
      rcases outcome with (error | _) | accepted
      · exact .inl ⟨last, error, rfl, hRefused⟩
      · exact absurd rfl hCalm
      · exact absurd rfl (hNone accepted)
    · exact absurd hAccepts (hRefused newEvent)

variable {B : Type} {state next : ImportState InMemoryLogbookEventStore B}

/-- The contacts that an import goes on with, and the identifiers that it still
needs. -/
structure Ready (logbookId : Uuid) (stamps : Nat → ImportStamp) (count position : Nat)
    (state : ImportState InMemoryLogbookEventStore B) : Prop where
  consistent : state.store.Consistent
  contacts : rebuild QsoCurrentStateProjection (state.store.listEvents logbookId) =
    .ok state.projection
  events : ∀ index, position ≤ index → index < count →
    state.store.getEvent (stamps index).submission.event.eventId = none
  entities : ∀ index, position ≤ index → index < count →
    state.projection.getIncludingDeleted (stamps index).submission.freshEntityId = none

/-- Stamps for so many records, each with identifiers of its own. -/
structure DistinctStamps (stamps : Nat → ImportStamp) (count : Nat) : Prop where
  events : ∀ first second, first < second → second < count →
    (stamps second).submission.event.eventId ≠ (stamps first).submission.event.eventId
  entities : ∀ first second, first < second → second < count →
    (stamps second).submission.freshEntityId ≠ (stamps first).submission.freshEntityId

/-- An imported contact: the import goes on with it and with those before. -/
theorem Ready.imported {stamps : Nat → ImportStamp} {count position : Nat}
    (h : Ready logbookId stamps count position state) (hStamps : DistinctStamps stamps count)
    (hPosition : position < count) {payload : Value} {newEvent : NewLogbookEvent}
    (hAccepts : Accepts state.store context
      (qsoProposal logbookId options payload (stamps position))
        (stamps position).submission.freshEntityId newEvent) : ∃ projection,
    currentContacts (state.store.insertEvent
      (officialEventAt state.store newEvent (stamps position).submission.event)) logbookId =
        some projection ∧
    (∀ (bus : B) summary, Ready logbookId stamps count (position + 1)
      { store := state.store.insertEvent
          (officialEventAt state.store newEvent (stamps position).submission.event)
        bus := bus, projection := projection, summary := summary }) ∧
    (∀ contact ∈ state.projection.list false, contact ∈ projection.list false) ∧
    (0 ≤ options.duplicateWindowMinutes.toInt → ∃ contact ∈ projection.list false,
      SameContact options.duplicateWindowMinutes payload contact.payload) := by
  have hImported := isImported_of_accepts hAccepts
  obtain ⟨history, hHistory⟩ := h.consistent
  have hNewId := h.events position (Nat.le_refl _) hPosition
  have hFresh := h.entities position (Nat.le_refl _) hPosition
  have hLater : (state.store.insertEvent (officialEventAt state.store newEvent
      (stamps position).submission.event)).Represents (history ++ [officialEventAt state.store
        newEvent (stamps position).submission.event]) := hHistory.insertEvent hNewId
  have hList : (state.store.insertEvent (officialEventAt state.store newEvent
      (stamps position).submission.event)).listEvents logbookId =
        state.store.listEvents logbookId ++ [officialEventAt state.store newEvent
          (stamps position).submission.event] := by
    rw [hLater.listEvents, ofLogbook_append, ← hHistory.listEvents]
    simp [ofLogbook, officialEventAt, hImported.logbook]
  obtain ⟨contact, hApply, hVisible, hFields⟩ := apply_imported hImported state.projection
    (state.store.getHead newEvent.logbookId) (stamps position).submission.event
  have hRebuild : rebuild QsoCurrentStateProjection ((state.store.insertEvent
      (officialEventAt state.store newEvent (stamps position).submission.event)).listEvents
        logbookId) = .ok { state.projection with
          records := state.projection.records.insert
            (stamps position).submission.freshEntityId contact } := by
    rw [hList]
    exact Projection.rebuild_snoc h.contacts hApply
  refine ⟨_, currentContacts_of_rebuild hRebuild, fun bus summary => ⟨⟨_, hLater⟩, hRebuild,
    fun index hIndex hCount => ?_, fun index hIndex hCount => ?_⟩,
    fun other hOther => ?_, fun hWindow => ⟨contact, ?_, ?_⟩⟩
  · have hNe : (stamps index).submission.event.eventId ≠ (officialEventAt state.store newEvent
        (stamps position).submission.event).eventId := hStamps.events position index hIndex hCount
    rw [InMemoryLogbookEventStore.getEvent_insertEvent, if_neg hNe]
    exact h.events index (by omega) hCount
  · show AList.lookup _ (AList.insert _ _ _) = none
    rw [AList.lookup_insert_ne (hStamps.entities position index hIndex hCount)]
    exact h.entities index (by omega) hCount
  · obtain ⟨hMem, hShown⟩ := List.mem_filter.mp hOther
    obtain ⟨id, hId⟩ := KeyMap.mem_values.mp hMem
    have hNe : id ≠ (stamps position).submission.freshEntityId := by
      rintro rfl
      cases hFresh.symm.trans hId
    refine List.mem_filter.mpr ⟨KeyMap.mem_values.mpr ⟨id, ?_⟩, hShown⟩
    rw [AList.lookup_insert_ne hNe, hId]
  · refine List.mem_filter.mpr ⟨KeyMap.mem_values.mpr
      ⟨(stamps position).submission.freshEntityId, AList.lookup_insert _⟩, ?_⟩
    simp [hVisible]
  · have hRules : ContactRules payload :=
      (hAccepts.contactRules hImported.eventType).of_get fun key hKey =>
        (Value.get_set_of_ne hKey hImported.payload).symm
    refine SameContact.of_fields hRules hWindow fun key hKey => hFields key ?_
    revert hKey
    revert key
    decide

variable [EventBus B] [ChronoFormat] [FloatText] {record : AdifRecord}

/-- Nothing comes of the record any more: it has no payload, a visible contact
is the same, or the payload is refused. -/
def Spent (context : ProposalContext) (logbookId : Uuid) (options : AdifImportOptions)
    (projection : QsoCurrentStateProjection) (record : AdifRecord) : Prop :=
  ∀ payload, adifRecordToQsoPayload record options = .ok payload →
    (∃ contact ∈ projection.list false,
      SameContact options.duplicateWindowMinutes payload contact.payload) ∨
    ∀ (store : InMemoryLogbookEventStore) stamp newEvent,
      ¬Accepts store context (qsoProposal logbookId options payload stamp)
        stamp.submission.freshEntityId newEvent

theorem Spent.grows {projection later : QsoCurrentStateProjection}
    (h : Spent context logbookId options projection record)
    (hGrows : ∀ contact ∈ projection.list false, contact ∈ later.list false) :
    Spent context logbookId options later record := by
  intro payload hPayload
  rcases h payload hPayload with ⟨contact, hContact, hSame⟩ | hRefused
  · exact .inl ⟨contact, hGrows contact hContact, hSame⟩
  · exact .inr hRefused

variable [RustFmt]

/-- What one record of an import can do when its clock times can be cut. -/
theorem importRecord_cases (hBus : Delivers B) (hRead : TimesCut record) :
    (∃ error, adifRecordToQsoPayload record options = .error (.error error) ∧
      importRecord context logbookId options state record stamp = some (state.rejected error)) ∨
    (∃ payload, adifRecordToQsoPayload record options = .ok payload ∧
      (options.duplicatePolicy = .skip ∧
        isDuplicate state.projection payload options.duplicateWindowMinutes = true) ∧
      importRecord context logbookId options state record stamp = some state.skipped) ∨
    (∃ payload, adifRecordToQsoPayload record options = .ok payload ∧
      ¬(options.duplicatePolicy = .skip ∧
        isDuplicate state.projection payload options.duplicateWindowMinutes = true) ∧
      (∀ newEvent, ¬Accepts state.store context (qsoProposal logbookId options payload stamp)
        stamp.submission.freshEntityId newEvent) ∧
      ∃ bus error, importRecord context logbookId options state record stamp =
        some (ImportState.rejected { state with bus := bus } error)) ∨
    ∃ payload newEvent, adifRecordToQsoPayload record options = .ok payload ∧
      ¬(options.duplicatePolicy = .skip ∧
        isDuplicate state.projection payload options.duplicateWindowMinutes = true) ∧
      Accepts state.store context (qsoProposal logbookId options payload stamp)
        stamp.submission.freshEntityId newEvent ∧
      ∃ bus, importRecord context logbookId options state record stamp =
        (currentContacts (state.store.insertEvent
          (officialEventAt state.store newEvent stamp.submission.event)) logbookId).map
            fun projection =>
              { store := state.store.insertEvent
                  (officialEventAt state.store newEvent stamp.submission.event)
                bus := bus, projection := projection
                summary :=
                  { state.summary with importedCount := state.summary.importedCount + 1 } } := by
  have hPanics := adifRecordToQsoPayload_panics_iff record options
  unfold importRecord
  cases hPayload : adifRecordToQsoPayload record options with
  | error fault =>
      cases fault with
      | panic => exact absurd hRead (hPanics.mp hPayload)
      | error error => exact .inl ⟨error, rfl, rfl⟩
  | ok payload =>
      obtain ⟨fields, rfl⟩ := adifRecordToQsoPayload_object hPayload
      dsimp only
      split
      · next hSkip => exact .inr (.inl ⟨_, rfl, hSkip, rfl⟩)
      · next hFresh =>
          unfold proposeContact
          rcases qsoProposal_cases hBus fields state.store state.bus with
            ⟨last, error, hRun, hRefused⟩ | ⟨last, accepted, newEvent, hRun, hAccepts⟩
          · rw [hRun]
            exact .inr (.inr (.inl ⟨_, rfl, hFresh, hRefused, last, error.toString, rfl⟩))
          · rw [hRun]
            exact .inr (.inr (.inr ⟨_, newEvent, rfl, hFresh, hAccepts, last, rfl⟩))

/-- What one record of an import adds: one count, contacts and no other change,
and under the policy that skips nothing comes of the record again. -/
structure Takes (context : ProposalContext) (logbookId : Uuid) (options : AdifImportOptions)
    (record : AdifRecord) (state next : ImportState InMemoryLogbookEventStore B) : Prop where
  total : next.summary.total = state.summary.total + 1
  skipped : next.summary.skippedCount + state.summary.duplicateCount =
    state.summary.skippedCount + next.summary.duplicateCount
  duplicate : next.summary.duplicateCount = state.summary.duplicateCount + 1 ↔
    options.duplicatePolicy = .skip ∧ ∃ payload, adifRecordToQsoPayload record options =
      .ok payload ∧ ∃ contact ∈ state.projection.list false,
        SameContact options.duplicateWindowMinutes payload contact.payload
  grows : ∀ contact ∈ state.projection.list false, contact ∈ next.projection.list false
  spent : options.duplicatePolicy = .skip → 0 ≤ options.duplicateWindowMinutes.toInt →
    Spent context logbookId options next.projection record

variable (context options) in
theorem Ready.takes {stamps : Nat → ImportStamp} {count position : Nat} (hBus : Delivers B)
    (h : Ready logbookId stamps count position state) (hStamps : DistinctStamps stamps count)
    (hPosition : position < count) (hRead : TimesCut record) : ∃ next,
      importRecord context logbookId options state record (stamps position) = some next ∧
        Ready logbookId stamps count (position + 1) next ∧
          Takes context logbookId options record state next := by
  have hStay : ∀ bus summary, Ready logbookId stamps count (position + 1)
      ({ state with bus := bus, summary := summary } : ImportState _ B) := fun bus summary =>
    { h with
      events := fun index hIndex => h.events index (by omega)
      entities := fun index hIndex => h.entities index (by omega) }
  have hNever : ∀ payload, adifRecordToQsoPayload record options = .ok payload →
      ¬(options.duplicatePolicy = .skip ∧
        isDuplicate state.projection payload options.duplicateWindowMinutes = true) →
      ¬(options.duplicatePolicy = .skip ∧ ∃ payload, adifRecordToQsoPayload record options =
        .ok payload ∧ ∃ contact ∈ state.projection.list false,
          SameContact options.duplicateWindowMinutes payload contact.payload) := by
    rintro payload hPayload hFresh ⟨hSkip, other, hOther, hSame⟩
    obtain rfl := Except.ok.inj (hPayload.symm.trans hOther)
    exact hFresh ⟨hSkip, (isDuplicate_iff _).mpr hSame⟩
  rcases importRecord_cases hBus hRead with ⟨error, hPayload, hNext⟩ |
    ⟨payload, hPayload, hSkip, hNext⟩ |
    ⟨payload, hPayload, hFresh, hRefused, bus, error, hNext⟩ |
    ⟨payload, newEvent, hPayload, hFresh, hAccepts, bus, hNext⟩
  · refine ⟨_, hNext, hStay _ _, rfl, rfl, ?_, fun _ hContact => hContact,
      fun _ _ payload hOk => ?_⟩
    · refine iff_of_false (Nat.succ_ne_self _).symm ?_
      rintro ⟨_, payload, hOk, _⟩
      cases hPayload.symm.trans hOk
    · cases hPayload.symm.trans hOk
  · have hSame := (isDuplicate_iff _).mp hSkip.2
    refine ⟨_, hNext, hStay _ _, ?_, ?_, iff_of_true rfl ⟨hSkip.1, payload, hPayload, hSame⟩,
      fun _ hContact => hContact, fun _ _ other hOther => ?_⟩
    · simp only [ImportState.skipped, AdifImportSummary.total]
      omega
    · show _ + 1 + _ = _ + (_ + 1)
      omega
    · obtain rfl := Except.ok.inj (hPayload.symm.trans hOther)
      exact .inl hSame
  · refine ⟨_, hNext, hStay _ _, rfl, rfl,
      iff_of_false (Nat.succ_ne_self _).symm (hNever _ hPayload hFresh),
      fun _ hContact => hContact,
      fun _ _ other hOther => .inr fun store stamp newEvent hAccepts => ?_⟩
    obtain rfl := Except.ok.inj (hPayload.symm.trans hOther)
    obtain ⟨again, hAgain⟩ := accepts_again hAccepts
    exact hRefused again hAgain
  · obtain ⟨contacts, hContacts, hReady, hGrows, hSame⟩ :=
      h.imported hStamps hPosition hAccepts
    rw [hContacts, Option.map_some] at hNext
    refine ⟨_, hNext, hReady _ _, ?_, rfl,
      iff_of_false (Nat.succ_ne_self _).symm (hNever _ hPayload hFresh),
      hGrows, fun _ hWindow other hOther => ?_⟩
    · simp only [AdifImportSummary.total]
      omega
    · obtain rfl := Except.ok.inj (hPayload.symm.trans hOther)
      exact .inl (hSame hWindow)

variable (context options) in
/-- An import of records whose clock times can be cut returns, and what it
adds. -/
theorem Ready.run {stamps : Nat → ImportStamp} {count position : Nat} (hBus : Delivers B)
    {records : List AdifRecord} (h : Ready logbookId stamps count position state)
    (hStamps : DistinctStamps stamps count) (hCount : position + records.length ≤ count)
    (hRead : ∀ record ∈ records, TimesCut record) : ∃ final,
    importRecords context logbookId options stamps state position records = some final ∧
      Ready logbookId stamps count (position + records.length) final ∧
      final.summary.total = state.summary.total + records.length ∧
      final.summary.skippedCount + state.summary.duplicateCount =
        state.summary.skippedCount + final.summary.duplicateCount ∧
      (∀ contact ∈ state.projection.list false, contact ∈ final.projection.list false) ∧
      (options.duplicatePolicy = .skip → 0 ≤ options.duplicateWindowMinutes.toInt →
        ∀ record ∈ records, Spent context logbookId options final.projection record) := by
  induction records generalizing state position with
  | nil =>
      exact ⟨state, rfl, h, rfl, rfl, fun _ hContact => hContact, fun _ _ _ hMem => by cases hMem⟩
  | cons record rest ih =>
      rw [List.length_cons] at hCount ⊢
      obtain ⟨hFirst, hLater⟩ := List.forall_mem_cons.mp hRead
      obtain ⟨next, hNext, hReady, hTakes⟩ := h.takes context options hBus hStamps (by omega) hFirst
      obtain ⟨final, hRest, hFinal, hTotal, hSkipped, hGrows, hSpent⟩ :=
        ih hReady (by omega) hLater
      have hPosition : position + 1 + rest.length = position + (rest.length + 1) := by omega
      rw [hPosition] at hFinal
      have hFirstTotal := hTakes.total
      have hFirstSkipped := hTakes.skipped
      refine ⟨final, Option.bind_eq_some_iff.mpr ⟨next, hNext, hRest⟩, hFinal, by omega, by omega,
        fun contact hContact => hGrows contact (hTakes.grows contact hContact),
        fun hPolicy hWindow other hMem => ?_⟩
      rcases List.mem_cons.mp hMem with rfl | hOther
      · exact (hTakes.spent hPolicy hWindow).grows hGrows
      · exact hSpent hPolicy hWindow other hOther

/-- A record of which nothing comes any more leaves the contacts alone. -/
theorem Spent.takes (hBus : Delivers B) (hSkip : options.duplicatePolicy = .skip)
    (stamp : ImportStamp) (h : Spent context logbookId options state.projection record)
    (hRead : TimesCut record) :
    ∃ next, importRecord context logbookId options state record stamp = some next ∧
      next.store = state.store ∧ next.projection = state.projection ∧
      next.summary.importedCount = state.summary.importedCount := by
  rcases importRecord_cases hBus hRead with ⟨error, _, hNext⟩ | ⟨payload, _, _, hNext⟩ |
    ⟨payload, _, _, _, bus, error, hNext⟩ | ⟨payload, newEvent, hPayload, hFresh, hAccepts, _⟩
  · exact ⟨_, hNext, rfl, rfl, rfl⟩
  · exact ⟨_, hNext, rfl, rfl, rfl⟩
  · exact ⟨_, hNext, rfl, rfl, rfl⟩
  · rcases h payload hPayload with hSame | hRefused
    · exact absurd ⟨hSkip, (isDuplicate_iff _).mpr hSame⟩ hFresh
    · exact absurd hAccepts (hRefused _ _ _)

/-- An import of records of which nothing comes any more. -/
theorem importRecords_spent (hBus : Delivers B) {stamps : Nat → ImportStamp} (position : Nat)
    {records : List AdifRecord} (hSkip : options.duplicatePolicy = .skip)
    (hSpent : ∀ record ∈ records, Spent context logbookId options state.projection record)
    (hRead : ∀ record ∈ records, TimesCut record) :
    ∃ final, importRecords context logbookId options stamps state position records = some final ∧
      final.store = state.store ∧
      final.summary.importedCount = state.summary.importedCount := by
  induction records generalizing state position with
  | nil => exact ⟨state, rfl, rfl, rfl⟩
  | cons record rest ih =>
      obtain ⟨hFirst, hLater⟩ := List.forall_mem_cons.mp hSpent
      obtain ⟨hCut, hRest⟩ := List.forall_mem_cons.mp hRead
      obtain ⟨next, hNext, hStore, hContacts, hImported⟩ :=
        hFirst.takes hBus hSkip (stamps position) hCut
      rw [← hContacts] at hLater
      obtain ⟨final, hFinal, hStays, hCount⟩ := ih (position + 1) hLater hRest
      exact ⟨final, Option.bind_eq_some_iff.mpr ⟨next, hNext, hFinal⟩, hStays.trans hStore,
        hCount.trans hImported⟩

/-- An import counts every record once, skips the duplicates of the contacts
that are visible then, and does nothing when it is done again. -/
theorem import_counts_skips_repeats (hBus : Delivers B) {store : InMemoryLogbookEventStore}
    (hStore : store.Consistent) {projection : QsoCurrentStateProjection}
    (hContacts : rebuild QsoCurrentStateProjection (store.listEvents logbookId) = .ok projection)
    {input : String} {records : List AdifRecord} (hRecords : parseAdif input = some records)
    {stamps : Nat → ImportStamp} (hStamps : DistinctStamps stamps records.length)
    (hEvents : ∀ index < records.length,
      store.getEvent (stamps index).submission.event.eventId = none)
    (hEntities : ∀ index < records.length,
      projection.getIncludingDeleted (stamps index).submission.freshEntityId = none)
    (hRead : ∀ record ∈ records, TimesCut record) (bus : B) : ∃ final,
    importAdif context logbookId options store bus input stamps = some final ∧
    (final.summary.importedCount + final.summary.duplicateCount + final.summary.rejectedCount =
        records.length ∧ final.summary.skippedCount = final.summary.duplicateCount) ∧
    (∀ before record after, records = before ++ record :: after → ∃ reached next contacts,
      importRecords context logbookId options stamps
        { store := store, bus := bus, projection := projection } 0 before = some reached ∧
      importRecord context logbookId options reached record (stamps before.length) = some next ∧
      rebuild QsoCurrentStateProjection (reached.store.listEvents logbookId) = .ok contacts ∧
      (next.summary.duplicateCount = reached.summary.duplicateCount + 1 ↔
        options.duplicatePolicy = .skip ∧ ∃ payload, adifRecordToQsoPayload record options =
          .ok payload ∧ ∃ contact ∈ contacts.list false,
            SameContact options.duplicateWindowMinutes payload contact.payload)) ∧
    (options.duplicatePolicy = .skip → 0 ≤ options.duplicateWindowMinutes.toInt →
      ∀ (later : B) others, ∃ again,
        importAdif context logbookId options final.store later input others = some again ∧
          again.summary.importedCount = 0 ∧ again.store = final.store) := by
  have hReady : Ready logbookId stamps records.length 0
      ({ store := store, bus := bus, projection := projection } : ImportState _ B) :=
    ⟨hStore, hContacts, fun index _ => hEvents index, fun index _ => hEntities index⟩
  have hImport : ∀ {contacts} {later : InMemoryLogbookEventStore} (bus : B) others,
      rebuild QsoCurrentStateProjection (later.listEvents logbookId) = .ok contacts →
        importAdif context logbookId options later bus input others =
          importRecords context logbookId options others
            { store := later, bus := bus, projection := contacts } 0 records := by
    intro contacts store bus others hRebuild
    rw [importAdif, hRecords, Option.bind_some, currentContacts_of_rebuild hRebuild,
      Option.bind_some]
  obtain ⟨final, hRun, hFinal, hTotal, hSkipped, _, hSpent⟩ :=
    hReady.run context options hBus hStamps (by omega) hRead
  refine ⟨final, (hImport bus stamps hContacts).trans hRun, ⟨hTotal.trans (Nat.zero_add _), ?_⟩,
    ?_, ?_⟩
  · simpa using hSkipped
  · rintro before record after rfl
    obtain ⟨hCut, hRest⟩ := List.forall_mem_append.mp hRead
    have hLength : 0 + before.length ≤ (before ++ record :: after).length := by simp
    obtain ⟨reached, hReached, hBefore, _⟩ := hReady.run context options hBus hStamps hLength hCut
    rw [Nat.zero_add] at hBefore
    obtain ⟨next, hNext, _, hTakes⟩ := hBefore.takes context options hBus hStamps
      (by simp) (hRest record List.mem_cons_self)
    exact ⟨reached, next, reached.projection, hReached, hNext, hBefore.contacts, hTakes.duplicate⟩
  · intro hPolicy hWindow later others
    rw [hImport later others hFinal.contacts]
    obtain ⟨again, hAgain, hSame, hNone⟩ : ∃ again, importRecords context logbookId options others
        { store := final.store, bus := later, projection := final.projection } 0 records =
          some again ∧ again.store = final.store ∧ again.summary.importedCount = 0 :=
      importRecords_spent hBus 0 hPolicy (hSpent hPolicy hWindow) hRead
    exact ⟨again, hAgain, hNone, hSame⟩

end Steps

/-! A contact on a band, and the same contact without a band. -/

section
open Crates

def bandText : String :=
  "<CALL:4>K1AB<MODE:2>CW<QSO_DATE:8>20240101<TIME_ON:4>1200<BAND:3>20M<EOR>" ++
    "<CALL:4>K1AB<MODE:2>CW<QSO_DATE:8>20240101<TIME_ON:4>1200<EOR>"

def bandOptions : AdifImportOptions := .mvpDefault "KE8YGW" "builtin" 1

def bandStamp (index : Nat) : ImportStamp where
  proposalId := BitVec.ofNat 128 (index + 1)
  timestamp := epoch
  submission :=
    { freshEntityId := BitVec.ofNat 128 (index + 11)
      event := sampleStamp (BitVec.ofNat 128 (index + 21)) }

def bandImport : Option (ImportState InMemoryLogbookEventStore InMemoryEventBus) :=
  importAdif sampleContact.context 1 bandOptions {} { receiverCount := 0 } bandText bandStamp

/-- The bands of the payloads that the records have. -/
theorem bandText_bands : (parseAdif bandText).map (fun records => records.map fun record =>
    (adifRecordToQsoPayload record bandOptions).toOption.map fun payload =>
      textField payload "band") = some [some (some "20M"), some none] := by
  decide +kernel

theorem bandImport_summary : bandImport.map (fun final => (final.summary,
    (final.projection.list false).map fun contact => textField contact.payload "band")) =
      some ({ importedCount := 1, skippedCount := 1, duplicateCount := 1 }, [some "20M"]) := by
  decide +kernel

theorem bandText_records : ∃ first second early payload,
    parseAdif bandText = some [first, second] ∧
    adifRecordToQsoPayload first bandOptions = .ok early ∧
    adifRecordToQsoPayload second bandOptions = .ok payload ∧ textField payload "band" = none := by
  obtain ⟨records, hRecords, hBands⟩ := Option.map_eq_some_iff.mp bandText_bands
  obtain ⟨first, rest, rfl, hFirst, hRest⟩ := List.map_eq_cons_iff.mp hBands
  obtain ⟨second, others, rfl, hSecond, hOthers⟩ := List.map_eq_cons_iff.mp hRest
  obtain rfl := List.map_eq_nil_iff.mp hOthers
  obtain ⟨early, hEarly, _⟩ := Option.map_eq_some_iff.mp hFirst
  obtain ⟨payload, hPayload, hBand⟩ := Option.map_eq_some_iff.mp hSecond
  exact ⟨first, second, early, payload, hRecords, (except_toOption_eq_some_iff _ _).mp hEarly,
    (except_toOption_eq_some_iff _ _).mp hPayload, hBand⟩

/-- The second record is skipped as a duplicate, although no visible contact has
the same band: the one that is visible is on a band, and the record names none. -/
theorem unbanded_record_is_skipped : ∃ first second payload final,
    parseAdif bandText = some [first, second] ∧
    adifRecordToQsoPayload second bandOptions = .ok payload ∧ textField payload "band" = none ∧
    bandImport = some final ∧ final.summary.importedCount = 1 ∧
    final.summary.duplicateCount = 1 ∧
    ∀ contact ∈ final.projection.list false, textField contact.payload "band" = some "20M" := by
  obtain ⟨first, second, _, payload, hRecords, _, hPayload, hBand⟩ := bandText_records
  obtain ⟨final, hFinal, hSeen⟩ := Option.map_eq_some_iff.mp bandImport_summary
  obtain ⟨hSummary, hVisible⟩ := Prod.mk.inj hSeen
  refine ⟨first, second, payload, final, hRecords, hPayload, hBand, hFinal, by rw [hSummary],
    by rw [hSummary], fun contact hContact => ?_⟩
  have hMem : textField contact.payload "band" ∈
      (final.projection.list false).map fun contact => textField contact.payload "band" :=
    List.mem_map_of_mem hContact
  rw [hVisible] at hMem
  exact List.mem_singleton.mp hMem

theorem distinct_bandStamp : DistinctStamps bandStamp 2 := by
  have hOnly : ∀ first second, first < second → second < 2 → first = 0 ∧ second = 1 := by
    omega
  constructor
  · intro first second hLess hCount
    obtain ⟨rfl, rfl⟩ := hOnly first second hLess hCount
    decide
  · intro first second hLess hCount
    obtain ⟨rfl, rfl⟩ := hOnly first second hLess hCount
    decide

/-- Importing the text again does nothing. -/
theorem import_counts_skips_repeats_banded : ∃ first second final,
    parseAdif bandText = some [first, second] ∧ bandImport = some final ∧
    final.summary.importedCount + final.summary.duplicateCount + final.summary.rejectedCount = 2 ∧
    ∀ (later : InMemoryEventBus) others, ∃ again,
      importAdif sampleContact.context 1 bandOptions final.store later bandText others =
        some again ∧ again.summary.importedCount = 0 ∧ again.store = final.store := by
  obtain ⟨first, second, _, _, hRecords, hFirst, hSecond, _⟩ := bandText_records
  have hCut : ∀ record payload, adifRecordToQsoPayload record bandOptions = .ok payload →
      TimesCut record := by
    intro record payload hPayload
    by_contra hNot
    cases hPayload.symm.trans ((adifRecordToQsoPayload_panics_iff record bandOptions).mpr hNot)
  obtain ⟨final, hFinal, ⟨hTotal, _⟩, _, hAgain⟩ := import_counts_skips_repeats
    delivers_inMemoryEventBus ⟨[], InMemoryLogbookEventStore.represents_empty⟩ rfl hRecords
    distinct_bandStamp (fun _ _ => rfl) (fun _ _ => rfl)
    (List.forall_mem_cons.mpr ⟨hCut _ _ hFirst, List.forall_mem_singleton.mpr (hCut _ _ hSecond)⟩)
    { receiverCount := 0 }
  exact ⟨first, second, final, hRecords, hFinal, hTotal, hAgain rfl (by decide)⟩

end
end HamLogger
