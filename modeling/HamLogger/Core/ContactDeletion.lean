import HamLogger.Core.RecordLedgers
import HamLogger.Core.Crates

/-! Which contacts are hidden, told from the events alone. The flag of a record
follows the events that create, delete and restore it. The tombstones follow
deletions and restorations only, so a contact that is created over its
tombstone is listed and is still a tombstone. -/
namespace HamLogger

open Projection (rebuild)

/-- The type of the last event about an entity that is of one of the kinds. -/
def lastOf (kinds : List EventType) (events : List CoreEventEnvelope) (id : Uuid) :
    Option EventType :=
  (events.filter fun event => event.entityId = some id ∧ event.eventType ∈ kinds).getLast?.map
    (·.eventType)

@[simp] theorem lastOf_nil (kinds : List EventType) (id : Uuid) : lastOf kinds [] id = none :=
  rfl

theorem lastOf_snoc (kinds : List EventType) (events : List CoreEventEnvelope)
    (event : CoreEventEnvelope) (id : Uuid) :
    lastOf kinds (events ++ [event]) id =
      if event.entityId = some id ∧ event.eventType ∈ kinds then some event.eventType
      else lastOf kinds events id := by
  rw [lastOf, List.filter_append]
  split
  · next h => rw [List.filter_cons_of_pos (by simpa using h)]; simp
  · next h => rw [List.filter_cons_of_neg (by simpa using h)]; simp [lastOf]

/-- The events that say whether a contact is there. -/
def lifeKinds : List EventType := [.qsoCreated, .qsoDeleted, .qsoRestored]

/-- The events that say whether it is a tombstone. -/
def deletionKinds : List EventType := [.qsoDeleted, .qsoRestored]

/-- Deletions and restorations are the last word on a contact unless a creation is. -/
theorem lastOf_life (events : List CoreEventEnvelope) (id : Uuid) :
    lastOf lifeKinds events id = lastOf deletionKinds events id ∨
      lastOf lifeKinds events id = some .qsoCreated := by
  induction events using List.reverseRecOn with
  | nil => exact Or.inl rfl
  | append_singleton events event ih =>
      rw [lastOf_snoc, lastOf_snoc]
      by_cases hKey : event.entityId = some id
      · cases hType : event.eventType <;> simp [hKey, lifeKinds, deletionKinds] at ih ⊢ <;> exact ih
      · simpa [hKey] using ih

/-- A creation that is the last word on a contact whose tombstone stands. -/
def CreatedOverTombstone (events : List CoreEventEnvelope) (id : Uuid) : Prop :=
  lastOf lifeKinds events id = some .qsoCreated ∧
    lastOf deletionKinds events id = some .qsoDeleted

instance (events : List CoreEventEnvelope) (id : Uuid) :
    Decidable (CreatedOverTombstone events id) :=
  inferInstanceAs (Decidable (_ ∧ _))

/-- The deletion flag of one contact: a creation clears it. -/
def deletionLedger (id : Uuid) : Ledger CoreEventEnvelope Bool :=
  entityLedger [.qsoCreated] deletionKinds id (fun _ => some false)
    fun event _ => event.eventType = .qsoDeleted

theorem replace_deletionLedger (old : Option Bool) (event : CoreEventEnvelope) (id : Uuid) :
    (deletionLedger id).replace old event =
      if event.entityId = some id then
        if event.eventType = .qsoCreated then some false
        else if event.eventType ∈ deletionKinds then old.map fun _ => event.eventType = .qsoDeleted
        else old
      else old := by
  by_cases hKey : event.entityId = some id
  · rw [if_pos hKey]
    split
    · next hType => simp [deletionLedger, entityLedger, Ledger.replace, hKey, hType]
    · next hType =>
        rw [Ledger.replace]
        simp only [deletionLedger, entityLedger, hKey, hType, List.mem_singleton, and_false,
          if_false, true_and]
        split
        · rfl
        · exact Option.map_id_apply
  · rw [if_neg hKey]
    cases old <;> simp [deletionLedger, entityLedger, Ledger.replace, hKey]

/-- What the events leave is whether the last word on the contact is a deletion. -/
theorem standing_deletionLedger {events : List CoreEventEnvelope} {id : Uuid} {deleted : Bool}
    (h : (deletionLedger id).standing events = some deleted) :
    deleted = true ↔ lastOf lifeKinds events id = some .qsoDeleted := by
  induction events using List.reverseRecOn generalizing deleted with
  | nil => cases h
  | append_singleton events event ih =>
      rw [Ledger.standing_snoc, replace_deletionLedger] at h
      rw [lastOf_snoc]
      by_cases hKey : event.entityId = some id
      · rw [if_pos hKey] at h
        split at h
        · next hType =>
            rw [if_pos ⟨hKey, by simp [hType, lifeKinds]⟩, hType, ← Option.some.inj h]
            simp
        · next hType =>
            split at h
            · next hDeletion =>
                obtain ⟨_, _, rfl⟩ := Option.map_eq_some_iff.mp h
                rw [if_pos ⟨hKey, List.mem_cons_of_mem _ hDeletion⟩]
                simp
            · next hDeletion =>
                have hOther : event.eventType ∉ lifeKinds := by
                  simp_all [lifeKinds, deletionKinds]
                rw [if_neg fun hBoth => hOther hBoth.2]
                exact ih h
      · rw [if_neg hKey] at h
        rw [if_neg fun hBoth => hKey hBoth.1]
        exact ih h

/-- A contact whose last word is its creation has a record. -/
theorem standing_of_created {events : List CoreEventEnvelope} {id : Uuid}
    (h : lastOf lifeKinds events id = some .qsoCreated) :
    ∃ deleted, (deletionLedger id).standing events = some deleted := by
  induction events using List.reverseRecOn with
  | nil => cases h
  | append_singleton events event ih =>
      rw [lastOf_snoc] at h
      rw [Ledger.standing_snoc, replace_deletionLedger]
      split at h
      · next hBoth => exact ⟨false, by rw [if_pos hBoth.1, if_pos (Option.some.inj h)]⟩
      · next hOther =>
          obtain ⟨deleted, hStanding⟩ := ih h
          rw [hStanding]
          by_cases hKey : event.entityId = some id
          · have hLife : event.eventType ∉ lifeKinds := fun hType => hOther ⟨hKey, hType⟩
            simp only [lifeKinds, List.mem_cons, not_or] at hLife
            exact ⟨deleted, by simp [hKey, hLife, deletionKinds]⟩
          · exact ⟨deleted, if_neg hKey⟩

namespace QsoCurrentStateProjection

theorem hidden_iff {projection : QsoCurrentStateProjection} {id : Uuid} {record : QsoRecord}
    (hRecord : projection.getIncludingDeleted id = some record) :
    record ∉ projection.list false ↔ record.deleted = true := by
  have hMem : record ∈ projection.records.values := KeyMap.mem_values.mpr ⟨id, hRecord⟩
  simp [list, hMem]

section Events
variable [UuidCrate] {projection next : QsoCurrentStateProjection} {event : CoreEventEnvelope}

/-- Whether the record of a contact is flagged as deleted. -/
def deletedFlag (projection : QsoCurrentStateProjection) (id : Uuid) : Option Bool :=
  (projection.records.lookup id).map QsoRecord.deleted

/-- One event does to each flag what the ledger of the contact says. -/
theorem deletedFlag_apply (h : projection.apply event = .ok next) (id : Uuid) :
    next.deletedFlag id = (deletionLedger id).replace (projection.deletedFlag id) event := by
  rw [replace_deletionLedger]
  unfold apply at h
  cases hKey : event.entityId with
  | none =>
      simp only [hKey] at h
      rw [← Except.ok.inj h, if_neg (by simp)]
  | some qsoId =>
      simp only [hKey] at h
      simp only [Option.some.injEq, eq_comm (a := qsoId)]
      split at h
      · next hType =>
          obtain ⟨records, hInsert, rfl⟩ := (except_map_eq_ok_iff ..).mp h
          obtain ⟨record, hRecord, hView⟩ := KeyMap.view_of_tryInsert hInsert
          obtain ⟨payload, _, rfl⟩ := (except_map_eq_ok_iff ..).mp hRecord
          rw [if_pos hType]
          exact hView id
      · next hType =>
          have hCreation : event.eventType ≠ .qsoCreated := by simp [hType]
          have hDeletion : event.eventType ∉ deletionKinds := by simp [hType, deletionKinds]
          obtain ⟨records, hModify, rfl⟩ := (except_map_eq_ok_iff ..).mp h
          rw [if_neg hCreation, if_neg hDeletion, ite_self]
          refine (KeyMap.view_of_tryModify (fun deleted => deleted) ?_ hModify id).trans ?_
          · intro old new hChange
            obtain ⟨payload, _, rfl⟩ := (except_map_eq_ok_iff ..).mp hChange
            rfl
          · rw [Option.map_id_fun', id_eq, ite_self]
            rfl
      · next hType =>
          have hCreation : event.eventType ≠ .qsoCreated := by simp [hType]
          have hDeletion : event.eventType ∈ deletionKinds := by simp [hType, deletionKinds]
          rw [← Except.ok.inj h, if_neg hCreation, if_pos hDeletion]
          exact KeyMap.view_modify _ (fun old => by rw [hType]; rfl) id
      · next hType =>
          have hCreation : event.eventType ≠ .qsoCreated := by simp [hType]
          have hDeletion : event.eventType ∈ deletionKinds := by simp [hType, deletionKinds]
          rw [← Except.ok.inj h, if_neg hCreation, if_pos hDeletion]
          exact KeyMap.view_modify _ (fun old => by rw [hType]; rfl) id
      · next hType =>
          have hCreation : event.eventType ≠ .qsoCreated := by simp [hType]
          have hDeletion : event.eventType ∉ deletionKinds := by simp [hType, deletionKinds]
          rw [← Except.ok.inj h, if_neg hCreation, if_neg hDeletion, ite_self]
          refine KeyMap.view_modify_hidden ?_ id
          exact fun old => rfl
      · have hDeletion : event.eventType ∉ deletionKinds := by simp_all [deletionKinds]
        rw [← Except.ok.inj h, if_neg ‹event.eventType ≠ .qsoCreated›, if_neg hDeletion, ite_self]

/-- One event does to the tombstones what a deletion or a restoration says. -/
theorem mem_tombstones_apply (h : projection.apply event = .ok next) (id : Uuid) :
    id ∈ next.tombstones ↔
      if event.entityId = some id ∧ event.eventType ∈ deletionKinds then
        event.eventType = .qsoDeleted
      else id ∈ projection.tombstones := by
  unfold apply at h
  cases hKey : event.entityId with
  | none =>
      simp only [hKey] at h
      rw [← Except.ok.inj h]
      simp
  | some qsoId =>
      simp only [hKey] at h
      split at h
      · next hType =>
          obtain ⟨records, _, rfl⟩ := (except_map_eq_ok_iff ..).mp h
          simp [hType, deletionKinds]
      · next hType =>
          obtain ⟨records, _, rfl⟩ := (except_map_eq_ok_iff ..).mp h
          simp [hType, deletionKinds]
      · next hType =>
          rw [← Except.ok.inj h]
          by_cases hSame : qsoId = id
          · simp [hType, deletionKinds, hSame]
          · simp [hType, deletionKinds, hSame, Ne.symm hSame]
      · next hType =>
          rw [← Except.ok.inj h]
          by_cases hSame : qsoId = id
          · simp [hType, deletionKinds, hSame]
          · simp [hType, deletionKinds, hSame, Ne.symm hSame]
      · next hType =>
          rw [← Except.ok.inj h]
          simp [hType, deletionKinds]
      · rw [← Except.ok.inj h]
        simp_all [deletionKinds]

section Rebuilt
variable {events : List CoreEventEnvelope}

/-- The record of a rebuilt contact is flagged exactly when the last word on it
is a deletion. -/
theorem deleted_of_rebuild (h : rebuild QsoCurrentStateProjection events = .ok projection)
    {id : Uuid} {record : QsoRecord} (hRecord : projection.getIncludingDeleted id = some record) :
    record.deleted = true ↔ lastOf lifeKinds events id = some .qsoDeleted := by
  have hFlag : projection.deletedFlag id = (deletionLedger id).standing events :=
    (deletionLedger id).standing_of_replay (fun projection => projection.deletedFlag id)
      (fun _ _ _ hNext => deletedFlag_apply hNext id) rfl h
  have hSome : projection.deletedFlag id = some record.deleted :=
    congrArg (Option.map QsoRecord.deleted) hRecord
  exact standing_deletionLedger (hFlag.symm.trans hSome)

/-- A contact is a tombstone exactly when it was deleted after it was last restored. -/
theorem isTombstoned_of_rebuild (h : rebuild QsoCurrentStateProjection events = .ok projection)
    (id : Uuid) :
    projection.isTombstoned id = true ↔ lastOf deletionKinds events id = some .qsoDeleted := by
  have hAccepted : Replay.Accepted (fun _ _ => True) ([] ++ events) := fun _ _ _ _ => trivial
  have hTracks := Replay.replay_invariant
    (fun seen (projection : QsoCurrentStateProjection) =>
      id ∈ projection.tombstones ↔ lastOf deletionKinds seen id = some .qsoDeleted)
    ?_ [] ?_ hAccepted h
  · simpa [isTombstoned] using hTracks
  · intro seen state event next _ hState hNext
    rw [mem_tombstones_apply hNext, lastOf_snoc]
    split
    · simp
    · exact hState
  · exact iff_of_false (by simp [Projection.clear]) (by simp)

/-- Every contact that has a record is hidden exactly when it is a tombstone,
and is a tombstone exactly when the last word on it is a deletion. -/
def DeletionAgrees (events : List CoreEventEnvelope) (projection : QsoCurrentStateProjection) :
    Prop :=
  ∀ qsoId record, projection.getIncludingDeleted qsoId = some record →
    (record ∉ projection.list false ↔ projection.isTombstoned qsoId = true) ∧
      (projection.isTombstoned qsoId = true ↔ lastOf lifeKinds events qsoId = some .qsoDeleted)

/-- The flags, the tombstones and the events agree exactly when no contact was
created over its tombstone. -/
theorem deletion_agrees_iff (h : rebuild QsoCurrentStateProjection events = .ok projection) :
    DeletionAgrees events projection ↔ ∀ qsoId, ¬CreatedOverTombstone events qsoId := by
  constructor
  · rintro hAgrees qsoId ⟨hCreated, hDeleted⟩
    obtain ⟨deleted, hStanding⟩ := standing_of_created hCreated
    have hFlag := (deletionLedger qsoId).standing_of_replay
      (fun projection : QsoCurrentStateProjection => projection.deletedFlag qsoId)
      (fun _ _ _ hNext => deletedFlag_apply hNext qsoId) rfl h
    obtain ⟨record, hRecord, _⟩ := Option.map_eq_some_iff.mp (hFlag.trans hStanding)
    have hTombstone := (isTombstoned_of_rebuild h qsoId).mpr hDeleted
    have hLast := (hAgrees qsoId record hRecord).2.mp hTombstone
    rw [hCreated] at hLast
    cases hLast
  · intro hNone qsoId record hRecord
    rw [hidden_iff hRecord, deleted_of_rebuild h hRecord, isTombstoned_of_rebuild h]
    have hSame : lastOf lifeKinds events qsoId = some .qsoDeleted ↔
        lastOf deletionKinds events qsoId = some .qsoDeleted := by
      rcases lastOf_life events qsoId with hLife | hLife
      · rw [hLife]
      · refine iff_of_false (by simp [hLife]) fun hDeleted => hNone qsoId ⟨hLife, hDeleted⟩
    exact ⟨hSame, hSame.symm⟩

end Rebuilt
end Events

section Example
open scoped Crates

/-- A contact that is created, deleted and created again. -/
def createdTwice : List CoreEventEnvelope :=
  [EventType.qsoCreated, .qsoDeleted, .qsoCreated].map fun eventType =>
    CoreEventEnvelope.fromNew (Crates.sampleEvent eventType 1 (some 2) (.object [])) none
      (Crates.sampleStamp 3)

/-- It is listed and is still a tombstone. -/
theorem created_over_tombstone_is_listed :
    ∃ projection, rebuild QsoCurrentStateProjection createdTwice = .ok projection ∧
      (∃ record ∈ projection.list false, record.qsoId = 2) ∧ projection.isTombstoned 2 = true ∧
      ¬DeletionAgrees createdTwice projection := by
  refine ⟨_, rfl, ⟨_, List.mem_singleton.mpr rfl, rfl⟩, rfl, ?_⟩
  intro hAgrees
  obtain ⟨hHidden, _⟩ := hAgrees 2 _ rfl
  exact hHidden.mpr rfl (List.mem_singleton.mpr rfl)

/-- The events of a contact that is created and deleted agree with its flag. -/
theorem deletion_agrees_iff_deleted :
    ∃ projection, rebuild QsoCurrentStateProjection (createdTwice.take 2) = .ok projection ∧
      (DeletionAgrees (createdTwice.take 2) projection ↔
        ∀ qsoId, ¬CreatedOverTombstone (createdTwice.take 2) qsoId) := by
  refine ⟨_, rfl, deletion_agrees_iff rfl⟩

end Example
end QsoCurrentStateProjection
end HamLogger
