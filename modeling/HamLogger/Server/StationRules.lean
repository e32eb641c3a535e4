import HamLogger.Server.BackupHandlers

/-! The rules on the station profiles of a logbook: one default profile at
most, which is the active one, and equipment that names profiles of its own
logbook. The requests about profiles and equipment keep them. An import puts
the records of a backup in place as they are. -/
namespace HamLogger

open Program
open Transition (Run System)

/-- The part of the state that the rules are about. -/
structure StationTables where
  stations : Catalog HostedStationProfile.stationProfileId
  equipment : Catalog HostedEquipmentProfile.equipmentId

def ServerState.stationTables [UuidCrate] (state : ServerState) : StationTables where
  stations := state.stationProfiles
  equipment := state.equipmentProfiles

namespace StationTables

/-- A profile of the logbook. -/
def HasStation (tables : StationTables) (logbookId stationProfileId : Uuid) : Prop :=
  ∃ hosted, tables.stations.lookup stationProfileId = some hosted ∧ hosted.logbookId = logbookId

structure Ordered (tables : StationTables) : Prop where
  oneDefault : ∀ first ∈ tables.stations.values, ∀ second ∈ tables.stations.values,
    first.logbookId = second.logbookId → first.isDefault = true → second.isDefault = true →
    first = second
  defaultActive : ∀ hosted ∈ tables.stations.values, hosted.isDefault = hosted.profile.active
  ownStation : ∀ equipment ∈ tables.equipment.values, ∀ stationProfileId ∈
    equipment.stationProfileId, tables.HasStation equipment.logbookId stationProfileId

/-- Profiles change in place. -/
theorem Ordered.mapStations {tables : StationTables} (h : tables.Ordered)
    {change : HostedStationProfile → HostedStationProfile}
    {hKey : ∀ hosted, (change hosted).stationProfileId = hosted.stationProfileId}
    (hLogbook : ∀ hosted, (change hosted).logbookId = hosted.logbookId)
    (hActive : ∀ hosted, hosted.isDefault = hosted.profile.active →
      (change hosted).isDefault = (change hosted).profile.active)
    (hDefault : ∀ first ∈ tables.stations.values, ∀ second ∈ tables.stations.values,
      first.logbookId = second.logbookId → (change first).isDefault = true →
      (change second).isDefault = true → first = second) :
    StationTables.Ordered
      { tables with stations := tables.stations.mapValues change hKey } := by
  constructor
  · intro first hFirst second hSecond hSame hFirstDefault hSecondDefault
    rw [Catalog.mem_values_mapValues] at hFirst hSecond
    obtain ⟨old, hOld, rfl⟩ := hFirst
    obtain ⟨other, hOther, rfl⟩ := hSecond
    rw [hLogbook, hLogbook] at hSame
    rw [hDefault old hOld other hOther hSame hFirstDefault hSecondDefault]
  · intro hosted hHosted
    rw [Catalog.mem_values_mapValues] at hHosted
    obtain ⟨old, hOld, rfl⟩ := hHosted
    exact hActive old (h.defaultActive old hOld)
  · intro equipment hEquipment stationProfileId hNamed
    obtain ⟨hosted, hFound, hOwn⟩ := h.ownStation equipment hEquipment stationProfileId hNamed
    refine ⟨change hosted, ?_, (hLogbook hosted).trans hOwn⟩
    rw [Catalog.lookup_mapValues, hFound]
    rfl

/-- A profile is put in place that is new, or one of the same logbook. -/
theorem Ordered.putStation {tables : StationTables} (h : tables.Ordered)
    {hosted : HostedStationProfile} (hActive : hosted.isDefault = hosted.profile.active)
    (hOld : ∀ old, tables.stations.lookup hosted.stationProfileId = some old →
      old.logbookId = hosted.logbookId)
    (hDefault : hosted.isDefault = true → ∀ other ∈ tables.stations.values,
      other.logbookId = hosted.logbookId →
      other.stationProfileId ≠ hosted.stationProfileId → other.isDefault = false) :
    ({ tables with stations := tables.stations.insert hosted } : StationTables).Ordered := by
  constructor
  · intro first hFirst second hSecond hSame hFirstDefault hSecondDefault
    rcases Catalog.mem_values_insert.mp hFirst with hPut | ⟨hFirstOld, hFirstKey⟩
    · subst hPut
      rcases Catalog.mem_values_insert.mp hSecond with hPut | ⟨hSecond, hSecondKey⟩
      · exact hPut.symm
      · rw [hDefault hFirstDefault second hSecond hSame.symm hSecondKey] at hSecondDefault
        cases hSecondDefault
    · rcases Catalog.mem_values_insert.mp hSecond with hPut | ⟨hSecondOld, _⟩
      · subst hPut
        rw [hDefault hSecondDefault first hFirstOld hSame hFirstKey] at hFirstDefault
        cases hFirstDefault
      · exact h.oneDefault first hFirstOld second hSecondOld hSame hFirstDefault hSecondDefault
  · intro other hOther
    rcases Catalog.mem_values_insert.mp hOther with rfl | ⟨hOther, _⟩
    · exact hActive
    · exact h.defaultActive other hOther
  · intro equipment hEquipment stationProfileId hNamed
    obtain ⟨found, hFound, hOwn⟩ := h.ownStation equipment hEquipment stationProfileId hNamed
    unfold HasStation
    rw [Catalog.lookup_insert]
    split
    · next hKey =>
        rw [hKey] at hFound
        exact ⟨hosted, rfl, (hOld found hFound).symm.trans hOwn⟩
    · exact ⟨found, hFound, hOwn⟩

/-- Equipment is put in place. -/
theorem Ordered.putEquipment {tables : StationTables} (h : tables.Ordered)
    {equipment : HostedEquipmentProfile} (hOwn : ∀ stationProfileId ∈ equipment.stationProfileId,
      tables.HasStation equipment.logbookId stationProfileId) :
    ({ tables with equipment := tables.equipment.insert equipment } : StationTables).Ordered := by
  constructor
  · exact h.oneDefault
  · exact h.defaultActive
  · intro other hOther
    rcases Catalog.mem_values_insert.mp hOther with rfl | ⟨hOther, _⟩
    · exact hOwn
    · exact h.ownStation other hOther

theorem stationProfileId_unset (logbookId : Uuid) (existing : HostedStationProfile) :
    (if existing.logbookId = logbookId then existing.setDefault false
      else existing).stationProfileId = existing.stationProfileId := by
  split
  · rfl
  · rfl

/-- No profile of the logbook is the default one. -/
def cleared (tables : StationTables) (logbookId : Uuid) : StationTables :=
  { tables with
    stations := tables.stations.mapValues
      (fun existing =>
        if existing.logbookId = logbookId then existing.setDefault false else existing)
      (stationProfileId_unset logbookId) }

theorem Ordered.cleared {tables : StationTables} (h : tables.Ordered) (logbookId : Uuid) :
    (tables.cleared logbookId).Ordered := by
  apply h.mapStations
  · intro hosted
    split <;> rfl
  · intro hosted hActive
    split
    · rfl
    · exact hActive
  · intro first hFirst second hSecond hSame hFirstDefault hSecondDefault
    by_cases hLogbook : first.logbookId = logbookId
    · rw [if_pos hLogbook] at hFirstDefault
      cases hFirstDefault
    · rw [if_neg hLogbook] at hFirstDefault
      rw [if_neg fun h => hLogbook (hSame.trans h)] at hSecondDefault
      exact h.oneDefault first hFirst second hSecond hSame hFirstDefault hSecondDefault

theorem isDefault_cleared {tables : StationTables} {logbookId : Uuid}
    {hosted : HostedStationProfile} (hMem : hosted ∈ (tables.cleared logbookId).stations.values)
    (hLogbook : hosted.logbookId = logbookId) : hosted.isDefault = false := by
  rw [cleared, Catalog.mem_values_mapValues] at hMem
  obtain ⟨old, _, rfl⟩ := hMem
  by_cases hOld : old.logbookId = logbookId
  · rw [if_pos hOld]
    rfl
  · rw [if_neg hOld] at hLogbook
    exact absurd hLogbook hOld

end StationTables

/-! What the requests do. -/

section Requests
variable [UuidCrate] {before : StationTables}

open HostedServer

theorem leads_clearDefaults_bind {α : Type} {logbookId : Uuid} {next : Unit → Handler α}
    {Q : StationTables → Except (Fault ApiError) α → Prop}
    (h : Leads ServerState.stationTables (next ()) (before.cleared logbookId) Q) :
    Leads ServerState.stationTables (clearDefaults logbookId >>= next) before Q := by
  apply leads_modify_bind
  intro state hState
  subst hState
  exact h

theorem leads_insertStation (h : before.Ordered) {hosted : HostedStationProfile}
    (hNew : before.stations.lookup hosted.stationProfileId = none)
    (hActive : hosted.isDefault = hosted.profile.active) :
    Leads ServerState.stationTables (insertStation hosted) before fun later _ => later.Ordered := by
  have hUnknown : ∀ old, before.stations.lookup hosted.stationProfileId = some old →
      old.logbookId = hosted.logbookId := by
    intro old hOld
    rw [hNew] at hOld
    cases hOld
  apply leads_get_bind
  intro state hState
  apply leads_ite
  · intro _
    apply leads_clearDefaults_bind
    apply leads_modify_bind
    intro cleared hCleared
    have hTables : ({ cleared with
        stationProfiles := cleared.stationProfiles.insert (hosted.setDefault true) } :
          ServerState).stationTables =
        { before.cleared hosted.logbookId with
          stations := (before.cleared hosted.logbookId).stations.insert
            (hosted.setDefault true) } := by
      rw [← hCleared]
      rfl
    rw [hTables]
    apply leads_pure
    apply (h.cleared hosted.logbookId).putStation rfl
    · intro old hOld
      rw [StationTables.cleared, Catalog.lookup_mapValues] at hOld
      have hNone : before.stations.lookup (hosted.setDefault true).stationProfileId = none := hNew
      rw [hNone] at hOld
      cases hOld
    · intro _ other hOther hLogbook _
      exact StationTables.isDefault_cleared hOther hLogbook
  · intro hNot
    apply leads_modify_bind
    intro kept hKept
    subst hKept
    apply leads_pure
    apply h.putStation hActive hUnknown
    intro hDefault
    exact absurd (Or.inr hDefault) hNot

theorem leads_modifyStation {accountId logbookId profileId : Uuid}
    {change : HostedStationProfile → HostedStationProfile}
    {hKey : ∀ hosted, (change hosted).stationProfileId = hosted.stationProfileId}
    (h : before.Ordered) (hLogbook : ∀ hosted, (change hosted).logbookId = hosted.logbookId)
    (hActive : ∀ hosted, hosted.isDefault = hosted.profile.active →
      (change hosted).isDefault = (change hosted).profile.active)
    (hDefault : ∀ hosted, hosted.logbookId = logbookId → (change hosted).isDefault = true →
      hosted.isDefault = true ∨ ∀ other ∈ before.stations.values, other.logbookId = logbookId →
        other.isDefault = false) :
    Leads ServerState.stationTables (modifyStation accountId logbookId profileId change hKey)
      before fun later _ => later.Ordered := by
  apply leads_get_bind
  intro state hState
  apply leads_orReject_bind
  · intro _
    exact h
  · intro hosted hHosted
    obtain ⟨hFound, hOwn⟩ := Option.filter_eq_some_iff.mp hHosted
    have hBoth := of_decide_eq_true hOwn
    apply leads_set_bind
    apply leads_pure
    subst hState
    have hTables : ({ state with
        stationProfiles := state.stationProfiles.modify profileId change hKey } :
          ServerState).stationTables = { state.stationTables with
            stations := state.stationTables.stations.insert (change hosted) } := by
      rw [ServerState.stationTables, Catalog.modify_eq_insert hFound]
      rfl
    rw [hTables]
    apply h.putStation
    · exact hActive hosted (h.defaultActive hosted (Catalog.mem_values_of_lookup hFound))
    · intro old hOld
      rw [hKey, Catalog.keyOf_of_lookup hFound] at hOld
      rw [← Option.some.inj (hFound.symm.trans hOld), hLogbook]
    · intro hIsDefault other hOther hSame hApart
      rw [hLogbook] at hSame
      rw [hKey] at hApart
      rcases hDefault hosted hBoth.2 hIsDefault with hOldDefault | hCleared
      · by_contra hOtherDefault
        have hOne := h.oneDefault other hOther hosted (Catalog.mem_values_of_lookup hFound) hSame
          (by simpa using hOtherDefault) hOldDefault
        exact hApart (congrArg HostedStationProfile.stationProfileId hOne)
      · exact hCleared other hOther (hSame.trans hBoth.2)

/-- Equipment that was checked against the profiles is put in place. -/
theorem leads_putEquipment (h : before.Ordered) (context : RequestContext)
    (equipment : HostedEquipmentProfile)
    (hOwn : ∀ stationProfileId ∈ equipment.stationProfileId,
      before.HasStation equipment.logbookId stationProfileId) :
    Leads ServerState.stationTables (do
      modify fun state =>
        { state with equipmentProfiles := state.equipmentProfiles.insert equipment }
      persistMetadata context
      return equipment) before fun later _ => later.Ordered := by
  apply leads_modify_bind
  intro state hState
  subst hState
  exact (keeps_bind (keeps_persistMetadata context) fun _ => keeps_pure _).leads
    fun _ => h.putEquipment hOwn

theorem hasStation_of_assigned {state : ServerState} {equipment : HostedEquipmentProfile}
    (h : stationAssigned state equipment = true) : ∀ stationProfileId ∈ equipment.stationProfileId,
      state.stationTables.HasStation equipment.logbookId stationProfileId := by
  intro stationProfileId hNamed
  rw [stationAssigned, Option.mem_def.mp hNamed, Option.all_some, List.any_eq_true] at h
  obtain ⟨hosted, hMem, hOwn⟩ := h
  obtain ⟨_, hLogbook, hId⟩ := of_decide_eq_true hOwn
  refine ⟨hosted, ?_, hLogbook⟩
  rw [← hId]
  exact Catalog.mem_values.mp hMem

theorem leads_validated_equipment (h : before.Ordered) (context : RequestContext)
    (equipment : HostedEquipmentProfile) :
    Leads ServerState.stationTables (do
      validateStationAssignment equipment
      modify fun state =>
        { state with equipmentProfiles := state.equipmentProfiles.insert equipment }
      persistMetadata context
      return equipment) before fun later _ => later.Ordered := by
  refine leads_bind (R := fun later outcome => later = before ∧ ∀ done, outcome = .ok done →
    ∀ stationProfileId ∈ equipment.stationProfileId,
      before.HasStation equipment.logbookId stationProfileId) ?_ ?_ ?_
  · apply leads_get_bind
    intro state hState
    subst hState
    apply leads_ite
    · intro _ state hState
      exact ⟨hState, nofun⟩
    · intro hAssigned
      exact leads_pure ⟨rfl, fun _ _ => hasStation_of_assigned (by simpa using hAssigned)⟩
  · intro later error hLater
    rw [hLater.1]
    exact h
  · intro later done hLater
    rw [hLater.1]
    exact leads_putEquipment h context equipment (hLater.2 done rfl)

theorem keeps_ownEquipment {View : Type} {view : ServerState → View}
    (accountId logbookId equipmentId : Uuid) :
    Keeps view (ownEquipment accountId logbookId equipmentId) :=
  keeps_get_bind fun _ => keeps_orReject _ _

theorem leads_ownEquipment_bind {α : Type} {accountId logbookId equipmentId : Uuid}
    {next : HostedEquipmentProfile → Handler α}
    {Q : StationTables → Except (Fault ApiError) α → Prop}
    (hUnknown : ∀ error, Q before (.error error))
    (h : ∀ equipment ∈ before.equipment.values,
      Leads ServerState.stationTables (next equipment) before Q) :
    Leads ServerState.stationTables (ownEquipment accountId logbookId equipmentId >>= next)
      before Q := by
  rw [ownEquipment, bind_assoc]
  apply leads_get_bind
  intro state hState
  apply leads_orReject_bind fun _ => hUnknown _
  intro equipment hEquipment
  obtain ⟨hFound, _⟩ := Option.filter_eq_some_iff.mp hEquipment
  subst hState
  exact h equipment (Catalog.mem_values_of_lookup hFound)

variable [Sha2Crate]

theorem leads_createStationProfile (h : before.Ordered) (context : RequestContext) {drawn : Uuid}
    (hNew : before.stations.lookup drawn = none) (body : Except String StationProfileRequest) :
    Leads ServerState.stationTables (createStationProfile context drawn body) before
      fun later _ => later.Ordered := by
  apply leads_of_keeps_bind (keeps_parseJson body) fun _ => h
  intro input
  apply leads_of_keeps_bind (keeps_requireLogbookRole context input.logbookId .admin) fun _ => h
  intro auth
  apply leads_ofExcept_bind fun _ _ => h
  intro profile hProfile
  obtain ⟨hDrawn, hActive⟩ := stationProfileFromRequest_ok hProfile
  subst hDrawn
  refine leads_bind (leads_insertStation h ?_ ?_) (fun _ _ hLater => hLater) ?_
  · exact hNew
  · exact hActive.symm
  intro later hosted hLater
  exact (keeps_bind (keeps_persistMetadata context) fun _ => keeps_pure _).leads fun _ => hLater

/-- The profile that a patch makes active is the only default one. -/
theorem leads_patchStationProfile (h : before.Ordered) (context : RequestContext)
    (profileId : String) (body : Except String StationProfileRequest) :
    Leads ServerState.stationTables (patchStationProfile context profileId body) before
      fun later _ => later.Ordered := by
  apply leads_of_keeps_bind (keeps_orReject _ _) fun _ => h
  intro profileId
  apply leads_of_keeps_bind (keeps_parseJson body) fun _ => h
  intro input
  apply leads_of_keeps_bind (keeps_requireLogbookRole context input.logbookId .admin) fun _ => h
  intro auth
  apply leads_get_bind
  intro state _
  apply leads_orReject_bind fun _ => h
  intro existing _
  apply leads_ofExcept_bind fun _ _ => h
  intro _ _
  have hSame : ∀ hosted : HostedStationProfile, hosted.isDefault = hosted.profile.active →
      (applyStationPatch context.now input hosted).isDefault =
        (applyStationPatch context.now input hosted).profile.active := by
    intro hosted hActive
    simp only [applyStationPatch, hActive]
  have hRest : ∀ {tables : StationTables} {hosted : HostedStationProfile}, tables.Ordered →
      Leads ServerState.stationTables (do persistMetadata context; pure hosted) tables
        fun later _ => later.Ordered := fun hOrdered =>
    (keeps_bind (keeps_persistMetadata context) fun _ => keeps_pure _).leads fun _ => hOrdered
  apply leads_ite
  · intro hMadeActive
    apply leads_clearDefaults_bind
    refine leads_bind (leads_modifyStation (h.cleared input.logbookId) ?_ hSame ?_)
      (fun _ _ hLater => hLater) fun _ _ hLater => hRest hLater
    · intro hosted
      rfl
    · intro hosted _ _
      exact Or.inr fun other hOther hLogbook => StationTables.isDefault_cleared hOther hLogbook
  · intro hNotActive
    refine leads_bind (leads_modifyStation h ?_ hSame ?_)
      (fun _ _ hLater => hLater) fun _ _ hLater => hRest hLater
    · intro hosted
      rfl
    · intro hosted _ hDefault
      refine Or.inl ?_
      cases hInput : input.active with
      | none => simpa [applyStationPatch, hInput] using hDefault
      | some active =>
          cases active with
          | true => exact absurd hInput hNotActive
          | false => simp [applyStationPatch, hInput] at hDefault

theorem leads_archiveStationProfile (h : before.Ordered) (context : RequestContext)
    (profileId : String) (body : Except String Uuid) :
    Leads ServerState.stationTables (archiveStationProfile context profileId body) before
      fun later _ => later.Ordered := by
  apply leads_of_keeps_bind (keeps_orReject _ _) fun _ => h
  intro profileId
  apply leads_of_keeps_bind (keeps_parseJson body) fun _ => h
  intro logbookId
  apply leads_of_keeps_bind (keeps_requireLogbookRole context logbookId .admin) fun _ => h
  intro auth
  refine leads_bind (leads_modifyStation h ?_ ?_ ?_) (fun _ _ hLater => hLater) ?_
  · intro hosted
    rfl
  · intro hosted _
    rfl
  · intro hosted _ hDefault
    cases hDefault
  · intro later hosted hLater
    exact (keeps_bind (keeps_persistMetadata context) fun _ => keeps_pure _).leads fun _ => hLater

theorem leads_setDefaultStationProfile (h : before.Ordered) (context : RequestContext)
    (profileId : String) (body : Except String Uuid) :
    Leads ServerState.stationTables (setDefaultStationProfile context profileId body) before
      fun later _ => later.Ordered := by
  apply leads_of_keeps_bind (keeps_orReject _ _) fun _ => h
  intro profileId
  apply leads_of_keeps_bind (keeps_parseJson body) fun _ => h
  intro logbookId
  apply leads_of_keeps_bind (keeps_requireLogbookRole context logbookId .admin) fun _ => h
  intro auth
  apply leads_get_bind
  intro state _
  apply leads_guard fun _ => h
  intro _
  apply leads_modify_bind
  intro before hBefore
  subst hBefore
  have hLater : ({ before with
      stationProfiles := before.stationProfiles.mapValues
        (fun hosted =>
          if hosted.logbookId = logbookId then
            let changed := hosted.setDefault (hosted.profile.stationProfileId = profileId)
            { changed with profile := { changed.profile with updatedAt := context.now } }
          else hosted)
        fun hosted => by split <;> rfl } : ServerState).stationTables.Ordered := by
    apply StationTables.Ordered.mapStations h
    · intro hosted
      split <;> rfl
    · intro hosted hActive
      split
      · rfl
      · exact hActive
    · intro first hFirst second hSecond hSame hFirstDefault hSecondDefault
      by_cases hLogbook : first.logbookId = logbookId
      · rw [if_pos hLogbook] at hFirstDefault
        rw [if_pos (hSame.symm.trans hLogbook)] at hSecondDefault
        have hFirstId : first.stationProfileId = profileId := of_decide_eq_true hFirstDefault
        have hSecondId : second.stationProfileId = profileId := of_decide_eq_true hSecondDefault
        have hFound := Catalog.mem_values.mp hFirst
        rw [hFirstId, ← hSecondId, Catalog.mem_values.mp hSecond] at hFound
        exact (Option.some.inj hFound).symm
      · rw [if_neg hLogbook] at hFirstDefault
        rw [if_neg fun h => hLogbook (hSame.trans h)] at hSecondDefault
        exact h.oneDefault first hFirst second hSecond hSame hFirstDefault hSecondDefault
    · intro hosted
      split <;> rfl
  apply leads_get_bind
  intro state _
  apply leads_orReject_bind fun _ => hLater
  intro hosted _
  exact (keeps_bind (keeps_persistMetadata context) fun _ => keeps_pure _).leads fun _ => hLater

theorem leads_createEquipment (h : before.Ordered) (context : RequestContext) (drawn : Uuid)
    (body : Except String EquipmentProfileRequest) :
    Leads ServerState.stationTables (createEquipment context drawn body) before
      fun later _ => later.Ordered := by
  apply leads_of_keeps_bind (keeps_parseJson body) fun _ => h
  intro input
  apply leads_of_keeps_bind (keeps_requireLogbookRole context input.logbookId .admin) fun _ => h
  intro auth
  apply leads_ofExcept_bind fun _ _ => h
  intro equipment _
  exact leads_validated_equipment h context _

theorem leads_patchEquipment (h : before.Ordered) (context : RequestContext)
    (equipmentId : String) (body : Except String EquipmentProfileRequest) :
    Leads ServerState.stationTables (patchEquipment context equipmentId body) before
      fun later _ => later.Ordered := by
  apply leads_of_keeps_bind (keeps_orReject _ _) fun _ => h
  intro equipmentId
  apply leads_of_keeps_bind (keeps_parseJson body) fun _ => h
  intro input
  apply leads_of_keeps_bind (keeps_requireLogbookRole context input.logbookId .admin) fun _ => h
  intro auth
  apply leads_of_keeps_bind (keeps_ownEquipment _ _ _) fun _ => h
  intro equipment
  exact leads_validated_equipment h context _

theorem leads_archiveEquipment (h : before.Ordered) (context : RequestContext)
    (equipmentId : String) (body : Except String Uuid) :
    Leads ServerState.stationTables (archiveEquipment context equipmentId body) before
      fun later _ => later.Ordered := by
  apply leads_of_keeps_bind (keeps_orReject _ _) fun _ => h
  intro equipmentId
  apply leads_of_keeps_bind (keeps_parseJson body) fun _ => h
  intro logbookId
  apply leads_of_keeps_bind (keeps_requireLogbookRole context logbookId .admin) fun _ => h
  intro auth
  apply leads_ownEquipment_bind fun _ => h
  intro equipment hEquipment
  exact leads_putEquipment h context _ (h.ownStation equipment hEquipment)

end Requests
end HamLogger
