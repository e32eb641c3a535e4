import HamLogger.Core.Crates
import HamLogger.Core.StationBook
import HamLogger.Library.Transition

/-! Runs of the station book. The active profile is kept as an identifier and
as a flag of the profiles, and a contact is filled in from what is active. -/
namespace HamLogger.Station

open Transition (Run System)

inductive StationCall where
  | createProfile (profile : StationProfile) (now : DateTime)
  | updateProfile (profileId : Uuid) (update : StationProfile) (now : DateTime)
  | createConfiguration (config : StationConfiguration)
  | selectProfile (profileId : Uuid) (now : DateTime)
  | selectConfiguration (configurationId : Uuid) (now : DateTime)

namespace StationBook

/-- The book after a call. A call that fails leaves it as it was. -/
def perform (book : StationBook) : StationCall → StationBook
  | .createProfile profile now => (book.createProfile profile now).1
  | .updateProfile profileId update now => (book.updateProfile profileId update now).1
  | .createConfiguration config => (book.createConfiguration config).toOption.getD book
  | .selectProfile profileId now => (book.selectProfile profileId now).toOption.getD book
  | .selectConfiguration configurationId now =>
      (book.selectConfiguration configurationId now).toOption.getD book

/-- What is active is named alike by the identifiers and the flags. -/
structure ActiveAgrees (book : StationBook) : Prop where
  one : book.profiles ≠ [] →
    ∃ profile, (book.profiles.filter fun profile => profile.active) = [profile]
  flag : ∀ profile ∈ book.profiles,
    profile.active = true ↔ book.activeProfileId = some profile.stationProfileId
  configuration : ∀ id, book.activeConfigurationId = some id →
    ∃ config ∈ book.configurations, config.configurationId = id ∧
      book.activeProfileId = some config.stationProfileId

/-- A step that repeats no identifier, keeps the active profile active, and
makes no new profile active next to an active configuration. -/
def Careful (book : StationBook) : StationCall → Prop
  | .createProfile profile _ =>
      profile.stationProfileId ∉ book.profiles.map StationProfile.stationProfileId ∧
        (profile.active = true → book.activeConfigurationId = none)
  | .updateProfile profileId update _ =>
      book.activeProfileId = some profileId → update.active = true
  | .createConfiguration config =>
      config.configurationId ∉ book.configurations.map StationConfiguration.configurationId
  | _ => True

/-- The invariant of a book: what is active agrees, and every identifier in
use is used once. -/
structure Sound (book : StationBook) : Prop where
  profileIds : (book.profiles.map StationProfile.stationProfileId).Nodup
  configurationIds : (book.configurations.map StationConfiguration.configurationId).Nodup
  chosen : book.profiles ≠ [] → book.activeProfileId.isSome = true
  named : ∀ id, book.activeProfileId = some id →
    id ∈ book.profiles.map StationProfile.stationProfileId
  flag : ∀ profile ∈ book.profiles,
    profile.active = true ↔ book.activeProfileId = some profile.stationProfileId
  configuration : ∀ id, book.activeConfigurationId = some id →
    ∃ config ∈ book.configurations, config.configurationId = id ∧
      book.activeProfileId = some config.stationProfileId

theorem sound_empty : Sound {} where
  profileIds := List.nodup_nil
  configurationIds := List.nodup_nil
  chosen h := absurd rfl h
  named _ h := by cases h
  flag _ h := by cases h
  configuration _ h := by cases h

variable {book later : StationBook}

theorem Sound.activeAgrees (h : book.Sound) : book.ActiveAgrees where
  one hSome := by
    obtain ⟨id, hId⟩ := Option.isSome_iff_exists.mp (h.chosen hSome)
    obtain ⟨profile, hMem, rfl⟩ := List.mem_map.mp (h.named id hId)
    have hActive : profile ∈ book.profiles.filter fun profile => profile.active :=
      List.mem_filter.mpr ⟨hMem, (h.flag profile hMem).mpr hId⟩
    refine ⟨profile, ?_⟩
    have hAll : ∀ other ∈ book.profiles.filter fun profile => profile.active,
        other = profile := by
      intro other hOther
      obtain ⟨hListed, hFlag⟩ := List.mem_filter.mp hOther
      have hSame := (h.flag other hListed).mp hFlag
      exact List.inj_on_of_nodup_map h.profileIds hListed hMem
        (Option.some.inj (hSame.symm.trans hId))
    have hNodup : (book.profiles.filter fun profile => profile.active).Nodup :=
      h.profileIds.of_map.filter _
    have hReplicate := List.eq_replicate_of_mem hAll
    rw [hReplicate, List.nodup_replicate] at hNodup
    have hLength := List.length_pos_of_mem hActive
    have hOne : (book.profiles.filter fun profile => profile.active).length = 1 := by omega
    rw [hReplicate, hOne]
    rfl
  flag := h.flag
  configuration := h.configuration

theorem ids_setAllProfilesInactive (book : StationBook) :
    book.setAllProfilesInactive.profiles.map StationProfile.stationProfileId =
      book.profiles.map StationProfile.stationProfileId := by
  unfold setAllProfilesInactive
  rw [List.map_map]
  rfl

/-- What a selection leaves, whatever the flags were before. -/
theorem selectProfile_spec {profileId : Uuid} {now : DateTime}
    (hIds : (book.profiles.map StationProfile.stationProfileId).Nodup)
    (h : book.selectProfile profileId now = .ok later) :
    later.profiles.map StationProfile.stationProfileId =
        book.profiles.map StationProfile.stationProfileId ∧
      (∀ profile ∈ later.profiles,
        profile.active = true ↔ profile.stationProfileId = profileId) ∧
      profileId ∈ book.profiles.map StationProfile.stationProfileId ∧
      later.activeProfileId = some profileId ∧
      later.configurations = book.configurations ∧
      later.activeConfigurationId = (book.configurations.find? fun config =>
        config.stationProfileId = profileId).map StationConfiguration.configurationId := by
  unfold selectProfile at h
  split at h
  · next hAny =>
      cases h
      obtain ⟨profile, hMem, hId⟩ := List.any_eq_true.mp hAny
      have hNamed : profileId ∈ book.profiles.map StationProfile.stationProfileId :=
        List.mem_map.mpr ⟨profile, hMem, of_decide_eq_true hId⟩
      have hSame := ids_setAllProfilesInactive book
      refine ⟨?_, ?_, hNamed, rfl, rfl, rfl⟩
      · rw [← hSame]
        exact map_updateFirst fun _ _ => rfl
      obtain ⟨found, hFound⟩ : ∃ found, book.setAllProfilesInactive.profiles.find?
          (fun profile => profile.stationProfileId = profileId) = some found := by
        rw [← hSame] at hNamed
        obtain ⟨other, hOther, hOtherId⟩ := List.mem_map.mp hNamed
        exact Option.isSome_iff_exists.mp
          (List.find?_isSome.mpr ⟨other, hOther, decide_eq_true hOtherId⟩)
      have hFoundId : found.stationProfileId = profileId := by
        simpa using List.find?_some hFound
      obtain ⟨before, after, hSplit, hUpdated⟩ := @updateFirst_of_find? _ _
        (fun profile : StationProfile => { profile with active := true, updatedAt := now }) _ _
        hFound
      have hInactive : ∀ profile ∈ book.setAllProfilesInactive.profiles,
          profile.active = false := by
        intro profile hProfile
        obtain ⟨_, _, rfl⟩ := List.mem_map.mp hProfile
        rfl
      have hApart : ∀ profile, profile ∈ before ∨ profile ∈ after →
          profile.active = false ∧ profile.stationProfileId ≠ profileId := by
        intro profile hProfile
        have hListed : profile ∈ book.setAllProfilesInactive.profiles := by
          rw [hSplit, List.mem_append, List.mem_cons]
          rcases hProfile with hBefore | hAfter
          · exact Or.inl hBefore
          · exact Or.inr (Or.inr hAfter)
        refine ⟨hInactive profile hListed, fun hOther => ?_⟩
        rw [← hSame, hSplit, List.map_append, List.map_cons, List.nodup_append,
          List.nodup_cons] at hIds
        obtain ⟨_, ⟨hNotAfter, _⟩, hDisjoint⟩ := hIds
        have hHere := hOther.trans hFoundId.symm
        rcases hProfile with hBefore | hAfter
        · exact hDisjoint _ (List.mem_map_of_mem hBefore) _ List.mem_cons_self hHere
        · exact hNotAfter (List.mem_map.mpr ⟨profile, hAfter, hHere⟩)
      intro profile hProfile
      have hMember : profile ∈ before ++ { found with active := true, updatedAt := now } :: after :=
        hUpdated ▸ hProfile
      rcases List.mem_append.mp hMember with hBefore | hRest
      · obtain ⟨hFlag, hOther⟩ := hApart profile (Or.inl hBefore)
        simp [hFlag, hOther]
      · rcases List.mem_cons.mp hRest with rfl | hAfter
        · simp [hFoundId]
        · obtain ⟨hFlag, hOther⟩ := hApart profile (Or.inr hAfter)
          simp [hFlag, hOther]
  · cases h

theorem not_mem_of_selectProfile {profileId : Uuid} {now : DateTime} {error : StationStoreError}
    (h : book.selectProfile profileId now = .error error) :
    profileId ∉ book.profiles.map StationProfile.stationProfileId := by
  unfold selectProfile at h
  split at h
  · cases h
  · next hNone =>
      intro hMem
      obtain ⟨profile, hListed, hId⟩ := List.mem_map.mp hMem
      exact hNone (List.any_eq_true.mpr ⟨profile, hListed, decide_eq_true hId⟩)

/-- A selection makes a book sound whose identifiers are used once. -/
theorem sound_selectProfile {profileId : Uuid} {now : DateTime}
    (hProfileIds : (book.profiles.map StationProfile.stationProfileId).Nodup)
    (hConfigurationIds :
      (book.configurations.map StationConfiguration.configurationId).Nodup)
    (h : book.selectProfile profileId now = .ok later) : later.Sound := by
  obtain ⟨hIds, hFlags, hNamed, hActive, hConfigurations, hChosen⟩ :=
    selectProfile_spec hProfileIds h
  refine ⟨hIds ▸ hProfileIds, hConfigurations ▸ hConfigurationIds, ?_, ?_, ?_, ?_⟩
  · intro _
    rw [hActive]
    rfl
  · intro id hId
    rw [hActive] at hId
    rw [hIds, ← Option.some.inj hId]
    exact hNamed
  · intro profile hMem
    rw [hFlags profile hMem, hActive, Option.some.injEq, eq_comm]
  · intro id hId
    rw [hChosen] at hId
    obtain ⟨config, hFound, rfl⟩ := Option.map_eq_some_iff.mp hId
    have hOwner : config.stationProfileId = profileId := by simpa using List.find?_some hFound
    refine ⟨config, hConfigurations ▸ List.mem_of_find?_eq_some hFound, rfl, ?_⟩
    rw [hActive, hOwner]

theorem Sound.selectConfiguration (h : book.Sound) {configurationId : Uuid} {now : DateTime}
    (hSelect : book.selectConfiguration configurationId now = .ok later) : later.Sound := by
  unfold StationBook.selectConfiguration at hSelect
  split at hSelect
  · cases hSelect
  · next config hFound =>
      obtain ⟨selected, hSelected, hLater⟩ := (except_bind_eq_ok_iff _ _ _).mp hSelect
      cases hLater
      have hSound := sound_selectProfile h.profileIds h.configurationIds hSelected
      obtain ⟨_, _, _, hActive, hConfigurations, _⟩ := selectProfile_spec h.profileIds hSelected
      refine ⟨hSound.profileIds, hSound.configurationIds, hSound.chosen, hSound.named,
        hSound.flag, ?_⟩
      intro id hId
      obtain rfl := Option.some.inj hId
      have hSame : config.configurationId = configurationId := by
        simpa using List.find?_some hFound
      exact ⟨config, hConfigurations ▸ List.mem_of_find?_eq_some hFound, hSame, hActive⟩

theorem Sound.createConfiguration (h : book.Sound) {config : StationConfiguration}
    (hNew : config.configurationId ∉
      book.configurations.map StationConfiguration.configurationId)
    (hCreate : book.createConfiguration config = .ok later) : later.Sound := by
  unfold StationBook.createConfiguration at hCreate
  split at hCreate
  · cases hCreate
    refine ⟨h.profileIds, ?_, h.chosen, h.named, h.flag, ?_⟩
    · rw [List.map_append, List.nodup_append]
      refine ⟨h.configurationIds, List.nodup_singleton _, ?_⟩
      intro id hId other hOther hSame
      obtain rfl := List.mem_singleton.mp hOther
      exact hNew (hSame ▸ hId)
    · intro id hId
      obtain ⟨other, hMem, hOther⟩ := h.configuration id hId
      exact ⟨other, List.mem_append_left _ hMem, hOther⟩
  · cases hCreate

theorem Sound.createProfile (h : book.Sound) {profile : StationProfile} (now : DateTime)
    (hNew : profile.stationProfileId ∉ book.profiles.map StationProfile.stationProfileId)
    (hAlone : profile.active = true → book.activeConfigurationId = none) :
    (book.createProfile profile now).1.Sound := by
  have hIds : (book.profiles.map StationProfile.stationProfileId ++
      [profile.stationProfileId]).Nodup := by
    rw [List.nodup_append]
    refine ⟨h.profileIds, List.nodup_singleton _, ?_⟩
    intro id hId other hOther hSame
    obtain rfl := List.mem_singleton.mp hOther
    exact hNew (hSame ▸ hId)
  unfold StationBook.createProfile
  dsimp only
  split
  · next hActive =>
      have hNone : book.activeConfigurationId = none := by
        rcases Bool.or_eq_true_iff.mp hActive with hEmpty | hFlag
        · rw [Option.eq_none_iff_forall_ne_some]
          intro id hId
          obtain ⟨config, _, _, hOwner⟩ := h.configuration id hId
          have hNamed := h.named _ hOwner
          rw [List.isEmpty_iff.mp hEmpty] at hNamed
          cases hNamed
        · exact hAlone hFlag
      have hListed := ids_setAllProfilesInactive book
      refine ⟨?_, h.configurationIds, fun _ => rfl, ?_, ?_, ?_⟩
      · rw [List.map_append, hListed]
        exact hIds
      · intro id hId
        rw [List.map_append]
        exact List.mem_append_right _ (List.mem_singleton.mpr (Option.some.inj hId).symm)
      · intro other hOther
        rcases List.mem_append.mp hOther with hOld | hLast
        · obtain ⟨old, hMem, rfl⟩ := List.mem_map.mp hOld
          refine iff_of_false (by simp) fun hSame => ?_
          exact hNew (List.mem_map.mpr ⟨old, hMem, (Option.some.inj hSame).symm⟩)
        · obtain rfl := List.mem_singleton.mp hLast
          exact iff_of_true rfl rfl
      · intro id hId
        cases hNone.symm.trans hId
  · next hInactive =>
      rw [Bool.not_eq_true, Bool.or_eq_false_iff] at hInactive
      have hSome : book.profiles ≠ [] := by
        rintro hEmpty
        rw [hEmpty] at hInactive
        cases hInactive.1
      refine ⟨?_, h.configurationIds, fun _ => h.chosen hSome, ?_, ?_, h.configuration⟩
      · rw [List.map_append]
        exact hIds
      · intro id hId
        rw [List.map_append]
        exact List.mem_append_left _ (h.named id hId)
      · intro other hOther
        rcases List.mem_append.mp hOther with hOld | hLast
        · exact h.flag other hOld
        · obtain rfl := List.mem_singleton.mp hLast
          refine iff_of_false (by simp [hInactive.2]) fun hSame => ?_
          exact hNew (h.named _ hSame)

theorem Sound.updateProfile (h : book.Sound) (profileId : Uuid) (update : StationProfile)
    (now : DateTime) (hKeeps : book.activeProfileId = some profileId → update.active = true) :
    (book.updateProfile profileId update now).1.Sound := by
  unfold StationBook.updateProfile
  cases hFound : book.profiles.find? fun profile => profile.stationProfileId = profileId with
  | none => exact h
  | some existing =>
      have hExisting : existing.stationProfileId = profileId := by
        simpa using List.find?_some hFound
      have hOld := List.mem_of_find?_eq_some hFound
      let changed : StationProfile := { update with
        stationProfileId := profileId, createdAt := existing.createdAt, updatedAt := now }
      have hIds : (updateFirst (fun profile => profile.stationProfileId = profileId)
          (fun _ => changed) book.profiles).map StationProfile.stationProfileId =
            book.profiles.map StationProfile.stationProfileId := by
        refine map_updateFirst fun profile hProfile => ?_
        have hSame : profile.stationProfileId = profileId := by
          simpa using List.find?_some hProfile
        exact hSame.symm
      have hMem := fun profile => @mem_updateFirst_of_nodup _ _ _ _ profileId changed _
        h.profileIds _ hOld hExisting profile
      dsimp only
      split
      · next hActive =>
          cases hSelect : StationBook.selectProfile _ profileId now with
          | error error =>
              have hListed := List.mem_map.mpr ⟨existing, hOld, hExisting⟩
              rw [← hIds] at hListed
              exact absurd hListed (not_mem_of_selectProfile hSelect)
          | ok later =>
              have hLater : later.Sound := by
                refine sound_selectProfile ?_ ?_ hSelect
                · exact hIds ▸ h.profileIds
                · exact h.configurationIds
              exact hLater
      · next hInactive =>
          have hOther : book.activeProfileId ≠ some profileId := fun hSame =>
            hInactive (hKeeps hSame)
          refine ⟨hIds ▸ h.profileIds, h.configurationIds, ?_, ?_, ?_, h.configuration⟩
          · intro _
            exact h.chosen (List.ne_nil_of_mem hOld)
          · intro id hId
            rw [hIds]
            exact h.named id hId
          · intro profile hProfile
            rcases (hMem profile).mp hProfile with rfl | ⟨hListed, _⟩
            · exact iff_of_false hInactive hOther
            · exact h.flag profile hListed

theorem Sound.getD (h : book.Sound) {outcome : Except StationStoreError StationBook}
    (hOk : ∀ later, outcome = .ok later → later.Sound) : (outcome.toOption.getD book).Sound := by
  cases outcome with
  | error error => exact h
  | ok later => exact hOk later rfl

/-- Each step that is careful keeps a book sound. -/
theorem Sound.perform (h : book.Sound) {call : StationCall} (hCareful : book.Careful call) :
    (book.perform call).Sound := by
  cases call with
  | createProfile profile now => exact h.createProfile now hCareful.1 hCareful.2
  | updateProfile profileId update now => exact h.updateProfile profileId update now hCareful
  | createConfiguration config => exact h.getD fun _ => h.createConfiguration hCareful
  | selectProfile profileId now =>
      exact h.getD fun _ => sound_selectProfile h.profileIds h.configurationIds
  | selectConfiguration configurationId now => exact h.getD fun _ => h.selectConfiguration

/-- The calls on a book. -/
def calls : System StationBook StationCall where
  step book call later := later = book.perform call

/-- The calls on a book that are careful. -/
def carefulCalls : System StationBook StationCall where
  step book call later := book.Careful call ∧ later = book.perform call

theorem run_calls (book : StationBook) (steps : List StationCall) :
    Run calls book steps (steps.foldl perform book) := by
  induction steps using List.reverseRecOn with
  | nil => exact Run.nil book
  | append_singleton steps call ih =>
      rw [List.foldl_append]
      exact Run.snoc ih rfl

theorem sound_of_run {labels : List StationCall} (run : Run carefulCalls {} labels book) :
    book.Sound :=
  run.invariant (fun _ _ _ h hStep => hStep.2 ▸ h.perform hStep.1) sound_empty

/-! What is filled in for a contact. -/

/-- A field has another value after the defaults than before. -/
def Filled (before after : Value) (key : String) : Prop := after.get key ≠ before.get key

/-- No text that is not blank is overwritten, and what is filled in belongs to
the profile that the contact names. -/
structure StampedRightly [UuidCrate] (book : StationBook) (before after : Value) : Prop where
  kept : ∀ key text, before.get key = some (.string text) → trim text ≠ "" →
    after.get key = some (.string text)
  belongs : after ≠ before → ∃ profile ∈ book.profiles,
    after.get "station_profile_id" = some (jsonUuid profile.stationProfileId) ∧
    (Filled before after "station_callsign" →
      after.get "station_callsign" = some (.string profile.stationCallsign)) ∧
    ((∃ key ∈ ["station_configuration_id", "radio_id", "antenna_id", "amplifier_id"],
        Filled before after key) →
      ∃ config ∈ book.configurations, config.stationProfileId = profile.stationProfileId ∧
        (Filled before after "station_configuration_id" →
          after.get "station_configuration_id" = some (jsonUuid config.configurationId)) ∧
        (Filled before after "radio_id" →
          after.get "radio_id" = some (jsonOptionUuid config.radioId)) ∧
        (Filled before after "antenna_id" →
          after.get "antenna_id" = some (jsonOptionUuid config.antennaId)) ∧
        (Filled before after "amplifier_id" →
          after.get "amplifier_id" = some (jsonOptionUuid config.amplifierId)))

/-- The contact names no station profile, or the active one. -/
def NamesActive [UuidCrate] (book : StationBook) (payload : Value) : Prop :=
  ∀ value, payload.get "station_profile_id" = some value → value = .null ∨
    ∃ profile, book.activeProfile = some profile ∧ value = jsonUuid profile.stationProfileId

section Insert
variable {fields : Fields} {key other : String} {value : Value}

@[simp] theorem get_insertIfMissing_of_ne (h : other ≠ key) :
    (insertIfMissing fields key value).get other = fields.get other := by
  unfold insertIfMissing
  split
  · exact Fields.get_insert_of_ne h fields value
  · exact Fields.get_insert_of_ne h fields value
  · rfl

@[simp] theorem get_insertIfEmpty_of_ne (h : other ≠ key) :
    (insertIfEmpty fields key value).get other = fields.get other := by
  unfold insertIfEmpty
  split
  · exact Fields.get_insert_of_ne h fields value
  · rfl

/-- A field is filled in with the value, or stays as it is. -/
theorem get_insertIfMissing (fields : Fields) (key : String) (value : Value) :
    (insertIfMissing fields key value).get key = some value ∨
      ((insertIfMissing fields key value).get key = fields.get key ∧
        ∃ old, fields.get key = some old ∧ old ≠ .null) := by
  unfold insertIfMissing
  split
  · exact Or.inl (Fields.get_insert_self fields key value)
  · exact Or.inl (Fields.get_insert_self fields key value)
  · next old hNull hOld => exact Or.inr ⟨rfl, old, hOld, hNull⟩

theorem get_insertIfEmpty (fields : Fields) (key : String) (value : Value) :
    (insertIfEmpty fields key value).get key = some value ∨
      (insertIfEmpty fields key value).get key = fields.get key := by
  unfold insertIfEmpty
  split
  · exact Or.inl (Fields.get_insert_self fields key value)
  · exact Or.inr rfl

/-- Texts that are not blank stay. -/
def KeepsTexts (before after : Fields) : Prop :=
  ∀ key text, before.get key = some (.string text) → trim text ≠ "" →
    after.get key = some (.string text)

theorem KeepsTexts.refl (fields : Fields) : KeepsTexts fields fields := fun _ _ h _ => h

theorem KeepsTexts.trans {first second third : Fields} (h : KeepsTexts first second)
    (hNext : KeepsTexts second third) : KeepsTexts first third :=
  fun key text hText hVisible => hNext key text (h key text hText hVisible) hVisible

theorem keepsTexts_insertIfMissing (fields : Fields) (key : String) (value : Value) :
    KeepsTexts fields (insertIfMissing fields key value) := by
  intro other text hText _
  by_cases hSame : other = key
  · subst hSame
    unfold insertIfMissing
    rw [hText]
    exact hText
  · rw [get_insertIfMissing_of_ne hSame]
    exact hText

theorem keepsTexts_insertIfEmpty (fields : Fields) (key : String) (value : Value) :
    KeepsTexts fields (insertIfEmpty fields key value) := by
  intro other text hText hVisible
  by_cases hSame : other = key
  · subst hSame
    have hFull : trim (((fields.get other).bind Value.asStr).getD "") ≠ "" := by
      rw [hText]
      exact hVisible
    unfold insertIfEmpty
    rw [if_neg hFull]
    exact hText
  · rw [get_insertIfEmpty_of_ne hSame]
    exact hText

theorem KeepsTexts.optional {α : Type} {before : Fields} (h : KeepsTexts before fields)
    {option : Option α} {fill : α → Fields} (hFill : ∀ a, KeepsTexts fields (fill a)) :
    KeepsTexts before ((option.map fill).getD fields) := by
  cases option with
  | none => exact h
  | some a => exact h.trans (hFill a)

theorem get_optional {α : Type} {option : Option α} {fill : α → Fields}
    (h : ∀ a, (fill a).get key = fields.get key) :
    ((option.map fill).getD fields).get key = fields.get key := by
  cases option with
  | none => rfl
  | some a => exact h a

end Insert

theorem Sound.activeProfile_mem {profile : StationProfile}
    (h : book.activeProfile = some profile) :
    profile ∈ book.profiles ∧ book.activeProfileId = some profile.stationProfileId := by
  obtain ⟨id, hId, hFound⟩ := Option.bind_eq_some_iff.mp h
  have hSame : profile.stationProfileId = id := by simpa using List.find?_some hFound
  exact ⟨List.mem_of_find?_eq_some hFound, hId.trans (congrArg some hSame.symm)⟩

/-- In a sound book the active configuration is one of the active profile. -/
theorem Sound.owner_activeConfiguration (h : book.Sound) {config : StationConfiguration}
    (hConfig : book.activeConfiguration = some config) :
    config ∈ book.configurations ∧ book.activeProfileId = some config.stationProfileId := by
  obtain ⟨id, hId, hFound⟩ := Option.bind_eq_some_iff.mp hConfig
  have hSame : config.configurationId = id := by simpa using List.find?_some hFound
  have hMem := List.mem_of_find?_eq_some hFound
  obtain ⟨other, hOther, hOtherId, hOwner⟩ := h.configuration id hId
  have hEq : other = config :=
    List.inj_on_of_nodup_map h.configurationIds hOther hMem (hOtherId.trans hSame.symm)
  exact ⟨hMem, hEq ▸ hOwner⟩

theorem get_ensureObject {payload : Value} (key : String) :
    (ensureObject payload).get key = payload.get key := by
  cases payload <;> rfl

section Stamp
variable [UuidCrate] {fields : Fields}

theorem keepsTexts_profileDefaults (profile : StationProfile) (fields : Fields) :
    KeepsTexts fields (profileDefaults profile fields) := by
  unfold profileDefaults
  have hStart := (keepsTexts_insertIfMissing fields "station_profile_id"
    (jsonUuid profile.stationProfileId)).trans (keepsTexts_insertIfEmpty _ "station_callsign"
      (.string profile.stationCallsign))
  refine KeepsTexts.optional (KeepsTexts.optional (KeepsTexts.optional (KeepsTexts.optional
    hStart ?_) ?_) ?_) ?_
  · exact fun _ => keepsTexts_insertIfEmpty _ _ _
  · exact fun _ => keepsTexts_insertIfEmpty _ _ _
  · exact fun _ => keepsTexts_insertIfEmpty _ _ _
  · exact fun _ => keepsTexts_insertIfMissing _ _ _

theorem keepsTexts_configurationDefaults (config : StationConfiguration) (fields : Fields) :
    KeepsTexts fields (configurationDefaults config fields) := by
  unfold configurationDefaults
  have hStart := (((keepsTexts_insertIfMissing fields "station_configuration_id"
    (jsonUuid config.configurationId)).trans (keepsTexts_insertIfMissing _ "radio_id"
      (jsonOptionUuid config.radioId))).trans (keepsTexts_insertIfMissing _ "antenna_id"
        (jsonOptionUuid config.antennaId))).trans (keepsTexts_insertIfMissing _ "amplifier_id"
          (jsonOptionUuid config.amplifierId))
  exact hStart.optional fun _ => keepsTexts_insertIfMissing _ _ _

/-- The profile reaches no other fields than its own. -/
theorem get_profileDefaults_of_notMem {key : String} (profile : StationProfile)
    (h : key ∉ ["station_profile_id", "station_callsign", "operator_callsign", "grid", "qth",
      "power_watts"]) :
    (profileDefaults profile fields).get key = fields.get key := by
  simp only [List.mem_cons, List.not_mem_nil, or_false, not_or] at h
  obtain ⟨hId, hCallsign, hOperator, hGrid, hQth, hPower⟩ := h
  unfold profileDefaults
  dsimp only
  rw [get_optional fun _ => get_insertIfMissing_of_ne hPower,
    get_optional fun _ => get_insertIfEmpty_of_ne hQth,
    get_optional fun _ => get_insertIfEmpty_of_ne hGrid,
    get_optional fun _ => get_insertIfEmpty_of_ne hOperator,
    get_insertIfEmpty_of_ne hCallsign, get_insertIfMissing_of_ne hId]

theorem get_profileDefaults_id (profile : StationProfile) :
    (profileDefaults profile fields).get "station_profile_id" =
      (insertIfMissing fields "station_profile_id"
        (jsonUuid profile.stationProfileId)).get "station_profile_id" := by
  unfold profileDefaults
  dsimp only
  rw [get_optional fun _ => get_insertIfMissing_of_ne (by decide),
    get_optional fun _ => get_insertIfEmpty_of_ne (by decide),
    get_optional fun _ => get_insertIfEmpty_of_ne (by decide),
    get_optional fun _ => get_insertIfEmpty_of_ne (by decide),
    get_insertIfEmpty_of_ne (by decide)]

theorem get_profileDefaults_callsign (profile : StationProfile) :
    (profileDefaults profile fields).get "station_callsign" =
        some (.string profile.stationCallsign) ∨
      (profileDefaults profile fields).get "station_callsign" =
        fields.get "station_callsign" := by
  unfold profileDefaults
  dsimp only
  rw [get_optional fun _ => get_insertIfMissing_of_ne (by decide),
    get_optional fun _ => get_insertIfEmpty_of_ne (by decide),
    get_optional fun _ => get_insertIfEmpty_of_ne (by decide),
    get_optional fun _ => get_insertIfEmpty_of_ne (by decide)]
  rcases get_insertIfEmpty (insertIfMissing fields "station_profile_id"
    (jsonUuid profile.stationProfileId)) "station_callsign" (.string profile.stationCallsign)
    with hSet | hKept
  · exact Or.inl hSet
  · right
    rw [hKept, get_insertIfMissing_of_ne (by decide)]

theorem get_configurationDefaults_of_notMem {key : String} (config : StationConfiguration)
    (h : key ∉ ["station_configuration_id", "radio_id", "antenna_id", "amplifier_id",
      "power_watts"]) :
    (configurationDefaults config fields).get key = fields.get key := by
  simp only [List.mem_cons, List.not_mem_nil, or_false, not_or] at h
  obtain ⟨hId, hRadio, hAntenna, hAmplifier, hPower⟩ := h
  unfold configurationDefaults
  dsimp only
  rw [get_optional fun _ => get_insertIfMissing_of_ne hPower,
    get_insertIfMissing_of_ne hAmplifier, get_insertIfMissing_of_ne hAntenna,
    get_insertIfMissing_of_ne hRadio, get_insertIfMissing_of_ne hId]

/-- Each field of the configuration is filled in with its own value, or kept. -/
theorem get_configurationDefaults (config : StationConfiguration) (fields : Fields)
    {key : String} {value : Value}
    (h : (key, value) ∈ [("station_configuration_id", jsonUuid config.configurationId),
      ("radio_id", jsonOptionUuid config.radioId),
      ("antenna_id", jsonOptionUuid config.antennaId),
      ("amplifier_id", jsonOptionUuid config.amplifierId)]) :
    (configurationDefaults config fields).get key = some value ∨
      (configurationDefaults config fields).get key = fields.get key := by
  have hKept : ∀ {fields : Fields} {key : String} {value : Value},
      (insertIfMissing fields key value).get key = some value ∨
        (insertIfMissing fields key value).get key = fields.get key :=
    fun {fields key value} => (get_insertIfMissing fields key value).imp id And.left
  unfold configurationDefaults
  simp only [List.mem_cons, Prod.mk.injEq, List.not_mem_nil, or_false] at h
  rcases h with ⟨rfl, rfl⟩ | ⟨rfl, rfl⟩ | ⟨rfl, rfl⟩ | ⟨rfl, rfl⟩
  · dsimp only
    rw [get_optional fun _ => get_insertIfMissing_of_ne (by decide),
      get_insertIfMissing_of_ne (by decide), get_insertIfMissing_of_ne (by decide),
      get_insertIfMissing_of_ne (by decide)]
    exact hKept
  · dsimp only
    rw [get_optional fun _ => get_insertIfMissing_of_ne (by decide),
      get_insertIfMissing_of_ne (by decide), get_insertIfMissing_of_ne (by decide)]
    refine hKept.imp id fun hSame => ?_
    rw [hSame, get_insertIfMissing_of_ne (by decide)]
  · dsimp only
    rw [get_optional fun _ => get_insertIfMissing_of_ne (by decide),
      get_insertIfMissing_of_ne (by decide)]
    refine hKept.imp id fun hSame => ?_
    rw [hSame, get_insertIfMissing_of_ne (by decide), get_insertIfMissing_of_ne (by decide)]
  · dsimp only
    rw [get_optional fun _ => get_insertIfMissing_of_ne (by decide)]
    refine hKept.imp id fun hSame => ?_
    rw [hSame, get_insertIfMissing_of_ne (by decide), get_insertIfMissing_of_ne (by decide),
      get_insertIfMissing_of_ne (by decide)]

/-- A contact that names no other profile is stamped from the active one. -/
theorem Sound.stampedRightly (h : book.Sound) {payload : Value}
    (hNames : book.NamesActive payload) :
    book.StampedRightly payload (book.applyDefaultsToQsoPayload payload) := by
  unfold applyDefaultsToQsoPayload
  cases hProfile : book.activeProfile with
  | none => exact ⟨fun _ _ hText _ => hText, fun hChanged => absurd rfl hChanged⟩
  | some profile =>
      obtain ⟨hMem, hActive⟩ := Sound.activeProfile_mem hProfile
      have hId : (profileDefaults profile (ensureObject payload)).get "station_profile_id" =
          some (jsonUuid profile.stationProfileId) := by
        rw [get_profileDefaults_id]
        rcases get_insertIfMissing (ensureObject payload) "station_profile_id"
          (jsonUuid profile.stationProfileId) with hSet | ⟨hKept, old, hOld, hNull⟩
        · exact hSet
        · rw [hKept, hOld]
          rw [get_ensureObject] at hOld
          rcases hNames old hOld with rfl | ⟨other, hOther, rfl⟩
          · exact absurd rfl hNull
          · rw [Option.some.inj (hOther.symm.trans hProfile)]
      have hTexts : KeepsTexts (ensureObject payload)
          (profileDefaults profile (ensureObject payload)) :=
        keepsTexts_profileDefaults profile _
      have hApart : ∀ key ∈ ["station_configuration_id", "radio_id", "antenna_id",
          "amplifier_id"], key ∉ ["station_profile_id", "station_callsign", "operator_callsign",
            "grid", "qth", "power_watts"] := by decide
      dsimp only
      cases hConfig : book.activeConfiguration with
      | none =>
          refine ⟨fun key text hText hVisible => ?_, fun _ => ⟨profile, hMem, hId, ?_, ?_⟩⟩
          · exact hTexts key text ((get_ensureObject key).trans hText) hVisible
          · intro hFilled
            refine (get_profileDefaults_callsign profile).resolve_right fun hKept => hFilled ?_
            exact hKept.trans (get_ensureObject _)
          · rintro ⟨key, hKey, hFilled⟩
            refine absurd ?_ hFilled
            exact (get_profileDefaults_of_notMem profile (hApart key hKey)).trans
              (get_ensureObject key)
      | some config =>
          obtain ⟨hListed, hOwner⟩ := h.owner_activeConfiguration hConfig
          have hSame := Option.some.inj (hOwner.symm.trans hActive)
          have hOther : ∀ key, key ∉ ["station_configuration_id", "radio_id", "antenna_id",
              "amplifier_id", "power_watts"] →
              (configurationDefaults config (profileDefaults profile (ensureObject payload))).get
                key = (profileDefaults profile (ensureObject payload)).get key :=
            fun _ => get_configurationDefaults_of_notMem config
          have hKeptFrom : ∀ key ∈ ["station_configuration_id", "radio_id", "antenna_id",
              "amplifier_id"], (profileDefaults profile (ensureObject payload)).get key =
                payload.get key :=
            fun key hKey => (get_profileDefaults_of_notMem profile (hApart key hKey)).trans
              (get_ensureObject key)
          refine ⟨fun key text hText hVisible => ?_,
            fun _ => ⟨profile, hMem, (hOther _ (by decide)).trans hId, ?_, ?_⟩⟩
          · exact (hTexts.trans (keepsTexts_configurationDefaults config _)) key text
              ((get_ensureObject key).trans hText) hVisible
          · intro hFilled
            refine (hOther _ (by decide)).trans
              ((get_profileDefaults_callsign profile).resolve_right fun hKept => hFilled ?_)
            exact (hOther _ (by decide)).trans (hKept.trans (get_ensureObject _))
          · intro _
            have hFill : ∀ key value, (key, value) ∈
                [("station_configuration_id", jsonUuid config.configurationId),
                  ("radio_id", jsonOptionUuid config.radioId),
                  ("antenna_id", jsonOptionUuid config.antennaId),
                  ("amplifier_id", jsonOptionUuid config.amplifierId)] →
                Filled payload (.object (configurationDefaults config
                  (profileDefaults profile (ensureObject payload)))) key →
                (configurationDefaults config (profileDefaults profile (ensureObject payload))).get
                  key = some value := by
              intro key value hPair hFilled
              refine (get_configurationDefaults config _ hPair).resolve_right fun hKept => ?_
              have hKey : key ∈ ["station_configuration_id", "radio_id", "antenna_id",
                  "amplifier_id"] := List.mem_map_of_mem (f := Prod.fst) hPair
              exact hFilled (hKept.trans (hKeptFrom key hKey))
            exact ⟨config, hListed, hSame, hFill _ _ (by simp), hFill _ _ (by simp),
              hFill _ _ (by simp), hFill _ _ (by simp)⟩

/-- In every run of careful calls what is active agrees, and contacts that
name no other profile are stamped rightly. -/
theorem careful_calls_keep_active {labels : List StationCall}
    (run : Run carefulCalls {} labels book) :
    book.ActiveAgrees ∧ ∀ payload, book.NamesActive payload →
      book.StampedRightly payload (book.applyDefaultsToQsoPayload payload) :=
  ⟨(sound_of_run run).activeAgrees, fun _ => (sound_of_run run).stampedRightly⟩

end Stamp

/-! A portable profile is created active while a configuration of the home
profile is active. -/

def dawn : DateTime := Crates.epoch

def home : StationProfile where
  stationProfileId := 1
  stationCallsign := "KE8YGW"
  active := true
  createdAt := dawn
  updatedAt := dawn

def portable : StationProfile := { home with
  stationProfileId := 2
  stationCallsign := "KE8YGW/P" }

def homeRig : StationConfiguration where
  configurationId := 3
  stationProfileId := 1
  radioId := some 4

def setUp : List StationCall :=
  [.createProfile home dawn, .createConfiguration homeRig,
    .selectConfiguration 3 dawn]

theorem home_kept_active :
    (setUp.foldl perform {}).ActiveAgrees ∧ ∀ payload,
      @NamesActive Crates.uuidCrate (setUp.foldl perform {}) payload →
        @StampedRightly Crates.uuidCrate (setUp.foldl perform {}) payload
          (@applyDefaultsToQsoPayload Crates.uuidCrate (setUp.foldl perform {}) payload) := by
  refine @careful_calls_keep_active _ Crates.uuidCrate setUp ?_
  have hProfile : Careful {} (.createProfile home dawn) := ⟨by decide, fun _ => rfl⟩
  have hConfiguration : (perform {} (.createProfile home dawn)).Careful
      (.createConfiguration homeRig) := List.not_mem_nil
  have first : Run carefulCalls {} [.createProfile home dawn]
      (perform {} (.createProfile home dawn)) := Run.single ⟨hProfile, rfl⟩
  have second : Run carefulCalls {} [.createProfile home dawn, .createConfiguration homeRig]
      (perform (perform {} (.createProfile home dawn)) (.createConfiguration homeRig)) :=
    Run.snoc first ⟨hConfiguration, rfl⟩
  exact Run.snoc second ⟨trivial, rfl⟩

theorem home_rig_stamped_as_portable :
    ∃ labels book, Run calls {} labels book ∧ ¬ book.ActiveAgrees ∧
      ∃ payload, ¬ @StampedRightly Crates.uuidCrate book payload
        (@applyDefaultsToQsoPayload Crates.uuidCrate book payload) := by
  let book := (setUp ++ [StationCall.createProfile portable dawn]).foldl perform {}
  have hListed : book.configurations = [homeRig] := by decide +kernel
  have hActive : book.activeProfileId = some 2 := by decide +kernel
  refine ⟨_, book, run_calls {} _, fun h => ?_, .object [], fun h => ?_⟩
  · obtain ⟨config, hMem, _, hOwner⟩ := h.configuration 3 (by decide +kernel)
    obtain rfl := List.mem_singleton.mp (hListed ▸ hMem)
    rw [hActive] at hOwner
    exact absurd hOwner (by decide)
  · obtain ⟨hId, hRadio⟩ :
        (@applyDefaultsToQsoPayload Crates.uuidCrate book (.object [])).get
            "station_profile_id" = some (@jsonUuid Crates.uuidCrate 2) ∧
          (@applyDefaultsToQsoPayload Crates.uuidCrate book (.object [])).get "radio_id" =
            some (@jsonUuid Crates.uuidCrate 4) := by decide +kernel
    have hFilled : Filled (.object []) (@applyDefaultsToQsoPayload Crates.uuidCrate book
        (.object [])) "radio_id" := by
      unfold Filled
      rw [hRadio]
      exact fun hSame => by cases hSame
    have hChanged : @applyDefaultsToQsoPayload Crates.uuidCrate book (.object []) ≠
        .object [] := fun hSame => hFilled (congrArg (fun after => after.get "radio_id") hSame)
    obtain ⟨profile, _, hStamp, _, hEquipment⟩ :=
      @StampedRightly.belongs Crates.uuidCrate _ _ _ h hChanged
    obtain ⟨config, hMem, hOwner, _⟩ := hEquipment ⟨"radio_id", by simp, hFilled⟩
    obtain rfl := List.mem_singleton.mp (hListed ▸ hMem)
    rw [← hOwner] at hStamp
    have hSame := hId.symm.trans hStamp
    exact absurd hSame (by decide +kernel)

end StationBook
end HamLogger.Station
