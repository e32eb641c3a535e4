import HamLogger.Core.PermissionGrants

/-! What becomes of one permission of one plugin: a refusal that was saved
outlives every later start, and nothing is granted without a reason. -/
namespace HamLogger

open Transition (Run System split_snoc)

/-! The defaults, seen at one permission. -/

/-- What the defaults make of the status of a permission they meet. -/
def defaultStatus (registry : PermissionRegistry) (settings : PermissionSettings)
    (manifest : TypedManifest) (permission : PluginCapability)
    (status : Option PermissionGrantStatus) : Option PermissionGrantStatus :=
  match registry.lookup permission with
  | none => status
  | some metadata =>
      if metadata.offered settings manifest && !status.any PermissionGrantStatus.isRefusal then
        some .granted
      else if status.isNone then some .pending
      else status

theorem status_grantDefault (registry : PermissionRegistry) (settings : PermissionSettings)
    (manifest : TypedManifest) (grants : PermissionGrantSet)
    (permission : PluginCapability) (pluginId : String) (permissionId : PluginCapability) :
    (grantDefault registry settings manifest grants permission).status pluginId permissionId =
      if pluginId = manifest.pluginId ∧ permissionId = permission then
        defaultStatus registry settings manifest permission
          (grants.status pluginId permissionId)
      else grants.status pluginId permissionId := by
  unfold grantDefault defaultStatus
  by_cases hSame : pluginId = manifest.pluginId ∧ permissionId = permission
  · obtain ⟨rfl, rfl⟩ := hSame
    cases registry.lookup permissionId with
    | none => simp
    | some metadata =>
        dsimp only
        split_ifs <;>
          simp_all [PermissionGrantSet.status_upsert, PermissionGrant.key,
            PermissionGrant.granted, PermissionGrant.pending]
  · have hKey : ∀ grant : PermissionGrant, grant.pluginId = manifest.pluginId →
        grant.permissionId = permission → (pluginId, permissionId) ≠ grant.key := by
      intro grant hPlugin hPermission h
      obtain ⟨hFirst, hSecond⟩ := Prod.mk.inj h
      exact hSame ⟨hFirst.trans hPlugin, hSecond.trans hPermission⟩
    rw [if_neg hSame]
    cases registry.lookup permission with
    | none => rfl
    | some metadata =>
        dsimp only
        split_ifs
        · rw [PermissionGrantSet.status_upsert, if_neg (hKey _ rfl rfl)]
        · rw [PermissionGrantSet.status_upsert, if_neg (hKey _ rfl rfl)]
        · rfl

/-- What holds of the status of a permission, and every default keeps, holds
after all defaults. -/
theorem status_grantBuiltinDefaults {P : Option PermissionGrantStatus → Prop}
    {manifests : List TypedManifest} {registry : PermissionRegistry}
    {settings : PermissionSettings} {grants : PermissionGrantSet} {pluginId : String}
    {permission : PluginCapability} (h : P (grants.status pluginId permission))
    (hStep : ∀ manifest ∈ manifests, manifest.pluginId = pluginId →
      permission ∈ manifest.requestedOrCapabilities →
      ∀ status, P status → P (defaultStatus registry settings manifest permission status)) :
    P ((grantBuiltinDefaults manifests registry settings grants).status pluginId permission) := by
  have hManifest : ∀ manifest ∈ manifests, ∀ requested : List PluginCapability,
      (∀ one ∈ requested, one ∈ manifest.requestedOrCapabilities) →
      ∀ grants : PermissionGrantSet, P (grants.status pluginId permission) →
        P ((requested.foldl (grantDefault registry settings manifest) grants).status
          pluginId permission) := by
    intro manifest hMem requested
    induction requested with
    | nil => exact fun _ _ hGrants => hGrants
    | cons first rest ih =>
        intro hRequested grants hGrants
        refine ih (fun one hOne => hRequested one (List.mem_cons_of_mem first hOne)) _ ?_
        rw [status_grantDefault]
        split_ifs with hSame
        · obtain ⟨rfl, rfl⟩ := hSame
          exact hStep manifest hMem rfl (hRequested permission List.mem_cons_self) _ hGrants
        · exact hGrants
  unfold grantBuiltinDefaults
  induction manifests generalizing grants with
  | nil => exact h
  | cons manifest rest ih =>
      refine ih ?_ (fun other hMem => hStep other (List.mem_cons_of_mem manifest hMem))
        (fun other hMem => hManifest other (List.mem_cons_of_mem manifest hMem))
      exact hManifest manifest List.mem_cons_self _ (fun _ hOne => hOne) grants h

theorem defaultStatus_refused {registry : PermissionRegistry} {settings : PermissionSettings}
    {manifest : TypedManifest} {permission : PluginCapability}
    {status : PermissionGrantStatus} (h : status.isRefusal = true) :
    defaultStatus registry settings manifest permission (some status) = some status := by
  unfold defaultStatus
  split
  · rfl
  · simp [h]

/-- A plugin of a start asks for the permission, and is offered it. -/
def OfferedBy (manifests : List TypedManifest) (registry : PermissionRegistry)
    (settings : PermissionSettings) (pluginId : String) (permission : PluginCapability) : Prop :=
  ∃ manifest ∈ manifests, manifest.pluginId = pluginId ∧
    permission ∈ manifest.requestedOrCapabilities ∧
    ∃ metadata, registry.lookup permission = some metadata ∧
      metadata.offered settings manifest = true

theorem defaultStatus_granted {registry : PermissionRegistry} {settings : PermissionSettings}
    {manifest : TypedManifest} {permission : PluginCapability}
    {status : Option PermissionGrantStatus}
    (h : defaultStatus registry settings manifest permission status = some .granted) :
    status = some .granted ∨ ∃ metadata, registry.lookup permission = some metadata ∧
      metadata.offered settings manifest = true := by
  unfold defaultStatus at h
  split at h
  · exact .inl h
  · rename_i metadata hFound
    split_ifs at h with hOffered hNone
    · rw [Bool.and_eq_true] at hOffered
      exact .inr ⟨metadata, hFound, hOffered.1⟩
    · cases h
    · exact .inl h

/-! Runs. -/

section Runs
variable {manifests : List TypedManifest} {registry : PermissionRegistry}
  {settings : PermissionSettings} {pluginId : String} {permission : PluginCapability}

/-- What holds of a permission in memory and in the file. -/
structure GrantDesk.Holds (P : Option PermissionGrantStatus → Prop) (pluginId : String)
    (permission : PluginCapability) (desk : GrantDesk) : Prop where
  memory : P (desk.grants.status pluginId permission)
  file : P (desk.file.loadOrDefault.status pluginId permission)

/-- A save keeps what holds of the grants and of the file before it. A file
that became unreadable counts as empty. -/
theorem GrantFile.save_holds {P : Option PermissionGrantStatus → Prop} {file : GrantFile}
    {grants : PermissionGrantSet} {save : SaveOutcome}
    (hFile : P (file.loadOrDefault.status pluginId permission))
    (hGrants : P (grants.status pluginId permission))
    (hMidway : save = .stopsMidway → P none) :
    P ((GrantFile.loadOrDefault (file.save grants save)).status pluginId permission) :=
  SavedFile.load_save (P := fun loaded : PermissionGrantSet => P (loaded.status pluginId
    permission)) hFile hGrants hMidway

/-- A refusal stays while nobody decides about it again and no write of the
file is cut short. -/
theorem refused_step {desk later : GrantDesk} {label : GrantStep}
    {status : PermissionGrantStatus} (hRefusal : status.isRefusal = true)
    (hDecides : ¬ label.Decides pluginId permission) (hSave : label.save ≠ .stopsMidway)
    (h : desk.Holds (· = some status) pluginId permission)
    (hStep : (grantSystem manifests registry settings).step desk label later) :
    later.Holds (· = some status) pluginId permission := by
  have hMidway : ∀ save, save ≠ SaveOutcome.stopsMidway → save = .stopsMidway →
      (none : Option PermissionGrantStatus) = some status := fun _ hNot hSame => absurd hSame hNot
  cases label with
  | action target other decided save =>
      have hLater : later = desk.act registry target other decided save := hStep
      rw [hLater, GrantDesk.act]
      cases hKnown : registry.lookup other with
      | none => exact h
      | some metadata =>
          have hOther : ¬ (pluginId = target ∧ permission = other) :=
            fun hSame => hDecides ⟨hSame.1.symm, hSame.2.symm⟩
          have hGrants : (desk.grants.setStatus target other decided).status pluginId permission =
              some status := by
            rw [PermissionGrantSet.status_setStatus, if_neg hOther]
            exact h.memory
          exact ⟨hGrants, GrantFile.save_holds (P := (· = some status)) h.file hGrants
            (hMidway save hSave)⟩
  | restart save =>
      have hLater : later = desk.start manifests registry settings save := hStep
      rw [hLater, GrantDesk.start]
      have hGrants : (grantBuiltinDefaults manifests registry settings
          desk.file.loadOrDefault).status pluginId permission = some status :=
        status_grantBuiltinDefaults (P := (· = some status)) h.file
          fun manifest _ _ _ other (hOther : other = some status) => by
            rw [hOther]
            exact defaultStatus_refused hRefusal
      exact ⟨hGrants, GrantFile.save_holds (P := (· = some status)) h.file hGrants
        (hMidway save hSave)⟩

theorem refused_decision {desk later : GrantDesk} {status : PermissionGrantStatus}
    (hKnown : registry.lookup permission ≠ none)
    (hStep : (grantSystem manifests registry settings).step desk
      (.action pluginId permission status .completes) later) :
    later.Holds (· = some status) pluginId permission := by
  obtain ⟨metadata, hFound⟩ := Option.ne_none_iff_exists'.mp hKnown
  have hLater : later = desk.act registry pluginId permission status .completes := hStep
  have hGrants : (desk.grants.setStatus pluginId permission status).status pluginId permission =
      some status := by
    rw [PermissionGrantSet.status_setStatus, if_pos ⟨rfl, rfl⟩]
  rw [hLater, GrantDesk.act, hFound]
  exact ⟨hGrants, hGrants⟩

/-- Once an operator refused a permission and the refusal was saved, the
plugin fails its check in every later state, whatever else is decided, however
often the program starts and whichever saves fail, until somebody decides about
the permission again or a write of the file is cut short. -/
theorem refusal_outlives_starts {start state : GrantDesk} {before after : List GrantStep}
    {status : PermissionGrantStatus}
    (run : Run (grantSystem manifests registry settings) start
      (before ++ .action pluginId permission status .completes :: after) state)
    (hKnown : registry.lookup permission ≠ none) (hRefusal : status.isRefusal = true)
    (hAfter : ∀ label ∈ after, ¬ label.Decides pluginId permission ∧ label.save ≠ .stopsMidway)
    (manifest : PluginManifest) (hManifest : manifest.pluginId = pluginId) :
    checkPluginPermission manifest state.grants permission =
      .error (.notGranted pluginId permission.asStr) := by
  have hHolds : state.Holds (· = some status) pluginId permission := by
    refine run.history (P := fun seen desk => ∀ later,
      seen = before ++ .action pluginId permission status .completes :: later →
      (∀ label ∈ later, ¬ label.Decides pluginId permission ∧ label.save ≠ .stopsMidway) →
        desk.Holds (· = some status) pluginId permission) ?_ ?_ after rfl hAfter
    · intro later hLabels
      simp at hLabels
    · intro seen desk label next hBefore hStep later hLabels hLater
      rcases split_snoc hLabels with ⟨rfl, rfl, rfl⟩ | ⟨middle, rfl, rfl⟩
      · exact refused_decision hKnown hStep
      · refine refused_step hRefusal (hLater label (by simp)).1 (hLater label (by simp)).2
          (hBefore middle rfl fun other hMem => hLater other ?_) hStep
        exact List.mem_append_left _ hMem
  have hDenied : state.grants.isGranted manifest.pluginId permission = false := by
    rw [PermissionGrantSet.isGranted, hManifest, hHolds.memory]
    cases status <;> first | rfl | cases hRefusal
  unfold checkPluginPermission
  rw [hDenied, hManifest]
  split <;> rfl

/-- A permission was granted by an operator, or is offered by the defaults. -/
def HasReason (manifests : List TypedManifest) (registry : PermissionRegistry)
    (settings : PermissionSettings) (pluginId : String) (permission : PluginCapability)
    (labels : List GrantStep) : Prop :=
  (∃ save, .action pluginId permission .granted save ∈ labels) ∨
    OfferedBy manifests registry settings pluginId permission

theorem HasReason.later {labels : List GrantStep}
    (h : HasReason manifests registry settings pluginId permission labels) (label : GrantStep) :
    HasReason manifests registry settings pluginId permission (labels ++ [label]) := by
  rcases h with ⟨save, hMem⟩ | hOffered
  · exact .inl ⟨save, List.mem_append_left _ hMem⟩
  · exact .inr hOffered

/-- A step grants nothing without a reason, in memory or in the file. -/
theorem reasoned_step {labels : List GrantStep} {desk later : GrantDesk} {label : GrantStep}
    (h : desk.Holds (fun status => status = some .granted →
      HasReason manifests registry settings pluginId permission labels) pluginId permission)
    (hStep : (grantSystem manifests registry settings).step desk label later) :
    later.Holds (fun status => status = some .granted →
      HasReason manifests registry settings pluginId permission (labels ++ [label]))
      pluginId permission := by
  have hMemory := fun hGranted => (h.memory hGranted).later label
  have hFile := fun hGranted => (h.file hGranted).later label
  cases label with
  | action target other decided save =>
      have hLater : later = desk.act registry target other decided save := hStep
      rw [hLater, GrantDesk.act]
      cases registry.lookup other with
      | none => exact ⟨hMemory, hFile⟩
      | some metadata =>
          have hGrants : (desk.grants.setStatus target other decided).status pluginId permission =
              some .granted → HasReason manifests registry settings pluginId permission
                (labels ++ [.action target other decided save]) := by
            rw [PermissionGrantSet.status_setStatus]
            split_ifs with hSame
            · obtain ⟨rfl, rfl⟩ := hSame
              intro hDecided
              obtain rfl := Option.some.inj hDecided
              exact .inl ⟨save, by simp⟩
            · exact hMemory
          exact ⟨hGrants, GrantFile.save_holds (P := fun status => status = some .granted → _)
            hFile hGrants fun _ hNone => by cases hNone⟩
  | restart save =>
      have hLater : later = desk.start manifests registry settings save := hStep
      rw [hLater, GrantDesk.start]
      have hGrants : (grantBuiltinDefaults manifests registry settings
          desk.file.loadOrDefault).status pluginId permission = some .granted →
            HasReason manifests registry settings pluginId permission
              (labels ++ [.restart save]) := by
        refine status_grantBuiltinDefaults (P := fun status => status = some .granted → _) hFile
          fun manifest hMem hPlugin hRequested status hStatus hResult => ?_
        rcases defaultStatus_granted hResult with hBefore | ⟨metadata, hFound, hOffered⟩
        · exact hStatus hBefore
        · exact .inr ⟨manifest, hMem, hPlugin, hRequested, metadata, hFound, hOffered⟩
      exact ⟨hGrants, GrantFile.save_holds (P := fun status => status = some .granted → _)
        hFile hGrants fun _ hNone => by cases hNone⟩

/-- From a new installation on, a plugin passes a check only where an operator
granted the permission at some time, or the plugin is built in and the defaults
offer it the permission. -/
theorem granted_only_with_reason {state : GrantDesk} {labels : List GrantStep}
    (run : Run (grantSystem manifests registry settings) {} labels state)
    (manifest : PluginManifest) (hManifest : manifest.pluginId = pluginId)
    (h : checkPluginPermission manifest state.grants permission = .ok ()) :
    HasReason manifests registry settings pluginId permission labels := by
  have hHolds : state.Holds (fun status => status = some .granted →
      HasReason manifests registry settings pluginId permission labels) pluginId permission :=
    run.history (P := fun seen desk => desk.Holds (fun status => status = some .granted →
      HasReason manifests registry settings pluginId permission seen) pluginId permission)
      ⟨fun hNone => (by cases hNone), fun hNone => (by cases hNone)⟩
      fun seen desk label next hBefore hStep => reasoned_step hBefore hStep
  unfold checkPluginPermission at h
  split_ifs at h with hCapability hGranted
  refine hHolds.memory ?_
  rw [← hManifest]
  exact of_decide_eq_true hGranted

end Runs

/-! A built-in plugin that looks callsigns up. -/

def lookupManifest : TypedManifest where
  pluginId := "core.lookup"
  requestedPermissions := [.lookupCallsign]
  capabilities := []
  pluginType := "builtin"

def lookupRegistry : PermissionRegistry :=
  AList.singleton PluginCapability.lookupCallsign
    { riskLevel := .low, defaultAllowedForBuiltinPlugins := true }

theorem lookup_lookupRegistry :
    lookupRegistry.lookup .lookupCallsign =
      some { riskLevel := .low, defaultAllowedForBuiltinPlugins := true } :=
  List.dlookup_cons_eq _ _ _

/-- Revoked, and started again. -/
theorem refusal_outlives_starts_lookup :
    let revoked := GrantDesk.act lookupRegistry {} "core.lookup" .lookupCallsign .revoked .completes
    let state := revoked.start [lookupManifest] lookupRegistry {} .completes
    checkPluginPermission lookupManifest.toPluginManifest state.grants .lookupCallsign =
      .error (.notGranted "core.lookup" PluginCapability.lookupCallsign.asStr) := by
  intro revoked state
  have hRun : Run (grantSystem [lookupManifest] lookupRegistry {}) {}
      ([] ++ .action "core.lookup" .lookupCallsign .revoked .completes ::
        [.restart .completes]) state :=
    Run.snoc (Run.single rfl) rfl
  have hKnown : lookupRegistry.lookup .lookupCallsign ≠ none := by
    simp [lookup_lookupRegistry]
  refine refusal_outlives_starts hRun hKnown rfl ?_ lookupManifest.toPluginManifest rfl
  intro label hMem
  rw [List.mem_singleton.mp hMem]
  exact ⟨id, by decide⟩

/-- The first start grants the plugin what the defaults offer. -/
theorem granted_only_with_reason_lookup :
    HasReason [lookupManifest] lookupRegistry {} "core.lookup" .lookupCallsign
      [.restart .completes] := by
  let state := GrantDesk.start [lookupManifest] lookupRegistry {} {} .completes
  have hRun : Run (grantSystem [lookupManifest] lookupRegistry {}) {} [.restart .completes]
      state := Run.single rfl
  have hCheck : checkPluginPermission lookupManifest.toPluginManifest state.grants
      .lookupCallsign = .ok () := by decide
  exact granted_only_with_reason hRun lookupManifest.toPluginManifest rfl hCheck

end HamLogger
