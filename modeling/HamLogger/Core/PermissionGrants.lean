import HamLogger.Core.Permissions
import HamLogger.Library.KeyMap
import HamLogger.Library.SavedFile
import HamLogger.Library.Transition
import HamLogger.Library.UpdateFirst

/-! The grants of an installation over its whole life: an operator grants and
refuses permissions, and every start offers the defaults of the built-in
plugins again. The grants are kept in memory and written to a file. -/
namespace HamLogger

open Transition (Run System)

inductive PermissionRiskLevel where
  | low | medium | high | critical
  deriving DecidableEq

/-- What the defaults read of a permission. -/
structure PermissionMetadata where
  riskLevel : PermissionRiskLevel
  defaultAllowedForBuiltinPlugins : Bool
  deriving DecidableEq

abbrev PermissionRegistry := KeyMap PluginCapability PermissionMetadata

structure PermissionSettings where
  autoGrantBuiltinLowRiskPermissions : Bool := true
  deriving DecidableEq

/-- A manifest with the type of its plugin. -/
structure TypedManifest extends PluginManifest where
  pluginType : String
  deriving DecidableEq

def TypedManifest.isBuiltin (manifest : TypedManifest) : Bool :=
  manifest.pluginType = "builtin" || "core.".toList.isPrefixOf manifest.pluginId.toList

def PermissionGrant.pending (pluginId : String) (permissionId : PluginCapability) :
    PermissionGrant where
  pluginId := pluginId
  permissionId := permissionId
  status := .pending

def PermissionGrantStatus.isRefusal : PermissionGrantStatus → Bool
  | .denied | .revoked => true
  | .granted | .pending => false

/-! One grant set. -/

/-- What a grant is about. -/
def PermissionGrant.key (grant : PermissionGrant) : String × PluginCapability :=
  (grant.pluginId, grant.permissionId)

namespace PermissionGrantSet

/-- The first grant about the same permission is replaced. -/
def upsert (grants : PermissionGrantSet) (grant : PermissionGrant) : PermissionGrantSet where
  grants := match grants.grants.find? fun existing => existing.key = grant.key with
    | some _ => updateFirst (fun existing => existing.key = grant.key) (fun _ => grant)
        grants.grants
    | none => grants.grants ++ [grant]

def setStatus (grants : PermissionGrantSet) (pluginId : String) (permissionId : PluginCapability)
    (status : PermissionGrantStatus) : PermissionGrantSet :=
  grants.upsert { pluginId := pluginId, permissionId := permissionId, status := status }

theorem status_eq (grants : PermissionGrantSet) (pluginId : String)
    (permissionId : PluginCapability) :
    grants.status pluginId permissionId =
      (grants.grants.find? fun grant => grant.key = (pluginId, permissionId)).map
        PermissionGrant.status := by
  rw [status]
  congr 2
  funext grant
  exact decide_eq_decide.mpr Prod.mk_inj.symm

theorem status_upsert (grants : PermissionGrantSet) (grant : PermissionGrant) (pluginId : String)
    (permissionId : PluginCapability) :
    (grants.upsert grant).status pluginId permissionId =
      if (pluginId, permissionId) = grant.key then some grant.status
      else grants.status pluginId permissionId := by
  rw [status_eq, status_eq, upsert]
  cases hFound : grants.grants.find? fun existing => existing.key = grant.key with
  | some existing =>
      dsimp only
      rw [find?_updateFirst PermissionGrant.key rfl, hFound]
      split_ifs <;> rfl
  | none =>
      dsimp only
      rw [List.find?_append]
      by_cases hSame : (pluginId, permissionId) = grant.key
      · simp [hSame, hFound]
      · have hOther : ¬ grant.key = (pluginId, permissionId) := fun h => hSame h.symm
        simp [hSame, hOther]

@[simp] theorem status_setStatus (grants : PermissionGrantSet) (target pluginId : String)
    (permission permissionId : PluginCapability) (status : PermissionGrantStatus) :
    (grants.setStatus target permission status).status pluginId permissionId =
      if pluginId = target ∧ permissionId = permission then some status
      else grants.status pluginId permissionId := by
  rw [setStatus, status_upsert]
  simp [PermissionGrant.key]

end PermissionGrantSet

/-! The defaults. -/

/-- The permission may be granted to the plugin without asking. -/
def PermissionMetadata.offered (metadata : PermissionMetadata) (settings : PermissionSettings)
    (manifest : TypedManifest) : Bool :=
  settings.autoGrantBuiltinLowRiskPermissions && manifest.isBuiltin &&
    metadata.defaultAllowedForBuiltinPlugins &&
    (metadata.riskLevel = .low || metadata.riskLevel = .medium)

def grantDefault (registry : PermissionRegistry) (settings : PermissionSettings)
    (manifest : TypedManifest) (grants : PermissionGrantSet) (permission : PluginCapability) :
    PermissionGrantSet :=
  let existingStatus := grants.status manifest.pluginId permission
  match registry.lookup permission with
  | none => grants
  | some metadata =>
      if metadata.offered settings manifest &&
          !existingStatus.any PermissionGrantStatus.isRefusal then
        grants.upsert (PermissionGrant.granted manifest.pluginId permission)
      else if existingStatus.isNone then
        grants.upsert (PermissionGrant.pending manifest.pluginId permission)
      else grants

def grantBuiltinDefaults (manifests : List TypedManifest) (registry : PermissionRegistry)
    (settings : PermissionSettings) (grants : PermissionGrantSet) : PermissionGrantSet :=
  manifests.foldl (fun grants manifest =>
    manifest.requestedOrCapabilities.foldl (grantDefault registry settings manifest) grants) grants

/-! The installation. -/

/-- The file of the grants. -/
abbrev GrantFile := SavedFile PermissionGrantSet

/-- `JsonPermissionGrantStore.load`, with the default where it fails. -/
def GrantFile.loadOrDefault (file : GrantFile) : PermissionGrantSet :=
  file.load { grants := [] } { grants := [] }

structure GrantDesk where
  grants : PermissionGrantSet := { grants := [] }
  file : GrantFile := .absent

inductive GrantStep where
  | action (pluginId : String) (permission : PluginCapability) (status : PermissionGrantStatus)
      (save : SaveOutcome)
  | restart (save : SaveOutcome)

namespace GrantStep

def save : GrantStep → SaveOutcome
  | .action _ _ _ save => save
  | .restart save => save

/-- The operator decides about this permission of this plugin. -/
def Decides (pluginId : String) (permission : PluginCapability) : GrantStep → Prop
  | .action target other _ _ => target = pluginId ∧ other = permission
  | .restart _ => False

end GrantStep

namespace GrantDesk

/-- `handle_plugin_permission_action`: a permission that the registry does not
know is rejected. The grants in memory change also where the file does not. -/
def act (registry : PermissionRegistry) (desk : GrantDesk) (pluginId : String)
    (permission : PluginCapability) (status : PermissionGrantStatus) (save : SaveOutcome) :
    GrantDesk :=
  match registry.lookup permission with
  | none => desk
  | some _ =>
      let grants := desk.grants.setStatus pluginId permission status
      { grants := grants, file := desk.file.save grants save }

/-- What the program does with the grants when it starts. -/
def start (manifests : List TypedManifest) (registry : PermissionRegistry)
    (settings : PermissionSettings) (desk : GrantDesk) (save : SaveOutcome) : GrantDesk :=
  let grants := grantBuiltinDefaults manifests registry settings desk.file.loadOrDefault
  { grants := grants, file := desk.file.save grants save }

end GrantDesk

def grantSystem (manifests : List TypedManifest) (registry : PermissionRegistry)
    (settings : PermissionSettings) : System GrantDesk GrantStep where
  step desk label later := later = match label with
    | .action pluginId permission status save => desk.act registry pluginId permission status save
    | .restart save => desk.start manifests registry settings save

end HamLogger
