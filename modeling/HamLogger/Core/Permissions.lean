import HamLogger.Core.PluginSdk

/-! Grants of permissions to plugins, as far as a permission check reads them. -/
namespace HamLogger

inductive PermissionGrantStatus where
  | granted | denied | pending | revoked
  deriving DecidableEq

structure PermissionGrant where
  pluginId : String
  permissionId : PluginCapability
  status : PermissionGrantStatus
  deriving DecidableEq

def PermissionGrant.granted (pluginId : String) (permissionId : PluginCapability) :
    PermissionGrant where
  pluginId := pluginId
  permissionId := permissionId
  status := .granted

structure PermissionGrantSet where
  grants : List PermissionGrant
  deriving DecidableEq

namespace PermissionGrantSet

def grantsForManifest (manifest : PluginManifest) : PermissionGrantSet where
  grants := manifest.requestedOrCapabilities.map (PermissionGrant.granted manifest.pluginId)

def status (grants : PermissionGrantSet) (pluginId : String) (permissionId : PluginCapability) :
    Option PermissionGrantStatus :=
  (grants.grants.find? fun grant =>
    grant.pluginId = pluginId ∧ grant.permissionId = permissionId).map PermissionGrant.status

def isGranted (grants : PermissionGrantSet) (pluginId : String)
    (permissionId : PluginCapability) : Bool :=
  grants.status pluginId permissionId = some .granted

end PermissionGrantSet

/-- The error of a permission check. -/
inductive PermissionError where
  | notGranted (pluginId permission : String)
  deriving DecidableEq

def PermissionError.toString : PermissionError → String
  | .notGranted pluginId permission =>
      "permission " ++ permission ++ " is not granted for plugin " ++ pluginId

def checkPluginPermission (manifest : PluginManifest) (grants : PermissionGrantSet)
    (permission : PluginCapability) : Except PermissionError Unit :=
  if manifest.hasCapability permission = false then
    .error (.notGranted manifest.pluginId permission.asStr)
  else if grants.isGranted manifest.pluginId permission then .ok ()
  else .error (.notGranted manifest.pluginId permission.asStr)

end HamLogger
