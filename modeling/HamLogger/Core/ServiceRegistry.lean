import Mathlib
import HamLogger.Core.Permissions
import HamLogger.Core.ServiceCache
import HamLogger.Library.SortedChoice
import HamLogger.Library.Transition

/-! The registry of service providers, and which of them serves a request. -/
namespace HamLogger

open Transition (Run System)

inductive ProviderHealthState where
  | healthy | degraded | unavailable | missingConfig
  deriving DecidableEq

def ProviderHealthState.isUsable : ProviderHealthState → Bool
  | .healthy | .degraded => true
  | .unavailable | .missingConfig => false

structure ProviderHealth where
  providerId : String
  state : ProviderHealthState
  message : String
  checkedAt : DateTime
  rateLimited : Bool
  deriving DecidableEq

def ProviderHealth.healthy (providerId message : String) (now : DateTime) : ProviderHealth where
  providerId := providerId
  state := .healthy
  message := message
  checkedAt := now
  rateLimited := false

/-- What the registry reads of a provider. -/
structure ServiceProviderMetadata where
  providerId : String
  serviceType : ServiceType
  displayName : String
  capabilities : List String
  requiredPermissions : List PluginCapability
  priority : Int
  supportsOffline : Bool
  requiresNetworkAccess : Bool
  deriving DecidableEq

def ServiceProviderMetadata.requiresCapability (metadata : ServiceProviderMetadata)
    (capability : Option String) : Bool :=
  capability.all fun capability => metadata.capabilities.any fun held => held = capability

structure RegisteredServiceProvider where
  metadata : ServiceProviderMetadata
  enabled : Bool
  health : ProviderHealth
  lastSuccessAt : Option DateTime
  lastError : Option String
  deriving DecidableEq

def RegisteredServiceProvider.new (metadata : ServiceProviderMetadata) (now : DateTime) :
    RegisteredServiceProvider where
  metadata := metadata
  enabled := true
  health := ProviderHealth.healthy metadata.providerId "Provider registered" now
  lastSuccessAt := none
  lastError := none

structure ProviderSelectionCriteria where
  serviceType : ServiceType
  requiredCapability : Option String := none
  allowNetwork : Bool := true
  requireOffline : Bool := false
  deriving DecidableEq

inductive ServiceError where
  | duplicateProviderId (providerId : String)
  | providerNotFound (providerId : String)
  | wrongServiceType (providerId : String)
  | noUsableProvider (serviceType : ServiceType)
  deriving DecidableEq

structure ServiceRegistry where
  providers : KeyMap String RegisteredServiceProvider := ∅
  preferredProviders : KeyMap ServiceType String := ∅

namespace ServiceRegistry

def registerProvider (registry : ServiceRegistry) (metadata : ServiceProviderMetadata)
    (now : DateTime) : Except ServiceError ServiceRegistry :=
  match registry.providers.lookup metadata.providerId with
  | some _ => .error (.duplicateProviderId metadata.providerId)
  | none => .ok { registry with
      providers := registry.providers.insert metadata.providerId
        (RegisteredServiceProvider.new metadata now) }

/-- Change a provider that is registered. -/
def change (registry : ServiceRegistry) (providerId : String)
    (update : RegisteredServiceProvider → RegisteredServiceProvider) :
    Except ServiceError ServiceRegistry :=
  match registry.providers.lookup providerId with
  | none => .error (.providerNotFound providerId)
  | some provider =>
      .ok { registry with providers := registry.providers.insert providerId (update provider) }

def setEnabled (registry : ServiceRegistry) (providerId : String) (enabled : Bool) :
    Except ServiceError ServiceRegistry :=
  registry.change providerId fun provider => { provider with enabled := enabled }

def setPriority (registry : ServiceRegistry) (providerId : String) (priority : Int) :
    Except ServiceError ServiceRegistry :=
  registry.change providerId fun provider =>
    { provider with metadata := { provider.metadata with priority := priority } }

def setHealth (registry : ServiceRegistry) (providerId : String) (health : ProviderHealth) :
    Except ServiceError ServiceRegistry :=
  registry.change providerId fun provider => { provider with health := health }

def recordSuccess (registry : ServiceRegistry) (providerId : String) (now : DateTime) :
    Except ServiceError ServiceRegistry :=
  registry.change providerId fun provider =>
    { provider with lastSuccessAt := some now, lastError := none }

def recordError (registry : ServiceRegistry) (providerId error : String) :
    Except ServiceError ServiceRegistry :=
  registry.change providerId fun provider => { provider with lastError := some error }

def setPreferredProvider (registry : ServiceRegistry) (serviceType : ServiceType)
    (providerId : String) : Except ServiceError ServiceRegistry :=
  match registry.providers.lookup providerId with
  | none => .error (.providerNotFound providerId)
  | some provider =>
      if provider.metadata.serviceType ≠ serviceType then .error (.wrongServiceType providerId)
      else .ok { registry with
        preferredProviders := registry.preferredProviders.insert serviceType providerId }

end ServiceRegistry

/-! Selection. -/

/-- Higher priorities first, then by display name. -/
def sortsBefore (first second : RegisteredServiceProvider) : Bool :=
  decide (second.metadata.priority < first.metadata.priority) ||
    (decide (first.metadata.priority = second.metadata.priority) &&
      decide (first.metadata.displayName ≤ second.metadata.displayName))

/-- A provider that can serve a request. -/
def ProviderSelectionCriteria.accepts (criteria : ProviderSelectionCriteria)
    (provider : RegisteredServiceProvider) : Bool :=
  provider.enabled && provider.health.state.isUsable &&
    provider.metadata.requiresCapability criteria.requiredCapability &&
    (criteria.allowNetwork || !provider.metadata.requiresNetworkAccess) &&
    (!criteria.requireOffline || provider.metadata.supportsOffline)

namespace ServiceRegistry

/-- The iteration is the order in which the map hands out its values. -/
def providersFor (iteration : List RegisteredServiceProvider) (serviceType : ServiceType) :
    List RegisteredServiceProvider :=
  (iteration.filter fun provider => provider.metadata.serviceType = serviceType).mergeSort
    sortsBefore

def selectProvider (registry : ServiceRegistry) (iteration : List RegisteredServiceProvider)
    (criteria : ProviderSelectionCriteria) : Except ServiceError RegisteredServiceProvider :=
  let candidates := (providersFor iteration criteria.serviceType).filter criteria.accepts
  let preferred := (registry.preferredProviders.lookup criteria.serviceType).bind fun preferredId =>
    candidates.find? fun provider => provider.metadata.providerId = preferredId
  match preferred, SortedChoice.first sortsBefore candidates with
  | some provider, _ => .ok provider
  | none, some provider => .ok provider
  | none, none => .error (.noUsableProvider criteria.serviceType)

end ServiceRegistry

/-! The providers that answer without the network. -/

def capLookupCallsignBasic : String := "lookup.callsign.basic"
def capLookupCallsignFull : String := "lookup.callsign.full"
def capLookupEntityPrefix : String := "lookup.entity.prefix"
def capLookupGridValidate : String := "lookup.grid.validate"

def localPrefixProviderMetadata : ServiceProviderMetadata where
  providerId := "local-prefix"
  serviceType := .callsignLookup
  displayName := "Local Prefix Resolver"
  capabilities := [capLookupCallsignBasic, capLookupEntityPrefix, capLookupGridValidate]
  requiredPermissions := [.lookupCallsign, .lookupEntity, .lookupGrid, .serviceCacheRead,
    .serviceCacheWrite]
  priority := 100
  supportsOffline := true
  requiresNetworkAccess := false

def mockLookupProviderMetadata : ServiceProviderMetadata where
  providerId := "mock"
  serviceType := .callsignLookup
  displayName := "Mock Lookup Provider"
  capabilities := [capLookupCallsignFull]
  requiredPermissions := [.lookupCallsign]
  priority := 50
  supportsOffline := true
  requiresNetworkAccess := false

/-! Runs. -/

inductive RegistryStep where
  | registerProvider (metadata : ServiceProviderMetadata) (now : DateTime)
  | setEnabled (providerId : String) (enabled : Bool)
  | setPriority (providerId : String) (priority : Int)
  | setHealth (providerId : String) (health : ProviderHealth)
  | recordSuccess (providerId : String) (now : DateTime)
  | recordError (providerId error : String)
  | setPreferredProvider (serviceType : ServiceType) (providerId : String)

def RegistryStep.apply (registry : ServiceRegistry) :
    RegistryStep → Except ServiceError ServiceRegistry
  | .registerProvider metadata now => registry.registerProvider metadata now
  | .setEnabled providerId enabled => registry.setEnabled providerId enabled
  | .setPriority providerId priority => registry.setPriority providerId priority
  | .setHealth providerId health => registry.setHealth providerId health
  | .recordSuccess providerId now => registry.recordSuccess providerId now
  | .recordError providerId error => registry.recordError providerId error
  | .setPreferredProvider serviceType providerId =>
      registry.setPreferredProvider serviceType providerId

/-- A call that fails leaves the registry as it was. -/
def registrySystem : System ServiceRegistry RegistryStep where
  step registry label later := later = (label.apply registry).toOption.getD registry

end HamLogger
