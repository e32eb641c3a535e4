import Mathlib
import HamLogger.Core.LookupCache
import HamLogger.Core.ServiceSelection
import HamLogger.Library.SavedFile

/-! Callsign lookups through the service framework: a provider is selected from
the registry, and its answers are cached. Registry and cache are written to
files, and read again when the program starts. -/
namespace HamLogger

open Transition (System)

/-! ### Answers -/

/-- A result with the fields that no suggestion shows. Latitude and longitude
are 64-bit floats, kept as their bits. -/
structure LookupAnswer extends LookupResult where
  callsign : String
  latitude : Option (BitVec 64)
  longitude : Option (BitVec 64)
  licenseClass : Option String
  previousCallsigns : List String
  fetchedAt : DateTime
  rawMetadata : Option Value
  deriving DecidableEq

/-- How serde writes and reads an answer. -/
class LookupAnswerJson where
  toValue : LookupAnswer → Value
  fromValue : Value → Except String LookupAnswer

def ServiceType.debug : ServiceType → String
  | .callsignLookup => "CallsignLookup"
  | .entityLookup => "EntityLookup"
  | .gridLookup => "GridLookup"
  | .logUpload => "LogUpload"
  | .spotting => "Spotting"
  | .mapTiles => "MapTiles"
  | .geocoding => "Geocoding"
  | .weather => "Weather"
  | .propagation => "Propagation"
  | .awardData => "AwardData"
  | .aiTool => "AiTool"
  | .authentication => "Authentication"
  | .storage => "Storage"
  | .notification => "Notification"

def ServiceError.toString : ServiceError → String
  | .duplicateProviderId providerId => "duplicate provider id " ++ providerId
  | .providerNotFound providerId => "provider " ++ providerId ++ " not found"
  | .wrongServiceType providerId =>
      "provider " ++ providerId ++ " is registered for a different service type"
  | .noUsableProvider serviceType => "no usable provider for " ++ serviceType.debug

/-! ### One lookup -/

/-- A request and what the world answers during it: the provider, the event bus
and the clock. -/
structure FrameworkRequest where
  callsign : String
  deviceId : Uuid
  providerId : String
  provider : String → Except LookupError (Option LookupAnswer)
  publish : RuntimeEventEnvelope → Except String Unit
  correlationId : Uuid
  readAt : DateTime
  answeredAt : DateTime
  expiryFrom : DateTime
  storedAt : DateTime

/-- What a lookup asks of a provider: it resolves callsigns, and needs no
network. -/
def lookupCriteria : ProviderSelectionCriteria where
  serviceType := .callsignLookup
  requiredCapability := some capLookupCallsignBasic
  allowNetwork := false
  requireOffline := false

namespace FrameworkRequest

def publishServiceRuntimeEvent (request : FrameworkRequest) (eventType : String)
    (severity : RuntimeEventSeverity) (summary : String) (payload : Option Value) :
    Except LookupError Unit :=
  match request.publish (RuntimeEventEnvelope.new eventType severity "ham-core.services"
      (some "plugin.callsign-lookup") request.correlationId request.deviceId none summary payload
      none) with
  | .ok () => .ok ()
  | .error message => .error (.eventBus message)

/-- `publish_lookup_event`. -/
def publishLookupEvent (request : FrameworkRequest) (eventType : String)
    (severity : RuntimeEventSeverity) (summary : String) (payload : Option Value) :
    Except LookupError Unit :=
  match request.publish (RuntimeEventEnvelope.new eventType severity "plugin.callsign-lookup"
      (some "plugin.callsign-lookup") request.correlationId request.deviceId
      (some "casual-logger") summary payload none) with
  | .ok () => .ok ()
  | .error message => .error (.eventBus message)

/-- `LocalPrefixProvider.lookup_callsign`, with all fields. -/
def localAnswer (request : FrameworkRequest) (callsign : String) :
    Except LookupError (Option LookupAnswer) :=
  (LookupCache.localLookup callsign).map fun result => result.map fun result =>
    { result with
      callsign := callsign
      latitude := none
      longitude := none
      licenseClass := none
      previousCallsigns := []
      fetchedAt := request.answeredAt
      rawMetadata := none }

/-- The runtime has the caller's provider and the local one. -/
def askSelected (request : FrameworkRequest) (providerId normalized : String) :
    Except LookupError (Option LookupAnswer) :=
  if providerId = request.providerId then request.provider normalized
  else if providerId = localPrefixProviderMetadata.providerId then request.localAnswer normalized
  else .error (.provider ("selected lookup provider " ++ providerId ++
    " is not available in this runtime"))

/-- An answer that does not say when it expires is given an expiry, unless that
instant is out of range. -/
def withExpiry (ttlDays : Int) (request : FrameworkRequest) (answer : LookupAnswer) :
    Option LookupAnswer :=
  match answer.expiresAt with
  | some _ => some answer
  | none => (request.expiryFrom.addSeconds (ttlDays * 86400)).map fun expiresAt =>
      { answer with expiresAt := some expiresAt }

end FrameworkRequest

section Lookup
variable [FloatJson] [LookupAnswerJson]

/-- `cache_entry_for_value`, for an answer. -/
def cacheEntryForAnswer (ttlDays : Int) (providerId normalized : String) (storedAt : DateTime)
    (answer : LookupAnswer) : Option ServiceCacheEntry :=
  (storedAt.addSeconds (ttlDays * 86400)).map fun expiresAt =>
    { serviceType := .callsignLookup, providerId := providerId, cacheKey := normalized,
      fetchedAt := storedAt, expiresAt := some expiresAt, confidence := some answer.confidence,
      value := LookupAnswerJson.toValue answer,
      safeMetadata := some (.object [("cache", .string "service")]) }

namespace FrameworkRequest

/-- What a request starts with: its callsign, and the provider that is selected. -/
def beginLookup (request : FrameworkRequest) (registry : ServiceRegistry)
    (iteration : List RegisteredServiceProvider) :
    Except LookupError (String × RegisteredServiceProvider) := do
  let normalized ← LookupCache.normalizeCallsign request.callsign
  request.publishServiceRuntimeEvent "service.request.started" .info
    ("Callsign lookup service request started for " ++ normalized)
    (some (.object [("callsign", .string normalized),
      ("service_type", .string "callsign_lookup")]))
  let selected ← (registry.selectProvider iteration lookupCriteria).mapError fun error =>
    .provider error.toString
  if selected.metadata.providerId ≠ request.providerId then
    request.publishServiceRuntimeEvent "service.provider.fallback_used" .info
      "Lookup provider fallback selected"
      (some (.object [("requested_provider", .string request.providerId),
        ("selected_provider", .string selected.metadata.providerId)]))
  return (normalized, selected)

/-- The answer from the cache. -/
def serveHit (request : FrameworkRequest) (providerId normalized : String)
    (entry : ServiceCacheEntry) : Except LookupError (Option LookupSuggestion) := do
  request.publishServiceRuntimeEvent "service.request.cache_hit" .debug
    "Service cache hit for callsign lookup"
    (some (.object [("callsign", .string normalized), ("provider_id", .string providerId)]))
  let answer ← (LookupAnswerJson.fromValue entry.value).mapError .provider
  return some (LookupCache.suggestionFromResult answer.toLookupResult)

/-- What precedes the storing of an answer. -/
def fetch (request : FrameworkRequest) (providerId normalized : String) :
    Except LookupError (Option LookupAnswer) := do
  request.publishServiceRuntimeEvent "service.request.cache_miss" .debug
    "Service cache miss for callsign lookup"
    (some (.object [("callsign", .string normalized), ("provider_id", .string providerId)]))
  match ← request.askSelected providerId normalized with
  | some answer => return some answer
  | none =>
      request.publishServiceRuntimeEvent "service.request.failed" .warn
        "Callsign lookup service returned no result"
        (some (.object [("callsign", .string normalized), ("provider_id", .string providerId)]))
      return none

/-- What follows once an answer is stored. -/
def serveAnswer (request : FrameworkRequest) (providerId normalized : String)
    (answer : LookupAnswer) : Except LookupError (Option LookupSuggestion) := do
  request.publishServiceRuntimeEvent "service.request.completed" .info
    "Callsign lookup service completed"
    (some (.object [("callsign", .string normalized),
      ("confidence", FloatJson.fromF32 answer.confidence), ("provider_id", .string providerId)]))
  let suggestion := LookupCache.suggestionFromResult answer.toLookupResult
  request.publishLookupEvent "lookup.suggestion.created" .info
    "Lookup suggestion created through service framework"
    (some (LookupCache.LookupSuggestion.toValue suggestion))
  return some suggestion

end FrameworkRequest

def lookupCallsignWithServiceFramework (ttlDays : Int) (registry : ServiceRegistry)
    (iteration : List RegisteredServiceProvider) (cache : ServiceCache)
    (request : FrameworkRequest) :
    ServiceCache × Outcome LookupError (Option LookupSuggestion) :=
  match request.beginLookup registry iteration with
  | .error error => (cache, .error (.error error))
  | .ok (normalized, selected) =>
      let providerId := selected.metadata.providerId
      match cache.get .callsignLookup providerId normalized request.readAt with
      | some entry => (cache, Outcome.ofExcept (request.serveHit providerId normalized entry))
      | none =>
          match request.fetch providerId normalized with
          | .error error => (cache, .error (.error error))
          | .ok none => (cache, .ok none)
          | .ok (some answer) =>
              match request.withExpiry ttlDays answer with
              | none => (cache, .error .panic)
              | some answer =>
                  match cacheEntryForAnswer ttlDays providerId normalized request.storedAt
                      answer with
                  | none => (cache, .error .panic)
                  | some entry =>
                      (cache.put entry, Outcome.ofExcept (request.serveAnswer providerId
                        normalized answer))

/-! ### The client -/

/-- What the client keeps of the providers and of their answers. -/
structure ServiceDesk where
  registry : ServiceRegistry := {}
  registryFile : SavedFile ServiceRegistry := .absent
  cache : ServiceCache := ∅
  cacheFile : SavedFile (List ServiceCacheEntry) := .absent

inductive ServiceDeskStep where
  | update (providerId : String) (enabled : Option Bool) (priority : Option Int)
      (save : SaveOutcome)
  | lookup (ttlDays : Int) (request : FrameworkRequest)
      (iteration : List RegisteredServiceProvider) (save : SaveOutcome)
  | clear (serviceType : Option ServiceType) (save : SaveOutcome)
  | restart

namespace ServiceDesk

/-- `handle_service_provider_update`. An update that fails is not saved. -/
def update (desk : ServiceDesk) (providerId : String) (enabled : Option Bool)
    (priority : Option Int) (save : SaveOutcome) : ServiceDesk :=
  match enabled.elim (.ok desk.registry) (desk.registry.setEnabled providerId) with
  | .error _ => desk
  | .ok registry =>
      match priority.elim (.ok registry) (registry.setPriority providerId) with
      | .error _ => { desk with registry := registry }
      | .ok registry =>
          { desk with
            registry := registry
            registryFile := desk.registryFile.save registry save }

/-- The lookup of `handle_lookup_callsign`, and the saving of the cache after it. -/
def lookup (desk : ServiceDesk) (ttlDays : Int) (request : FrameworkRequest)
    (iteration : List RegisteredServiceProvider) (save : SaveOutcome) :
    ServiceDesk × Outcome LookupError (Option LookupSuggestion) :=
  let (cache, answer) :=
    lookupCallsignWithServiceFramework ttlDays desk.registry iteration desk.cache request
  match answer with
  | .ok suggestion =>
      ({ desk with
          cache := cache
          cacheFile := desk.cacheFile.save (KeyMap.values cache) save }, .ok suggestion)
  | .error error => ({ desk with cache := cache }, .error error)

/-- `handle_service_cache_clear`. -/
def clear (desk : ServiceDesk) (serviceType : Option ServiceType) (save : SaveOutcome) :
    ServiceDesk :=
  let cache := match serviceType with
    | some serviceType => desk.cache.clearService serviceType
    | none => ∅
  { desk with
    cache := cache
    cacheFile := desk.cacheFile.save (KeyMap.values cache) save }

/-- What the client loads when it starts. A file that is absent is a default
value, and only one that cannot be read gives the fallback. -/
def restart (fallback : ServiceRegistry) (desk : ServiceDesk) : ServiceDesk :=
  { desk with
    registry := desk.registryFile.load {} fallback
    cache := ServiceCache.replaceEntries (desk.cacheFile.load [] []) }

end ServiceDesk

/-- The fallback is the registry with the default providers. -/
def serviceDeskSystem (fallback : ServiceRegistry) : System ServiceDesk ServiceDeskStep where
  step desk label later := match label with
    | .update providerId enabled priority save =>
        later = desk.update providerId enabled priority save
    | .lookup ttlDays request iteration save =>
        iteration.Perm desk.registry.providers.values ∧
          later = (desk.lookup ttlDays request iteration save).1
    | .clear serviceType save => later = desk.clear serviceType save
    | .restart => later = desk.restart fallback

end Lookup

end HamLogger
