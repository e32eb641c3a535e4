import HamLogger.Core.Bus
import HamLogger.Core.Crates
import HamLogger.Core.ServiceCache
import HamLogger.Core.TextForms

/-! Lookups of callsigns, with the cache of their results. A result is kept
under the callsign that it names itself. -/
namespace HamLogger

/-- The fields of a result that a suggestion shows, and its expiry. The
confidence is a 32-bit float, kept as its bits. -/
structure LookupResult where
  normalizedCallsign : String
  name : Option String
  qth : Option String
  country : Option String
  dxcc : Option UInt16
  cqZone : Option UInt8
  ituZone : Option UInt8
  grid : Option String
  sourceProvider : String
  expiresAt : Option DateTime
  confidence : BitVec 32
  deriving DecidableEq

structure LookupSuggestion where
  normalizedCallsign : String
  provider : String
  confidence : BitVec 32
  suggestedFields : Value
  deriving DecidableEq

inductive LookupError where
  | invalidCallsign
  | provider (message : String)
  | eventBus (message : String)
  deriving DecidableEq

structure EntityInfo where
  country : String
  dxcc : Option UInt16
  cqZone : Option UInt8
  ituZone : Option UInt8
  sourceProvider : String
  confidence : BitVec 32

/-- The JSON value of a 32-bit float, which serde_json makes. -/
class FloatJson where
  fromF32 : BitVec 32 → Value

namespace LookupCache

def normalizeCallsign (callsign : String) : Except LookupError String :=
  let normalized := String.ofList
    ((toAsciiUppercase (trim callsign)).toList.filter fun c => !isWhitespace c)
  if normalized.utf8ByteSize < 3 ∨ normalized.toList.any Char.isDigit = false ∨
      normalized.toList.all (fun c => c.isAlphanum || c = '/') = false then
    .error .invalidCallsign
  else .ok normalized

/-! ### The fallback -/

def startsWith (text start : String) : Bool := start.toList.isPrefixOf text.toList

/-- `LocalPrefixProvider.lookup_entity`; the confidences are 0.72, 0.70 and 0.66. -/
def lookupEntity (callsignOrPrefix : String) : Option EntityInfo :=
  let value := toAsciiUppercase callsignOrPrefix
  let entity : Option (String × UInt16 × UInt8 × UInt8 × BitVec 32) :=
    if startsWith value "K" || startsWith value "N" || startsWith value "W" ||
        startsWith value "AA" || startsWith value "AB" then
      some ("United States", 291, 5, 8, 0x3f3851ec)
    else if startsWith value "VE" || startsWith value "VA" then
      some ("Canada", 1, 4, 9, 0x3f333333)
    else if startsWith value "G" || startsWith value "M" then
      some ("England", 223, 14, 27, 0x3f28f5c3)
    else if startsWith value "JA" then some ("Japan", 339, 25, 45, 0x3f333333)
    else if startsWith value "DL" then some ("Germany", 230, 14, 28, 0x3f333333)
    else none
  entity.map fun (country, dxcc, cq, itu, confidence) =>
    { country, dxcc := some dxcc, cqZone := some cq, ituZone := some itu,
      sourceProvider := "local-prefix", confidence }

/-- `LocalPrefixProvider.lookup_callsign`. -/
def localLookup (callsign : String) : Except LookupError (Option LookupResult) :=
  match normalizeCallsign callsign with
  | .error error => .error error
  | .ok normalized => .ok ((lookupEntity normalized).map fun entity =>
      { normalizedCallsign := normalized, name := none, qth := none,
        country := some entity.country, dxcc := entity.dxcc, cqZone := entity.cqZone,
        ituZone := entity.ituZone, grid := none, sourceProvider := "local-prefix",
        expiresAt := none, confidence := entity.confidence })

/-! ### Normalized callsigns -/

/-- A normalized callsign is normalized already. -/
theorem normalizeCallsign_idem {callsign normalized : String}
    (h : normalizeCallsign callsign = .ok normalized) :
    normalizeCallsign normalized = .ok normalized := by
  have hParts := h
  unfold normalizeCallsign at hParts
  dsimp only at hParts
  split at hParts
  · cases hParts
  · rename_i hValid
    have hText := Except.ok.inj hParts
    have hChars : ∀ c ∈ normalized.toList, isWhitespace c = false ∧ c.toUpper = c := by
      intro c hMem
      rw [← hText, String.toList_ofList, List.mem_filter, toAsciiUppercase,
        String.toList_ofList] at hMem
      obtain ⟨original, _, rfl⟩ := List.mem_map.mp hMem.1
      exact ⟨by simpa using hMem.2, Char.toUpper_idem original⟩
    have hTrim := trim_eq_self fun c hMem => (hChars c hMem).1
    have hUpper : toAsciiUppercase normalized = normalized := by
      unfold toAsciiUppercase
      rw [List.map_congr_left fun c hMem => (hChars c hMem).2, List.map_id', String.ofList_toList]
    have hFilter : normalized.toList.filter (fun c => !isWhitespace c) = normalized.toList :=
      List.filter_eq_self.mpr fun c hMem => by simp [(hChars c hMem).1]
    rw [hText] at hValid
    unfold normalizeCallsign
    rw [hTrim, hUpper, hFilter, String.ofList_toList]
    exact if_neg hValid

theorem localLookup_names {normalized : String} {result : LookupResult}
    (hNormalized : normalizeCallsign normalized = .ok normalized)
    (h : localLookup normalized = .ok (some result)) :
    result.normalizedCallsign = normalized := by
  unfold localLookup at h
  rw [hNormalized] at h
  obtain ⟨entity, _, rfl⟩ := Option.map_eq_some_iff.mp (Except.ok.inj h)
  rfl

/-! ### Calls and what is answered to them -/

/-- What the world answers during one call: the provider, the event bus, and
the clock when the cache is read and when a result is stored. -/
structure Surroundings where
  deviceId : Uuid
  provider : String → Except LookupError (Option LookupResult)
  publish : RuntimeEventEnvelope → Except String Unit
  correlationId : Uuid
  readAt : DateTime
  storedAt : DateTime

/-- The provider's answer, or else that of the fallback. -/
def askProviders (world : Surroundings) (normalized : String) :
    Except LookupError (Option LookupResult) :=
  match world.provider normalized with
  | .error error => .error error
  | .ok (some result) => .ok (some result)
  | .ok none => localLookup normalized

structure LookupCall where
  callsign : String
  world : Surroundings

/-- The provider's answer names the callsign that it was asked for. -/
def LookupCall.NamesAsked (call : LookupCall) : Prop :=
  ∀ normalized result, normalizeCallsign call.callsign = .ok normalized →
    call.world.provider normalized = .ok (some result) → result.normalizedCallsign = normalized

/-- A result that the provider or the fallback has for the call's callsign. -/
def LookupCall.Answered (call : LookupCall) (normalized : String) (result : LookupResult) : Prop :=
  normalizeCallsign call.callsign = .ok normalized ∧
    askProviders call.world normalized = .ok (some result)

theorem LookupCall.Answered.names {call : LookupCall} {normalized : String}
    {result : LookupResult} (h : call.Answered normalized result) (hNamed : call.NamesAsked) :
    result.normalizedCallsign = normalized := by
  obtain ⟨hCallsign, hAnswer⟩ := h
  unfold askProviders at hAnswer
  cases hProvider : call.world.provider normalized with
  | error error =>
      rw [hProvider] at hAnswer
      cases hAnswer
  | ok answer =>
      rw [hProvider] at hAnswer
      cases answer with
      | none => exact localLookup_names (normalizeCallsign_idem hCallsign) hAnswer
      | some found =>
          obtain rfl := Option.some.inj (Except.ok.inj hAnswer)
          exact hNamed normalized found hCallsign hProvider

/-! ### Suggestions and events -/

section Lookup
variable [FloatJson]

def optionText : Option String → Value
  | none => .null
  | some text => .string text

def optionNumber : Option UInt64 → Value
  | none => .null
  | some value => .number (.posInt value)

def suggestionFromResult (result : LookupResult) : LookupSuggestion where
  normalizedCallsign := result.normalizedCallsign
  provider := result.sourceProvider
  confidence := result.confidence
  suggestedFields := .object [
    ("country", optionText result.country),
    ("cq_zone", optionNumber (result.cqZone.map UInt8.toUInt64)),
    ("dxcc", optionNumber (result.dxcc.map UInt16.toUInt64)),
    ("enriched_fields", .array (["name", "qth", "grid", "country", "dxcc", "cq_zone",
      "itu_zone"].map .string)),
    ("grid", optionText result.grid),
    ("itu_zone", optionNumber (result.ituZone.map UInt8.toUInt64)),
    ("lookup_confidence", FloatJson.fromF32 result.confidence),
    ("lookup_source", .string result.sourceProvider),
    ("name", optionText result.name),
    ("qth", optionText result.qth)]

def LookupSuggestion.toValue (suggestion : LookupSuggestion) : Value :=
  .object [
    ("confidence", FloatJson.fromF32 suggestion.confidence),
    ("normalized_callsign", .string suggestion.normalizedCallsign),
    ("provider", .string suggestion.provider),
    ("suggested_fields", suggestion.suggestedFields)]

def publishLookupEvent (world : Surroundings) (eventType : String)
    (severity : RuntimeEventSeverity) (summary : String) (payload : Option Value) :
    Except LookupError Unit :=
  match world.publish (RuntimeEventEnvelope.new eventType severity "plugin.callsign-lookup"
      (some "plugin.callsign-lookup") world.correlationId world.deviceId (some "casual-logger")
      summary payload none) with
  | .ok () => .ok ()
  | .error message => .error (.eventBus message)

/-! ### The cache and the lookup -/

/-- `LookupCache::get`. -/
def get (cache : KeyMap String LookupResult) (callsign : String) (now : DateTime) :
    Option LookupResult :=
  match normalizeCallsign callsign with
  | .error _ => none
  | .ok key => (cache.lookup key).filter fun result =>
      !(result.expiresAt.any fun expiresAt => expiresAt ≤ now)

/-- `LookupCache::put`. -/
def put (cache : KeyMap String LookupResult) (result : LookupResult) :
    KeyMap String LookupResult :=
  cache.insert result.normalizedCallsign result

/-- A result that does not say when it expires is given an expiry, unless
that instant is out of range. -/
def withExpiry (ttlDays : Int) (world : Surroundings) (result : LookupResult) :
    Option LookupResult :=
  match result.expiresAt with
  | some _ => some result
  | none => (world.storedAt.addSeconds (ttlDays * 86400)).map fun expiresAt =>
      { result with expiresAt := some expiresAt }

/-- The answer from the cache. -/
def serveHit (world : Surroundings) (normalized : String) (result : LookupResult) :
    Except LookupError (Option LookupSuggestion) := do
  publishLookupEvent world "lookup.callsign.cache_hit" .debug "Lookup cache hit"
    (some (.object [("callsign", .string normalized), ("provider", .string result.sourceProvider)]))
  let suggestion := suggestionFromResult result
  publishLookupEvent world "lookup.suggestion.created" .info
    "Lookup suggestion created from cache" (some (LookupSuggestion.toValue suggestion))
  return some suggestion

/-- What follows once a result is stored. -/
def serveResult (world : Surroundings) (normalized : String) (result : LookupResult) :
    Except LookupError (Option LookupSuggestion) := do
  if result.country.isSome then
    publishLookupEvent world "lookup.entity.inferred" .info "Entity inferred for callsign"
      (some (.object [("callsign", .string normalized), ("country", optionText result.country)]))
  if result.grid.isSome then
    publishLookupEvent world "lookup.grid.validated" .info "Grid validated for lookup result"
      (some (.object [("callsign", .string normalized), ("grid", optionText result.grid)]))
  publishLookupEvent world "lookup.callsign.completed" .info "Callsign lookup completed"
    (some (.object [("callsign", .string normalized),
      ("confidence", FloatJson.fromF32 result.confidence),
      ("provider", .string result.sourceProvider)]))
  let suggestion := suggestionFromResult result
  publishLookupEvent world "lookup.suggestion.created" .info "Lookup suggestion created"
    (some (LookupSuggestion.toValue suggestion))
  return some suggestion

def lookupCallsignWithCache (ttlDays : Int) (world : Surroundings)
    (cache : KeyMap String LookupResult) (callsign : String) :
    KeyMap String LookupResult × Outcome LookupError (Option LookupSuggestion) :=
  match normalizeCallsign callsign with
  | .error error => (cache, .error (.error error))
  | .ok normalized =>
      match publishLookupEvent world "lookup.callsign.started" .info
          ("Looking up " ++ normalized) none with
      | .error error => (cache, .error (.error error))
      | .ok () =>
          match get cache normalized world.readAt with
          | some result => (cache, Outcome.ofExcept (serveHit world normalized result))
          | none =>
              match publishLookupEvent world "lookup.callsign.cache_miss" .debug
                  "Lookup cache miss" (some (.object [("callsign", .string normalized)])) with
              | .error error => (cache, .error (.error error))
              | .ok () =>
                  match askProviders world normalized with
                  | .error error => (cache, .error (.error error))
                  | .ok none =>
                      (cache, Outcome.ofExcept ((publishLookupEvent world
                        "lookup.callsign.failed" .warn "No lookup result"
                        (some (.object [("callsign", .string normalized)]))).map fun _ => none))
                  | .ok (some result) =>
                      match withExpiry ttlDays world result with
                      | none => (cache, .error .panic)
                      | some result =>
                          (put cache result,
                            Outcome.ofExcept (serveResult world normalized result))

/-! ### Runs of lookups -/

/-- The cache after a sequence of lookups. -/
def runLookups (ttlDays : Int) (calls : List LookupCall) : KeyMap String LookupResult :=
  calls.foldl (fun cache call =>
    (lookupCallsignWithCache ttlDays call.world cache call.callsign).1) ∅

/-- Whatever a lookup after these calls returns from the cache is what was
answered to an earlier lookup of the same callsign. -/
def HitsAnswerEarlier (ttlDays : Int) (calls : List LookupCall) : Prop :=
  ∀ (next : LookupCall) (normalized : String) (cached : LookupResult)
    (suggestion : LookupSuggestion), normalizeCallsign next.callsign = .ok normalized →
    get (runLookups ttlDays calls) normalized next.world.readAt = some cached →
    (lookupCallsignWithCache ttlDays next.world (runLookups ttlDays calls) next.callsign).2 =
      .ok (some suggestion) →
    ∃ earlier ∈ calls, ∃ result, earlier.Answered normalized result ∧
      suggestion = suggestionFromResult result

theorem withExpiry_spec {ttlDays : Int} {world : Surroundings} {result stored : LookupResult}
    (h : withExpiry ttlDays world result = some stored) :
    stored.normalizedCallsign = result.normalizedCallsign ∧
      suggestionFromResult stored = suggestionFromResult result := by
  unfold withExpiry at h
  cases hExpiry : result.expiresAt with
  | some expiresAt =>
      rw [hExpiry] at h
      obtain rfl := Option.some.inj h
      exact ⟨rfl, rfl⟩
  | none =>
      rw [hExpiry] at h
      obtain ⟨expiresAt, _, rfl⟩ := Option.map_eq_some_iff.mp h
      exact ⟨rfl, rfl⟩

/-- What one lookup can do to the cache. -/
theorem lookup_cases (ttlDays : Int) (cache : KeyMap String LookupResult) (call : LookupCall) :
    (lookupCallsignWithCache ttlDays call.world cache call.callsign).1 = cache ∨
      ∃ normalized result stored, call.Answered normalized result ∧
        withExpiry ttlDays call.world result = some stored ∧
        (lookupCallsignWithCache ttlDays call.world cache call.callsign).1 = put cache stored := by
  unfold lookupCallsignWithCache LookupCall.Answered
  cases hCallsign : normalizeCallsign call.callsign with
  | error error => exact Or.inl rfl
  | ok normalized =>
      dsimp only
      split
      · exact Or.inl rfl
      · split
        · exact Or.inl rfl
        · split
          · exact Or.inl rfl
          · cases hAnswer : askProviders call.world normalized with
            | error error => exact Or.inl rfl
            | ok answer =>
                cases answer with
                | none => exact Or.inl rfl
                | some result =>
                    cases hStored : withExpiry ttlDays call.world result with
                    | none =>
                        dsimp only
                        rw [hStored]
                        exact Or.inl rfl
                    | some stored =>
                        refine Or.inr ⟨normalized, result, stored, ⟨rfl, hAnswer⟩, hStored, ?_⟩
                        dsimp only
                        rw [hStored]

theorem runLookups_concat (ttlDays : Int) (prior : List LookupCall) (call : LookupCall) :
    runLookups ttlDays (prior ++ [call]) =
      (lookupCallsignWithCache ttlDays call.world (runLookups ttlDays prior) call.callsign).1 := by
  unfold runLookups
  rw [List.foldl_append, List.foldl_cons, List.foldl_nil]

/-- Every result in the cache is one that was answered for its callsign. -/
theorem lookup_runLookups (ttlDays : Int) {calls : List LookupCall}
    (hNamed : ∀ call ∈ calls, call.NamesAsked) {normalized : String} {cached : LookupResult}
    (h : (runLookups ttlDays calls).lookup normalized = some cached) :
    ∃ earlier ∈ calls, ∃ result, earlier.Answered normalized result ∧
      suggestionFromResult cached = suggestionFromResult result := by
  induction calls using List.reverseRecOn with
  | nil => cases h
  | append_singleton prior call ih =>
      have hPrior : (runLookups ttlDays prior).lookup normalized = some cached →
          ∃ earlier ∈ prior ++ [call], ∃ result, earlier.Answered normalized result ∧
            suggestionFromResult cached = suggestionFromResult result := by
        intro hFound
        obtain ⟨earlier, hMem, hRest⟩ :=
          ih (fun other hMem => hNamed other (List.mem_append_left _ hMem)) hFound
        exact ⟨earlier, List.mem_append_left _ hMem, hRest⟩
      rw [runLookups_concat] at h
      rcases lookup_cases ttlDays (runLookups ttlDays prior) call with
        hSame | ⟨asked, result, stored, hAnswered, hStored, hPut⟩
      · exact hPrior (hSame ▸ h)
      · rw [hPut, put] at h
        obtain ⟨hName, hSuggestion⟩ := withExpiry_spec hStored
        have hAsked := hAnswered.names (hNamed call (by simp))
        by_cases hKey : normalized = stored.normalizedCallsign
        · rw [hKey, AList.lookup_insert] at h
          obtain rfl := Option.some.inj h
          rw [hName, hAsked] at hKey
          exact ⟨call, by simp, result, hKey ▸ hAnswered, hSuggestion⟩
        · rw [AList.lookup_insert_ne hKey] at h
          exact hPrior h

theorem serveHit_eq_ok {world : Surroundings} {normalized : String} {result : LookupResult}
    {served : Option LookupSuggestion} (h : serveHit world normalized result = .ok served) :
    served = some (suggestionFromResult result) := by
  unfold serveHit at h
  obtain ⟨_, _, hRest⟩ := (except_bind_eq_ok_iff _ _ _).mp h
  obtain ⟨_, _, hLast⟩ := (except_bind_eq_ok_iff _ _ _).mp hRest
  exact (Except.ok.inj hLast).symm

theorem hits_answer_earlier (ttlDays : Int) {calls : List LookupCall}
    (hNamed : ∀ call ∈ calls, call.NamesAsked) : HitsAnswerEarlier ttlDays calls := by
  intro next normalized cached suggestion hCallsign hHit hReturned
  have hFound : (runLookups ttlDays calls).lookup normalized = some cached := by
    unfold get at hHit
    rw [normalizeCallsign_idem hCallsign] at hHit
    exact (Option.mem_filter_iff.mp hHit).1
  obtain ⟨earlier, hMem, result, hAnswered, hSame⟩ := lookup_runLookups ttlDays hNamed hFound
  refine ⟨earlier, hMem, result, hAnswered, ?_⟩
  rw [← hSame]
  unfold lookupCallsignWithCache at hReturned
  rw [hCallsign] at hReturned
  dsimp only at hReturned
  split at hReturned
  · cases hReturned
  · rw [hHit] at hReturned
    dsimp only at hReturned
    cases hServed : serveHit next.world normalized cached with
    | error error =>
        rw [hServed] at hReturned
        cases hReturned
    | ok served =>
        rw [hServed] at hReturned
        have hOk : served = some suggestion := Except.ok.inj hReturned
        exact Option.some.inj (hOk.symm.trans (serveHit_eq_ok hServed))

/-- The service cache answers for a triple exactly when the entry under its
text is the triple's own, and hits of the lookup cache are earlier answers for
the same callsign as long as providers name the callsign they are asked for. -/
theorem caches_answer_for_their_keys (calls : List ServiceCache.Call)
    (triple : ServiceType × String × String) (now : DateTime) (ttlDays : Int)
    {lookups : List LookupCall} (hNamed : ∀ call ∈ lookups, call.NamesAsked) :
    (ServiceCache.get (ServiceCache.run calls) triple.1 triple.2.1 triple.2.2 now =
        ServiceCache.expected calls triple now ↔ ServiceCache.OwnEntry calls triple now) ∧
      HitsAnswerEarlier ttlDays lookups :=
  ⟨ServiceCache.get_eq_expected_iff calls triple now, hits_answer_earlier ttlDays hNamed⟩

end Lookup

section Samples

/-- The samples have no float but 0.0. -/
local instance zeroFloats : FloatJson where
  fromF32 _ := .number (.float 0)

/-- A provider that knows one station, and answers with its present callsign. -/
def renamedStation : LookupResult where
  normalizedCallsign := "K1ABC"
  name := some "Ada"
  qth := none
  country := none
  dxcc := none
  cqZone := none
  ituZone := none
  grid := none
  sourceProvider := "qrz-xml"
  expiresAt := none
  confidence := 0

def sampleWorld : Surroundings where
  deviceId := 1
  provider _ := .ok (some renamedStation)
  publish _ := .ok ()
  correlationId := 2
  readAt := Crates.epoch
  storedAt := Crates.epoch

/-- A lookup of the station's former callsign, and one of its present callsign. -/
def formerLookup : LookupCall := ⟨"w1old", sampleWorld⟩

def presentLookup : LookupCall := ⟨"K1ABC", sampleWorld⟩

def colonEntry : ServiceCacheEntry where
  serviceType := .callsignLookup
  providerId := "a:b"
  cacheKey := "c"
  fetchedAt := Crates.epoch
  expiresAt := none
  confidence := none
  value := .null
  safeMetadata := none

theorem caches_answer_for_their_keys_sample :
    (ServiceCache.get (ServiceCache.run [.put colonEntry]) .callsignLookup "a:b" "c"
        Crates.epoch =
      ServiceCache.expected [.put colonEntry] (.callsignLookup, "a:b", "c") Crates.epoch ↔
        ServiceCache.OwnEntry [.put colonEntry] (.callsignLookup, "a:b", "c") Crates.epoch) ∧
      HitsAnswerEarlier 30 [presentLookup] := by
  refine caches_answer_for_their_keys [.put colonEntry] (.callsignLookup, "a:b", "c")
    Crates.epoch 30 ?_
  intro call hMem normalized result hCallsign hAnswer
  obtain rfl := List.mem_singleton.mp hMem
  have hOwn : normalizeCallsign presentLookup.callsign = .ok "K1ABC" := by decide
  rw [hOwn] at hCallsign
  obtain rfl := Except.ok.inj hCallsign
  obtain rfl := Option.some.inj (Except.ok.inj hAnswer)
  rfl

/-- The entry of a triple is returned for another one whose parts join to the
same text, and the answer for one callsign is a hit for another. -/
theorem joined_and_renamed_keys :
    ServiceCache.get (ServiceCache.run [.put colonEntry]) .callsignLookup "a" "b:c"
        Crates.epoch = some colonEntry ∧
      ServiceCache.expected [.put colonEntry] (.callsignLookup, "a", "b:c") Crates.epoch = none ∧
      ¬ HitsAnswerEarlier 30 [formerLookup] := by
  refine ⟨by decide, by decide, ?_⟩
  intro h
  have hCallsign : normalizeCallsign presentLookup.callsign = .ok "K1ABC" := by decide
  have hFormer : normalizeCallsign formerLookup.callsign = .ok "W1OLD" := by decide
  obtain ⟨earlier, hMem, result, ⟨hAsked, _⟩, _⟩ :=
    h presentLookup "K1ABC" _ _ hCallsign rfl rfl
  obtain rfl := List.mem_singleton.mp hMem
  rw [hFormer] at hAsked
  exact absurd (Except.ok.inj hAsked) (by decide)

end Samples
end LookupCache
end HamLogger
