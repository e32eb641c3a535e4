import Mathlib
import HamLogger.Core.LookupService

/-! What the client's lookups answer over its whole life: whatever is suggested
comes from the provider that is selected now, freshly or through the cache. -/
namespace HamLogger

open Transition (Run Since since_snoc)

section Lookup
variable {registry fallback : ServiceRegistry} {iteration : List RegisteredServiceProvider}
  {request : FrameworkRequest} {ttlDays : Int} {cache : ServiceCache}
  {normalized : String} {selected : RegisteredServiceProvider}

/-! ### The text tells the callsign -/

/-- Two texts that end after their last colon in one text are equal. -/
theorem eq_of_colon_append {first second rest others : List Char} (hRest : ':' ∉ rest)
    (hOthers : ':' ∉ others) (h : first ++ ':' :: rest = second ++ ':' :: others) :
    first = second ∧ rest = others := by
  have hReverse := congrArg List.reverse h
  simp only [List.reverse_append, List.reverse_cons, List.append_assoc, List.singleton_append]
    at hReverse
  have hSame := ServiceCache.eq_of_append_colon (by simpa using hRest) (by simpa using hOthers)
    hReverse
  have hTails := List.reverse_inj.mp hSame
  rw [hTails] at h
  exact ⟨List.append_cancel_right h, hTails⟩

theorem colon_not_mem_normalized {callsign : String}
    (h : LookupCache.normalizeCallsign callsign = .ok normalized) : ':' ∉ normalized.toList := by
  unfold LookupCache.normalizeCallsign at h
  dsimp only at h
  split at h
  · cases h
  · rename_i hValid
    rw [Except.ok.inj h] at hValid
    intro hMem
    have hAll : normalized.toList.all (fun c => c.isAlphanum || c = '/') = true := by
      by_contra hNot
      exact hValid (.inr (.inr (Bool.not_eq_true _ ▸ hNot)))
    exact absurd (List.all_eq_true.mp hAll ':' hMem) (by decide)

/-- An entry under the text of a callsign lookup is for its provider and its
callsign. -/
theorem entry_of_key {providerId : String} {entry : ServiceCacheEntry}
    (hService : entry.serviceType = .callsignLookup) (hEntry : ':' ∉ entry.cacheKey.toList)
    (hNormalized : ':' ∉ normalized.toList)
    (h : ServiceCache.keyOf entry =
      ServiceCache.serviceCacheKey .callsignLookup providerId normalized) :
    entry.providerId = providerId ∧ entry.cacheKey = normalized := by
  have hText := congrArg String.toList h
  rw [ServiceCache.keyOf, ServiceCache.serviceCacheKey_toList, ServiceCache.serviceCacheKey_toList,
    hService] at hText
  have hRest := List.cons.inj (List.append_cancel_left hText)
  obtain ⟨hProvider, hKey⟩ := eq_of_colon_append hEntry hNormalized hRest.2
  exact ⟨String.toList_inj.mp hProvider, String.toList_inj.mp hKey⟩

/-! ### One lookup -/

theorem except_mapError_eq_ok_iff {ε δ α : Type} {convert : ε → δ} {outcome : Except ε α}
    {value : α} : outcome.mapError convert = .ok value ↔ outcome = .ok value := by
  cases outcome <;> simp [Except.mapError]

theorem beginLookup_ok
    (h : request.beginLookup registry iteration = .ok (normalized, selected)) :
    LookupCache.normalizeCallsign request.callsign = .ok normalized ∧
      registry.selectProvider iteration lookupCriteria = .ok selected := by
  unfold FrameworkRequest.beginLookup at h
  obtain ⟨found, hNormalized, hRest⟩ := (except_bind_eq_ok_iff _ _ _).mp h
  obtain ⟨_, _, hSelection⟩ := (except_bind_eq_ok_iff _ _ _).mp hRest
  obtain ⟨chosen, hChosen, hLast⟩ := (except_bind_eq_ok_iff _ _ _).mp hSelection
  have hPair : found = normalized ∧ chosen = selected := by
    split at hLast
    · obtain ⟨_, _, hPure⟩ := (except_bind_eq_ok_iff _ _ _).mp hLast
      exact Prod.mk.inj (Except.ok.inj hPure)
    · exact Prod.mk.inj (Except.ok.inj hLast)
  obtain ⟨rfl, rfl⟩ := hPair
  exact ⟨hNormalized, except_mapError_eq_ok_iff.mp hChosen⟩

/-- Without a provider, and with a bus that works, a lookup fails with the text
of the registry. -/
theorem beginLookup_refused {error : LookupError}
    (hSelection : registry.selectProvider iteration lookupCriteria =
      .error (.noUsableProvider .callsignLookup))
    (hNormalized : LookupCache.normalizeCallsign request.callsign = .ok normalized)
    (hPublish : ∀ event, request.publish event = .ok ())
    (h : request.beginLookup registry iteration = .error error) :
    error = .provider "no usable provider for CallsignLookup" := by
  unfold FrameworkRequest.beginLookup FrameworkRequest.publishServiceRuntimeEvent at h
  rw [hNormalized, hSelection] at h
  simp only [hPublish] at h
  exact (Except.error.inj h).symm

theorem fetch_some {providerId : String} {answer : LookupAnswer}
    (h : request.fetch providerId normalized = .ok (some answer)) :
    request.askSelected providerId normalized = .ok (some answer) := by
  unfold FrameworkRequest.fetch at h
  obtain ⟨_, _, hRest⟩ := (except_bind_eq_ok_iff _ _ _).mp h
  obtain ⟨found, hAsked, hLast⟩ := (except_bind_eq_ok_iff _ _ _).mp hRest
  cases found with
  | some other =>
      obtain rfl := Option.some.inj (Except.ok.inj hLast)
      exact hAsked
  | none =>
      obtain ⟨_, _, hNone⟩ := (except_bind_eq_ok_iff _ _ _).mp hLast
      cases hNone

theorem serveAnswer_ok [FloatJson] {providerId : String} {answer : LookupAnswer}
    {served : Option LookupSuggestion}
    (h : request.serveAnswer providerId normalized answer = .ok served) :
    served = some (LookupCache.suggestionFromResult answer.toLookupResult) := by
  unfold FrameworkRequest.serveAnswer at h
  obtain ⟨_, _, hRest⟩ := (except_bind_eq_ok_iff _ _ _).mp h
  obtain ⟨_, _, hLast⟩ := (except_bind_eq_ok_iff _ _ _).mp hRest
  exact (Except.ok.inj hLast).symm

theorem withExpiry_shown [FloatJson] {answer kept : LookupAnswer}
    (h : request.withExpiry ttlDays answer = some kept) :
    LookupCache.suggestionFromResult kept.toLookupResult =
      LookupCache.suggestionFromResult answer.toLookupResult := by
  unfold FrameworkRequest.withExpiry at h
  cases hExpiry : answer.expiresAt with
  | some expiresAt =>
      rw [hExpiry] at h
      rw [Option.some.inj h]
  | none =>
      rw [hExpiry] at h
      obtain ⟨expiresAt, _, rfl⟩ := Option.map_eq_some_iff.mp h
      rfl

theorem cacheEntryForAnswer_fields [LookupAnswerJson] {providerId : String} {storedAt : DateTime}
    {answer : LookupAnswer} {entry : ServiceCacheEntry}
    (h : cacheEntryForAnswer ttlDays providerId normalized storedAt answer = some entry) :
    entry.serviceType = .callsignLookup ∧ entry.providerId = providerId ∧
      entry.cacheKey = normalized := by
  obtain ⟨expiresAt, _, rfl⟩ := Option.map_eq_some_iff.mp h
  exact ⟨rfl, rfl, rfl⟩

section Json
variable [FloatJson] [LookupAnswerJson]

theorem serveHit_ok {providerId : String} {entry : ServiceCacheEntry}
    {served : Option LookupSuggestion}
    (h : request.serveHit providerId normalized entry = .ok served) :
    ∃ answer, LookupAnswerJson.fromValue entry.value = .ok answer ∧
      served = some (LookupCache.suggestionFromResult answer.toLookupResult) := by
  unfold FrameworkRequest.serveHit at h
  obtain ⟨_, _, hRest⟩ := (except_bind_eq_ok_iff _ _ _).mp h
  obtain ⟨answer, hRead, hLast⟩ := (except_bind_eq_ok_iff _ _ _).mp hRest
  exact ⟨answer, except_mapError_eq_ok_iff.mp hRead, (Except.ok.inj hLast).symm⟩

/-- An entry that a lookup stores, and the answer that it is made of. -/
def FrameworkRequest.Stores (ttlDays : Int) (request : FrameworkRequest)
    (entry : ServiceCacheEntry) : Prop :=
  ∃ answer kept, LookupCache.normalizeCallsign request.callsign = .ok entry.cacheKey ∧
    request.askSelected entry.providerId entry.cacheKey = .ok (some answer) ∧
    request.withExpiry ttlDays answer = some kept ∧
    cacheEntryForAnswer ttlDays entry.providerId entry.cacheKey request.storedAt kept = some entry

/-- A suggestion that a lookup makes of what the provider answers to it, or of
an entry of the cache. -/
inductive Served (cache : ServiceCache) (request : FrameworkRequest) (providerId : String)
    (normalized : String) (suggestion : LookupSuggestion) : Prop where
  | fresh (answer : LookupAnswer)
      (asked : request.askSelected providerId normalized = .ok (some answer))
      (shown : suggestion = LookupCache.suggestionFromResult answer.toLookupResult)
  | cached (entry : ServiceCacheEntry) (answer : LookupAnswer)
      (found : cache.get .callsignLookup providerId normalized request.readAt = some entry)
      (read : LookupAnswerJson.fromValue entry.value = .ok answer)
      (shown : suggestion = LookupCache.suggestionFromResult answer.toLookupResult)

/-- A lookup leaves the cache alone, and then suggests at most what the cache
holds; or it stores an answer of the selected provider and suggests that. -/
theorem framework_cases (ttlDays : Int) (registry : ServiceRegistry)
    (iteration : List RegisteredServiceProvider) (cache : ServiceCache)
    (request : FrameworkRequest) :
    let result := lookupCallsignWithServiceFramework ttlDays registry iteration cache request
    (result.1 = cache ∧ ∀ suggestion, result.2 = .ok (some suggestion) →
      ∃ normalized selected entry,
        request.beginLookup registry iteration = .ok (normalized, selected) ∧
        cache.get .callsignLookup selected.metadata.providerId normalized request.readAt =
          some entry ∧
        request.serveHit selected.metadata.providerId normalized entry =
          .ok (some suggestion)) ∨
    ∃ normalized selected answer kept entry,
      request.beginLookup registry iteration = .ok (normalized, selected) ∧
      request.fetch selected.metadata.providerId normalized = .ok (some answer) ∧
      request.withExpiry ttlDays answer = some kept ∧
      cacheEntryForAnswer ttlDays selected.metadata.providerId normalized request.storedAt kept =
        some entry ∧
      result = (cache.put entry, Outcome.ofExcept
        (request.serveAnswer selected.metadata.providerId normalized kept)) := by
  intro result
  have hResult : result =
    lookupCallsignWithServiceFramework ttlDays registry iteration cache request := rfl
  unfold lookupCallsignWithServiceFramework at hResult
  cases hBegin : request.beginLookup registry iteration with
  | error error =>
      rw [hBegin] at hResult
      exact .inl ⟨congrArg Prod.fst hResult, fun _ hOk => (by rw [hResult] at hOk; cases hOk)⟩
  | ok started =>
      obtain ⟨normalized, selected⟩ := started
      rw [hBegin] at hResult
      dsimp only at hResult
      cases hGet : cache.get .callsignLookup selected.metadata.providerId normalized
          request.readAt with
      | some entry =>
          rw [hGet] at hResult
          refine .inl ⟨congrArg Prod.fst hResult, fun suggestion hOk =>
            ⟨normalized, selected, entry, rfl, hGet, ?_⟩⟩
          rw [hResult] at hOk
          dsimp only at hOk
          cases hServed : request.serveHit selected.metadata.providerId normalized entry with
          | error error =>
              rw [hServed] at hOk
              cases hOk
          | ok served =>
              rw [hServed] at hOk
              exact congrArg Except.ok (Except.ok.inj hOk)
      | none =>
          rw [hGet] at hResult
          dsimp only at hResult
          cases hFetch : request.fetch selected.metadata.providerId normalized with
          | error error =>
              rw [hFetch] at hResult
              exact .inl ⟨congrArg Prod.fst hResult, fun _ hOk =>
                (by rw [hResult] at hOk; cases hOk)⟩
          | ok fetched =>
              rw [hFetch] at hResult
              cases fetched with
              | none =>
                  exact .inl ⟨congrArg Prod.fst hResult, fun _ hOk =>
                    (by rw [hResult] at hOk; cases hOk)⟩
              | some answer =>
                  dsimp only at hResult
                  cases hKept : request.withExpiry ttlDays answer with
                  | none =>
                      rw [hKept] at hResult
                      exact .inl ⟨congrArg Prod.fst hResult, fun _ hOk =>
                        (by rw [hResult] at hOk; cases hOk)⟩
                  | some kept =>
                      rw [hKept] at hResult
                      dsimp only at hResult
                      cases hEntry : cacheEntryForAnswer ttlDays selected.metadata.providerId
                          normalized request.storedAt kept with
                      | none =>
                          rw [hEntry] at hResult
                          exact .inl ⟨congrArg Prod.fst hResult, fun _ hOk =>
                            (by rw [hResult] at hOk; cases hOk)⟩
                      | some entry =>
                          rw [hEntry] at hResult
                          exact .inr ⟨normalized, selected, answer, kept, entry, rfl, hFetch,
                            hKept, hEntry, hResult⟩

/-- What a lookup does to the cache. -/
theorem framework_cache (ttlDays : Int) (registry : ServiceRegistry)
    (iteration : List RegisteredServiceProvider) (cache : ServiceCache)
    (request : FrameworkRequest) :
    (lookupCallsignWithServiceFramework ttlDays registry iteration cache request).1 = cache ∨
      ∃ entry, request.Stores ttlDays entry ∧
        (lookupCallsignWithServiceFramework ttlDays registry iteration cache request).1 =
          cache.put entry := by
  rcases framework_cases ttlDays registry iteration cache request with
    ⟨hSame, _⟩ | ⟨normalized, selected, answer, kept, entry, hBegin, hFetch, hKept, hEntry, hResult⟩
  · exact .inl hSame
  · obtain ⟨_, hProvider, hKey⟩ := cacheEntryForAnswer_fields hEntry
    refine .inr ⟨entry, ⟨answer, kept, ?_⟩, congrArg Prod.fst hResult⟩
    rw [hProvider, hKey]
    exact ⟨(beginLookup_ok hBegin).1, fetch_some hFetch, hKept, hEntry⟩

/-- What a lookup suggests. -/
theorem framework_served {suggestion : LookupSuggestion}
    (h : (lookupCallsignWithServiceFramework ttlDays registry iteration cache request).2 =
      .ok (some suggestion)) :
    ∃ normalized selected, LookupCache.normalizeCallsign request.callsign = .ok normalized ∧
      registry.selectProvider iteration lookupCriteria = .ok selected ∧
      Served cache request selected.metadata.providerId normalized suggestion := by
  rcases framework_cases ttlDays registry iteration cache request with
    ⟨_, hHit⟩ | ⟨normalized, selected, answer, kept, entry, hBegin, hFetch, hKept, _, hResult⟩
  · obtain ⟨normalized, selected, entry, hBegin, hFound, hServed⟩ := hHit suggestion h
    obtain ⟨answer, hRead, hShown⟩ := serveHit_ok hServed
    obtain ⟨hNormalized, hSelected⟩ := beginLookup_ok hBegin
    exact ⟨normalized, selected, hNormalized, hSelected,
      .cached entry answer hFound hRead (Option.some.inj hShown)⟩
  · obtain ⟨hNormalized, hSelected⟩ := beginLookup_ok hBegin
    refine ⟨normalized, selected, hNormalized, hSelected, .fresh answer (fetch_some hFetch) ?_⟩
    rw [hResult] at h
    dsimp only at h
    cases hServed : request.serveAnswer selected.metadata.providerId normalized kept with
    | error error =>
        rw [hServed] at h
        cases h
    | ok served =>
        rw [hServed, serveAnswer_ok hServed, withExpiry_shown hKept] at h
        exact (Option.some.inj (Except.ok.inj h)).symm

end Json

/-! ### Runs -/

section Stored
variable [LookupAnswerJson] {labels : List ServiceDeskStep} {desk : ServiceDesk}
  {label : ServiceDeskStep}

/-- The lookup that a step makes stores this entry. -/
def ServiceDeskStep.Stores (entry : ServiceCacheEntry) : ServiceDeskStep → Prop
  | .lookup ttlDays request _ _ => request.Stores ttlDays entry
  | _ => False

/-- The operator clears the answers of callsign lookups, and the cleared cache is
saved. -/
def ServiceDeskStep.ClearsCallsigns : ServiceDeskStep → Prop
  | .clear serviceType .completes => serviceType.all fun one => one = .callsignLookup
  | _ => False

/-- An entry was stored by some lookup and not cleared since. -/
def StoredSince (labels : List ServiceDeskStep) (entry : ServiceCacheEntry) : Prop :=
  Since (ServiceDeskStep.Stores entry) ServiceDeskStep.ClearsCallsigns labels

/-- Memory and file hold only entries that were stored, each under its own text. -/
structure ServiceDesk.Sourced (labels : List ServiceDeskStep) (desk : ServiceDesk) : Prop where
  memory : ∀ key entry, desk.cache.lookup key = some entry →
    ServiceCache.keyOf entry = key ∧ StoredSince labels entry
  file : ∀ entry ∈ desk.cacheFile.load [] [], StoredSince labels entry

theorem StoredSince.serviceType {entry : ServiceCacheEntry} (h : StoredSince labels entry) :
    entry.serviceType = .callsignLookup ∧ ':' ∉ entry.cacheKey.toList := by
  obtain ⟨_, source, _, _, hStores, _⟩ := h
  cases source with
  | lookup ttlDays request iteration save =>
      obtain ⟨answer, kept, hNormalized, _, _, hEntry⟩ := hStores
      exact ⟨(cacheEntryForAnswer_fields hEntry).1, colon_not_mem_normalized hNormalized⟩
  | update => cases hStores
  | clear => cases hStores
  | restart => cases hStores

theorem StoredSince.snoc {entry : ServiceCacheEntry} (h : StoredSince labels entry)
    (hClears : ¬ label.ClearsCallsigns) : StoredSince (labels ++ [label]) entry :=
  since_snoc.mpr (.inr ⟨h, hClears⟩)

/-- What is stored of a cache that holds only sourced entries. -/
theorem sourced_values {cache : ServiceCache}
    (h : ∀ key entry, cache.lookup key = some entry →
      ServiceCache.keyOf entry = key ∧ StoredSince labels entry) :
    ∀ entry ∈ KeyMap.values cache, StoredSince labels entry := by
  intro entry hMem
  obtain ⟨key, hFound⟩ := KeyMap.mem_values.mp hMem
  exact (h key entry hFound).2

/-- Saving sourced entries keeps the file sourced. -/
theorem sourced_save {file : SavedFile (List ServiceCacheEntry)} {entries : List ServiceCacheEntry}
    {save : SaveOutcome} (hFile : ∀ entry ∈ file.load [] [], StoredSince labels entry)
    (hEntries : ∀ entry ∈ entries, StoredSince labels entry) :
    ∀ entry ∈ (file.save entries save).load [] [], StoredSince labels entry :=
  SavedFile.load_save (P := fun entries => ∀ entry ∈ entries, StoredSince labels entry) hFile
    hEntries fun _ _ hMem => (by cases hMem)

theorem sourced_update {providerId : String} {enabled : Option Bool} {priority : Option Int}
    {save : SaveOutcome} (h : desk.Sourced labels) :
    (desk.update providerId enabled priority save).Sourced
      (labels ++ [.update providerId enabled priority save]) := by
  have hKept : desk.Sourced (labels ++ [.update providerId enabled priority save]) :=
    ⟨fun key entry hFound => ⟨(h.memory key entry hFound).1,
      (h.memory key entry hFound).2.snoc id⟩, fun entry hMem => (h.file entry hMem).snoc id⟩
  unfold ServiceDesk.update
  split
  · exact hKept
  · split
    · exact ⟨hKept.memory, hKept.file⟩
    · exact ⟨hKept.memory, hKept.file⟩

theorem sourced_restart (h : desk.Sourced labels) :
    (desk.restart fallback).Sourced (labels ++ [.restart]) := by
  refine ⟨?_, fun entry hMem => (h.file entry hMem).snoc id⟩
  intro key entry hFound
  rw [ServiceDesk.restart, ServiceCache.replaceEntries, ServiceCache.lookup_foldl_put] at hFound
  have hMem : entry ∈ desk.cacheFile.load [] [] := by
    rw [ServiceCache.lastWith] at hFound
    exact List.mem_reverse.mp (List.mem_of_find?_eq_some hFound)
  exact ⟨of_decide_eq_true (ServiceCache.lastWith_spec hFound), (h.file entry hMem).snoc id⟩

theorem sourced_clear {serviceType : Option ServiceType} {save : SaveOutcome}
    (h : desk.Sourced labels) :
    (desk.clear serviceType save).Sourced (labels ++ [.clear serviceType save]) := by
  have hMemory : ∀ key entry, (desk.clear serviceType save).cache.lookup key = some entry →
      ServiceCache.keyOf entry = key ∧
        StoredSince (labels ++ [.clear serviceType save]) entry := by
    intro key entry hFound
    cases serviceType with
    | none => cases hFound
    | some cleared =>
        rw [ServiceDesk.clear, ServiceCache.clearService, KeyMap.lookup_retain,
          Option.filter_eq_some_iff] at hFound
        obtain ⟨hBefore, hKept⟩ := hFound
        obtain ⟨hKey, hStored⟩ := h.memory key entry hBefore
        refine ⟨hKey, hStored.snoc fun hClears => ?_⟩
        have hOther := of_decide_eq_true hKept
        rw [hStored.serviceType.1] at hOther
        cases save with
        | completes => exact hOther (of_decide_eq_true hClears).symm
        | fails => exact hClears
        | stopsMidway => exact hClears
  refine ⟨hMemory, ?_⟩
  have hValues := sourced_values hMemory
  intro entry hMem
  cases save with
  | completes => exact hValues entry hMem
  | fails => exact (h.file entry hMem).snoc id
  | stopsMidway => cases hMem

end Stored

/-! ### The registry of a run -/

/-- What the client's updates do to a registry. -/
def RegistryStep.Configures : RegistryStep → Prop
  | .setEnabled _ _ | .setPriority _ _ => True
  | _ => False

/-- Writing the file of the registry is cut short. -/
def ServiceDeskStep.DamagesRegistry : ServiceDeskStep → Prop
  | .update _ _ _ save => save = .stopsMidway
  | _ => False

/-- What an update leaves behind. -/
theorem update_registry {P : ServiceRegistry → Prop} {desk : ServiceDesk} {providerId : String}
    {enabled : Option Bool} {priority : Option Int}
    {save : SaveOutcome}
    (hChange : ∀ registry later label, RegistryStep.Configures label → P registry →
      RegistryStep.apply registry label = .ok later → P later)
    (h : P desk.registry) (hFile : P (desk.registryFile.load {} fallback))
    (hDamage : save = .stopsMidway → P fallback) :
    P (desk.update providerId enabled priority save).registry ∧
      P ((desk.update providerId enabled priority save).registryFile.load {} fallback) := by
  unfold ServiceDesk.update
  split
  · exact ⟨h, hFile⟩
  · rename_i enabledRegistry hEnabled
    have hFirst : P enabledRegistry := by
      cases enabled with
      | none => exact Except.ok.inj hEnabled ▸ h
      | some value => exact hChange _ _ (.setEnabled providerId value) trivial h hEnabled
    split
    · exact ⟨hFirst, hFile⟩
    · rename_i updated hPriority
      have hSecond : P updated := by
        cases priority with
        | none => exact Except.ok.inj hPriority ▸ hFirst
        | some value => exact hChange _ _ (.setPriority providerId value) trivial hFirst hPriority
      exact ⟨hSecond, SavedFile.load_save hFile hSecond hDamage⟩

/-- Nothing can be configured in a registry without providers. -/
theorem not_configured {registry later : ServiceRegistry} {label : RegistryStep}
    (hEmpty : registry.providers = ∅) (hLabel : label.Configures) :
    label.apply registry ≠ .ok later := by
  cases label with
  | setEnabled providerId enabled =>
      unfold RegistryStep.apply ServiceRegistry.setEnabled ServiceRegistry.change
      rw [hEmpty]
      exact nofun
  | setPriority providerId priority =>
      unfold RegistryStep.apply ServiceRegistry.setPriority ServiceRegistry.change
      rw [hEmpty]
      exact nofun
  | _ => cases hLabel

section Steps
variable [FloatJson] [LookupAnswerJson] {labels : List ServiceDeskStep} {desk : ServiceDesk}

/-- What a lookup leaves behind. -/
theorem lookup_desk (desk : ServiceDesk) (ttlDays : Int) (request : FrameworkRequest)
    (iteration : List RegisteredServiceProvider) (save : SaveOutcome) :
    ∃ cache file,
      (cache = desk.cache ∨ ∃ entry, request.Stores ttlDays entry ∧ cache = desk.cache.put entry) ∧
      (file = desk.cacheFile ∨ file = desk.cacheFile.save (KeyMap.values cache) save) ∧
      (desk.lookup ttlDays request iteration save).1 =
        { desk with cache := cache, cacheFile := file } := by
  have hCache := framework_cache ttlDays desk.registry iteration desk.cache request
  unfold ServiceDesk.lookup
  generalize lookupCallsignWithServiceFramework ttlDays desk.registry iteration desk.cache
    request = result at hCache ⊢
  obtain ⟨cache, answer⟩ := result
  cases answer with
  | error error => exact ⟨cache, desk.cacheFile, hCache, .inl rfl, rfl⟩
  | ok suggestion => exact ⟨cache, _, hCache, .inr rfl, rfl⟩

theorem sourced_lookup {save : SaveOutcome} (h : desk.Sourced labels) :
    (desk.lookup ttlDays request iteration save).1.Sourced
      (labels ++ [.lookup ttlDays request iteration save]) := by
  obtain ⟨cache, file, hCache, hCases, hDesk⟩ := lookup_desk desk ttlDays request iteration save
  have hMemory : ∀ key entry, cache.lookup key = some entry → ServiceCache.keyOf entry = key ∧
      StoredSince (labels ++ [.lookup ttlDays request iteration save]) entry := by
    intro key entry hFound
    rcases hCache with rfl | ⟨stored, hStores, rfl⟩
    · exact ⟨(h.memory key entry hFound).1, (h.memory key entry hFound).2.snoc id⟩
    · rw [ServiceCache.lookup_put] at hFound
      split_ifs at hFound with hKey
      · obtain rfl := Option.some.inj hFound
        exact ⟨hKey, since_snoc.mpr (.inl hStores)⟩
      · exact ⟨(h.memory key entry hFound).1, (h.memory key entry hFound).2.snoc id⟩
  have hFile : ∀ entry ∈ desk.cacheFile.load [] [],
      StoredSince (labels ++ [.lookup ttlDays request iteration save]) entry :=
    fun entry hMem => (h.file entry hMem).snoc id
  rw [hDesk]
  refine ⟨hMemory, ?_⟩
  rcases hCases with rfl | rfl
  · exact hFile
  · exact sourced_save hFile (sourced_values hMemory)

theorem sourced_step {later : ServiceDesk} {label : ServiceDeskStep} (h : desk.Sourced labels)
    (hStep : (serviceDeskSystem fallback).step desk label later) :
    later.Sourced (labels ++ [label]) := by
  cases label with
  | update providerId enabled priority save =>
      have hLater : later = desk.update providerId enabled priority save := hStep
      rw [hLater]
      exact sourced_update h
  | lookup ttlDays request iteration save =>
      rw [hStep.2]
      exact sourced_lookup h
  | clear serviceType save =>
      have hLater : later = desk.clear serviceType save := hStep
      rw [hLater]
      exact sourced_clear h
  | restart =>
      have hLater : later = desk.restart fallback := hStep
      rw [hLater]
      exact sourced_restart h

theorem sourced_run (run : Run (serviceDeskSystem fallback) {} labels desk) :
    desk.Sourced labels :=
  run.history (P := fun seen desk => desk.Sourced seen)
    ⟨fun _ _ hFound => (by cases hFound), fun _ hMem => (by cases hMem)⟩
    fun _ _ _ _ hBefore hStep => sourced_step hBefore hStep

/-- What holds of an empty registry, and updates keep, holds of the registry of
a client, provided that it holds of the fallback or the file was never damaged. -/
theorem registry_of_run {P : ServiceRegistry → Prop}
    (hChange : ∀ registry later label, RegistryStep.Configures label → P registry →
      RegistryStep.apply registry label = .ok later → P later)
    (hEmpty : P {}) (run : Run (serviceDeskSystem fallback) {} labels desk)
    (hDamage : ∀ label ∈ labels, label.DamagesRegistry → P fallback) :
    P desk.registry ∧ P (desk.registryFile.load {} fallback) := by
  refine run.history (P := fun seen desk =>
    (∀ label ∈ seen, ServiceDeskStep.DamagesRegistry label → P fallback) →
      P desk.registry ∧ P (desk.registryFile.load {} fallback)) (fun _ => ⟨hEmpty, hEmpty⟩) ?_
      hDamage
  intro seen before label after hBefore hStep hSeen
  obtain ⟨hRegistry, hFile⟩ := hBefore fun one hMem => hSeen one (List.mem_append_left _ hMem)
  cases label with
  | update providerId enabled priority save =>
      have hAfter : after = before.update providerId enabled priority save := hStep
      rw [hAfter]
      exact update_registry hChange hRegistry hFile
        (hSeen (.update providerId enabled priority save) (by simp))
  | lookup ttlDays request iteration save =>
      obtain ⟨cache, file, _, _, hDesk⟩ := lookup_desk before ttlDays request iteration save
      rw [hStep.2, hDesk]
      exact ⟨hRegistry, hFile⟩
  | clear serviceType save =>
      have hAfter : after = before.clear serviceType save := hStep
      rw [hAfter]
      exact ⟨hRegistry, hFile⟩
  | restart =>
      have hAfter : after = before.restart fallback := hStep
      rw [hAfter]
      exact ⟨hFile, hFile⟩

/-! ### What is suggested -/

/-- Over the whole life of a client, whatever else is updated, looked up, cleared
or lost: a suggestion comes from the provider that should serve now, one that is
registered, enabled, usable and needs no network. It shows what that provider
answers now, or an entry of the cache that is not expired, and that an earlier
lookup of the same callsign stored for the same provider and nobody cleared
since. -/
theorem suggestions_come_from_selected
    {defaults : List RegistryStep} (hFallback : Run registrySystem {} defaults fallback)
    (run : Run (serviceDeskSystem fallback) {} labels desk)
    (hIteration : iteration.Perm desk.registry.providers.values) {suggestion : LookupSuggestion}
    (h : (lookupCallsignWithServiceFramework ttlDays desk.registry iteration desk.cache
      request).2 = .ok (some suggestion)) :
    ∃ normalized selected, LookupCache.normalizeCallsign request.callsign = .ok normalized ∧
      desk.registry.Selects lookupCriteria selected ∧
      ((∃ answer,
          request.askSelected selected.metadata.providerId normalized = .ok (some answer) ∧
          suggestion = LookupCache.suggestionFromResult answer.toLookupResult) ∨
        ∃ entry answer, StoredSince labels entry ∧
          entry.providerId = selected.metadata.providerId ∧ entry.cacheKey = normalized ∧
          entry.isExpired request.readAt = false ∧
          LookupAnswerJson.fromValue entry.value = .ok answer ∧
          suggestion = LookupCache.suggestionFromResult answer.toLookupResult) := by
  have hRegistry : desk.registry.Consistent :=
    (registry_of_run (P := ServiceRegistry.Consistent)
      (fun _ _ _ _ hBefore hOk => hBefore.apply hOk)
      (ServiceRegistry.consistent_of_run (Run.nil _)) run
      fun _ _ _ => ServiceRegistry.consistent_of_run hFallback).1
  obtain ⟨normalized, selected, hNormalized, hSelected, hServed⟩ := framework_served h
  refine ⟨normalized, selected, hNormalized, ?_, ?_⟩
  · rcases ServiceRegistry.selectProvider_cases hRegistry lookupCriteria hIteration with
      ⟨provider, hOk, hSelects⟩ | ⟨hError, _⟩
    · rw [hSelected] at hOk
      exact Except.ok.inj hOk ▸ hSelects
    · rw [hSelected] at hError
      cases hError
  · cases hServed with
    | fresh answer hAsked hShown => exact .inl ⟨answer, hAsked, hShown⟩
    | cached entry answer hFound hRead hShown =>
        obtain ⟨hLookup, hUnexpired⟩ := Option.filter_eq_some_iff.mp hFound
        obtain ⟨hKey, hStored⟩ := (sourced_run run).memory _ entry hLookup
        obtain ⟨hService, hColon⟩ := hStored.serviceType
        obtain ⟨hProvider, hCallsign⟩ := entry_of_key hService hColon
          (colon_not_mem_normalized hNormalized) hKey
        exact .inr ⟨entry, answer, hStored, hProvider, hCallsign, by simpa using hUnexpired,
          hRead, hShown⟩

/-- A new installation has no file of its registry and starts with an empty one,
not with the default providers. Until a write of the file is cut short, no update
changes that, and no lookup finds a provider. -/
theorem new_installation_refuses
    (run : Run (serviceDeskSystem fallback) {} labels desk)
    (hUndamaged : ∀ label ∈ labels, ¬ label.DamagesRegistry)
    (hIteration : iteration.Perm desk.registry.providers.values) (ttlDays : Int)
    (request : FrameworkRequest) :
    ∃ error, lookupCallsignWithServiceFramework ttlDays desk.registry iteration desk.cache
        request = (desk.cache, .error (.error error)) ∧
      (∀ normalized, LookupCache.normalizeCallsign request.callsign = .ok normalized →
        (∀ event, request.publish event = .ok ()) →
        error = .provider "no usable provider for CallsignLookup") := by
  obtain ⟨hConsistent, hEmpty⟩ := (registry_of_run
    (P := fun registry => registry.Consistent ∧ registry.providers = ∅)
    (fun _ _ _ hLabel hBefore hOk => absurd hOk (not_configured hBefore.2 hLabel))
    ⟨ServiceRegistry.consistent_of_run (Run.nil _), rfl⟩ run
    fun label hMem hDamages => absurd hDamages (hUndamaged label hMem)).1
  have hSelection : desk.registry.selectProvider iteration lookupCriteria =
      .error (.noUsableProvider .callsignLookup) := by
    rcases ServiceRegistry.selectProvider_cases hConsistent lookupCriteria hIteration with
      ⟨provider, _, hSelects⟩ | ⟨hError, _⟩
    · have hFound := hSelects.candidate.1
      rw [hEmpty] at hFound
      cases hFound
    · exact hError
  unfold lookupCallsignWithServiceFramework
  cases hBegin : request.beginLookup desk.registry iteration with
  | ok started =>
      rw [(beginLookup_ok hBegin).2] at hSelection
      cases hSelection
  | error error => exact ⟨error, rfl, fun normalized hNormalized hPublish =>
      beginLookup_refused hSelection hNormalized hPublish hBegin⟩

end Steps

end Lookup

section Samples

/-- The confidence of the samples is 0.72. -/
local instance sampleConfidence : FloatJson where
  fromF32 _ := .number (.float 0x3fe70a3d80000000)

/-- Answers of the local provider, fetched at the start of 1970 and kept for 30
days. -/
local instance sampleAnswers : LookupAnswerJson where
  toValue answer := .object [
    ("callsign", .string answer.callsign),
    ("confidence", FloatJson.fromF32 answer.confidence),
    ("country", LookupCache.optionText answer.country),
    ("cq_zone", LookupCache.optionNumber (answer.cqZone.map UInt8.toUInt64)),
    ("dxcc", LookupCache.optionNumber (answer.dxcc.map UInt16.toUInt64)),
    ("expires_at", .string "1970-01-31T00:00:00Z"),
    ("fetched_at", .string "1970-01-01T00:00:00Z"),
    ("grid", .null),
    ("itu_zone", LookupCache.optionNumber (answer.ituZone.map UInt8.toUInt64)),
    ("latitude", .null),
    ("license_class", .null),
    ("longitude", .null),
    ("name", .null),
    ("normalized_callsign", .string answer.normalizedCallsign),
    ("previous_callsigns", .array []),
    ("qth", .null),
    ("raw_metadata", .null),
    ("source_provider", .string answer.sourceProvider)]
  fromValue _ := .error "missing field"

/-- A lookup for a provider that knows no station. -/
def prefixRequest : FrameworkRequest where
  callsign := "k1abc"
  deviceId := 1
  providerId := "qrz-xml"
  provider _ := .ok none
  publish _ := .ok ()
  correlationId := 2
  readAt := Crates.epoch
  answeredAt := Crates.epoch
  expiryFrom := Crates.epoch
  storedAt := Crates.epoch

/-- A client that found its registry damaged, and started with the defaults. -/
def repairedDesk : ServiceDesk :=
  (ServiceDesk.update {} "local-prefix" none none .stopsMidway).restart offlineRegistry

theorem offlineRegistry_selects :
    offlineRegistry.selectProvider offlineRegistry.providers.values lookupCriteria =
      .ok (RegisteredServiceProvider.new localPrefixProviderMetadata Crates.epoch) := by
  rcases ServiceRegistry.selectProvider_cases (ServiceRegistry.consistent_of_run
      offlineRegistry_run) lookupCriteria (List.Perm.refl _) with
    ⟨provider, hOk, hSelects⟩ | ⟨_, hNone⟩
  · rw [hOk]
    have hMem := KeyMap.mem_values.mpr ⟨_, hSelects.candidate.1⟩
    have hValues : offlineRegistry.providers.values =
      [RegisteredServiceProvider.new mockLookupProviderMetadata Crates.epoch,
        RegisteredServiceProvider.new localPrefixProviderMetadata Crates.epoch] := rfl
    rw [hValues] at hMem
    rcases List.mem_pair.mp hMem with rfl | rfl
    · exact absurd hSelects.candidate.2.2 (by decide)
    · rfl
  · exact absurd ⟨rfl, rfl, by decide⟩
      (hNone (RegisteredServiceProvider.new localPrefixProviderMetadata Crates.epoch))

def prefixSuggestion : LookupSuggestion :=
  LookupCache.suggestionFromResult
    { normalizedCallsign := "K1ABC", name := none, qth := none, country := some "United States",
      dxcc := some 291, cqZone := some 5, ituZone := some 8, grid := none,
      sourceProvider := "local-prefix", expiresAt := none, confidence := 0x3f3851ec }

theorem prefix_suggested :
    (lookupCallsignWithServiceFramework 30 repairedDesk.registry offlineRegistry.providers.values
      repairedDesk.cache prefixRequest).2 = .ok (some prefixSuggestion) := by
  have hNormalized : LookupCache.normalizeCallsign prefixRequest.callsign = .ok "K1ABC" := by
    decide
  have hBegin : prefixRequest.beginLookup offlineRegistry offlineRegistry.providers.values =
      .ok ("K1ABC", RegisteredServiceProvider.new localPrefixProviderMetadata Crates.epoch) := by
    unfold FrameworkRequest.beginLookup
    rw [hNormalized, offlineRegistry_selects]
    rfl
  have hRegistry : repairedDesk.registry = offlineRegistry := rfl
  unfold lookupCallsignWithServiceFramework
  rw [hRegistry, hBegin]
  rfl

theorem suggestions_come_from_selected_prefix :
    let labels := [.update "local-prefix" none none .stopsMidway, .restart]
    ∃ normalized selected,
      LookupCache.normalizeCallsign prefixRequest.callsign = .ok normalized ∧
      repairedDesk.registry.Selects lookupCriteria selected ∧
      ((∃ answer, prefixRequest.askSelected selected.metadata.providerId normalized =
            .ok (some answer) ∧
          prefixSuggestion = LookupCache.suggestionFromResult answer.toLookupResult) ∨
        ∃ entry answer, StoredSince labels entry ∧
          entry.providerId = selected.metadata.providerId ∧ entry.cacheKey = normalized ∧
          entry.isExpired prefixRequest.readAt = false ∧
          LookupAnswerJson.fromValue entry.value = .ok answer ∧
          prefixSuggestion = LookupCache.suggestionFromResult answer.toLookupResult) := by
  intro labels
  have hDamaged : Run (serviceDeskSystem offlineRegistry) {}
      [.update "local-prefix" none none .stopsMidway]
      (ServiceDesk.update {} "local-prefix" none none .stopsMidway) := Run.single rfl
  have hRun : Run (serviceDeskSystem offlineRegistry) {} labels repairedDesk :=
    Run.snoc hDamaged rfl
  exact suggestions_come_from_selected offlineRegistry_run hRun (List.Perm.refl _)
    prefix_suggested

/-- The first lookup of a new installation. -/
theorem new_installation_refuses_prefix :
    ∃ error, lookupCallsignWithServiceFramework 30 {} [] ∅ prefixRequest =
        (∅, .error (.error error)) ∧
      error = .provider "no usable provider for CallsignLookup" := by
  have hNormalized : LookupCache.normalizeCallsign prefixRequest.callsign = .ok "K1ABC" := by
    decide
  obtain ⟨error, hLookup, hError⟩ := new_installation_refuses
    (Run.nil (M := serviceDeskSystem offlineRegistry) {}) (fun _ hMem => (by cases hMem))
    (List.Perm.refl _) 30 prefixRequest
  exact ⟨error, hLookup, hError "K1ABC" hNormalized fun _ => rfl⟩

end Samples

end HamLogger
