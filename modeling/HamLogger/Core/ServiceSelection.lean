import Mathlib
import HamLogger.Core.Crates
import HamLogger.Core.ServiceRegistry

/-! Which provider is selected: the preferred one where it can serve, else the
best of those that can, in whatever order the map hands them out. -/
namespace HamLogger

open Transition (Run)

/-! The order of the providers. -/

theorem sortsBefore_iff {first second : RegisteredServiceProvider} :
    sortsBefore first second = true ↔
      second.metadata.priority < first.metadata.priority ∨
        (first.metadata.priority = second.metadata.priority ∧
          first.metadata.displayName ≤ second.metadata.displayName) := by
  simp [sortsBefore]

theorem sortsBefore_isPreorder : SortedChoice.IsPreorder sortsBefore where
  trans := by
    intro a b c hFirst hSecond
    rw [sortsBefore_iff] at *
    rcases hFirst with hFirst | ⟨hFirst, hNames⟩
    · left
      omega
    · rcases hSecond with hSecond | ⟨hSecond, hLater⟩
      · left
        omega
      · exact .inr ⟨hFirst.trans hSecond, hNames.trans hLater⟩
  total := by
    intro a b
    rw [Bool.or_eq_true, sortsBefore_iff, sortsBefore_iff]
    rcases lt_trichotomy a.metadata.priority b.metadata.priority with hLt | hSame | hGt
    · exact .inr (.inl hLt)
    · rcases le_total a.metadata.displayName b.metadata.displayName with hName | hName
      · exact .inl (.inr ⟨hSame, hName⟩)
      · exact .inr (.inr ⟨hSame.symm, hName⟩)
    · exact .inl (.inl hGt)

/-- Two providers that sort before each other tie in priority and name. -/
theorem tie_of_sortsBefore {first second : RegisteredServiceProvider}
    (h : sortsBefore first second = true) (hBack : sortsBefore second first = true) :
    first.metadata.priority = second.metadata.priority ∧
      first.metadata.displayName = second.metadata.displayName := by
  rw [sortsBefore_iff] at h hBack
  rcases h with hLt | ⟨hSame, hName⟩
  · rcases hBack with hGt | ⟨hSame, _⟩ <;> omega
  · rcases hBack with hGt | ⟨_, hOther⟩
    · omega
    · exact ⟨hSame, le_antisymm hName hOther⟩

/-! What a registry keeps. -/

namespace ServiceRegistry

/-- Providers are filed under their own id, and a preferred provider is one of
the service type that prefers it. -/
structure Consistent (registry : ServiceRegistry) : Prop where
  keyed : ∀ {providerId provider}, registry.providers.lookup providerId = some provider →
    provider.metadata.providerId = providerId
  preferred : ∀ {serviceType providerId},
    registry.preferredProviders.lookup serviceType = some providerId →
      ∃ provider, registry.providers.lookup providerId = some provider ∧
        provider.metadata.serviceType = serviceType

variable {registry later : ServiceRegistry} {providerId : String}

/-- Filing a provider, in the place of one of the same service type if any. -/
theorem Consistent.insert (h : registry.Consistent) {provider : RegisteredServiceProvider}
    (hId : provider.metadata.providerId = providerId)
    (hType : ∀ old, registry.providers.lookup providerId = some old →
      provider.metadata.serviceType = old.metadata.serviceType) :
    ({ registry with
      providers := registry.providers.insert providerId provider } :
        ServiceRegistry).Consistent := by
  constructor
  · intro other found hFound
    by_cases hSame : other = providerId
    · subst hSame
      rw [AList.lookup_insert] at hFound
      obtain rfl := Option.some.inj hFound
      exact hId
    · rw [AList.lookup_insert_ne hSame] at hFound
      exact h.keyed hFound
  · intro serviceType other hPreferred
    obtain ⟨found, hFound, hFoundType⟩ := h.preferred hPreferred
    by_cases hSame : other = providerId
    · subst hSame
      exact ⟨provider, AList.lookup_insert _, (hType found hFound).trans hFoundType⟩
    · exact ⟨found, (AList.lookup_insert_ne hSame).trans hFound, hFoundType⟩

theorem Consistent.registerProvider (h : registry.Consistent)
    {metadata : ServiceProviderMetadata} {now : DateTime}
    (hOk : registry.registerProvider metadata now = .ok later) : later.Consistent := by
  unfold ServiceRegistry.registerProvider at hOk
  cases hFound : registry.providers.lookup metadata.providerId with
  | some old => simp [hFound] at hOk
  | none =>
      simp only [hFound, Except.ok.injEq] at hOk
      subst hOk
      exact h.insert rfl fun old hOld => (by rw [hFound] at hOld; cases hOld)

/-- A change that leaves the id and the service type alone. -/
theorem Consistent.change (h : registry.Consistent)
    {update : RegisteredServiceProvider → RegisteredServiceProvider}
    (hOk : registry.change providerId update = .ok later)
    (hId : ∀ provider, (update provider).metadata.providerId = provider.metadata.providerId)
    (hType : ∀ provider, (update provider).metadata.serviceType = provider.metadata.serviceType) :
    later.Consistent := by
  unfold ServiceRegistry.change at hOk
  cases hFound : registry.providers.lookup providerId with
  | none => simp [hFound] at hOk
  | some provider =>
      simp only [hFound, Except.ok.injEq] at hOk
      subst hOk
      refine h.insert ((hId provider).trans (h.keyed hFound)) fun old hOld => ?_
      rw [hFound] at hOld
      obtain rfl := Option.some.inj hOld
      exact hType provider

theorem Consistent.setPreferredProvider (h : registry.Consistent) {serviceType : ServiceType}
    (hOk : registry.setPreferredProvider serviceType providerId = .ok later) :
    later.Consistent := by
  unfold ServiceRegistry.setPreferredProvider at hOk
  cases hFound : registry.providers.lookup providerId with
  | none => simp [hFound] at hOk
  | some provider =>
      simp only [hFound] at hOk
      split_ifs at hOk with hType
      obtain rfl := Except.ok.inj hOk
      refine ⟨h.keyed, ?_⟩
      intro other chosen hPreferred
      by_cases hSame : other = serviceType
      · subst hSame
        rw [AList.lookup_insert] at hPreferred
        obtain rfl := Option.some.inj hPreferred
        exact ⟨provider, hFound, not_not.mp hType⟩
      · rw [AList.lookup_insert_ne hSame] at hPreferred
        exact h.preferred hPreferred

theorem Consistent.apply (h : registry.Consistent) {label : RegistryStep}
    (hOk : label.apply registry = .ok later) : later.Consistent := by
  cases label with
  | registerProvider metadata now => exact h.registerProvider hOk
  | setPreferredProvider serviceType providerId => exact h.setPreferredProvider hOk
  | setEnabled providerId enabled => exact h.change hOk (fun _ => rfl) fun _ => rfl
  | setPriority providerId priority => exact h.change hOk (fun _ => rfl) fun _ => rfl
  | setHealth providerId health => exact h.change hOk (fun _ => rfl) fun _ => rfl
  | recordSuccess providerId now => exact h.change hOk (fun _ => rfl) fun _ => rfl
  | recordError providerId error => exact h.change hOk (fun _ => rfl) fun _ => rfl

theorem consistent_of_run {labels : List RegistryStep}
    (run : Run registrySystem {} labels registry) : registry.Consistent := by
  refine run.invariant (P := Consistent) ?_
    ⟨fun hFound => (by cases hFound), fun hPreferred => (by cases hPreferred)⟩
  intro before label after hBefore hStep
  have hAfter : after = (label.apply before).toOption.getD before := hStep
  rw [hAfter]
  cases hApply : label.apply before with
  | error error => exact hBefore
  | ok next => exact hBefore.apply hApply

/-! Selection. -/

/-- A registered provider that can serve the request. -/
def Candidate (registry : ServiceRegistry) (criteria : ProviderSelectionCriteria)
    (provider : RegisteredServiceProvider) : Prop :=
  registry.providers.lookup provider.metadata.providerId = some provider ∧
    provider.metadata.serviceType = criteria.serviceType ∧ criteria.accepts provider = true

/-- The operator's choice for the service type. -/
def Prefers (registry : ServiceRegistry) (criteria : ProviderSelectionCriteria)
    (provider : RegisteredServiceProvider) : Prop :=
  registry.preferredProviders.lookup criteria.serviceType = some provider.metadata.providerId

/-- The candidate that should serve: the preferred one, and where it is none, one
that sorts before all others. -/
structure Selects (registry : ServiceRegistry) (criteria : ProviderSelectionCriteria)
    (provider : RegisteredServiceProvider) : Prop where
  candidate : registry.Candidate criteria provider
  preferred : ∀ other, registry.Candidate criteria other → registry.Prefers criteria other →
    provider = other
  best : registry.Prefers criteria provider ∨
    ∀ other, registry.Candidate criteria other → sortsBefore provider other = true

variable {criteria : ProviderSelectionCriteria} {iteration : List RegisteredServiceProvider}

theorem mem_candidates (h : registry.Consistent)
    (hIteration : iteration.Perm registry.providers.values)
    {provider : RegisteredServiceProvider} :
    provider ∈ (providersFor iteration criteria.serviceType).filter criteria.accepts ↔
      registry.Candidate criteria provider := by
  rw [List.mem_filter, providersFor, List.mem_mergeSort, List.mem_filter, hIteration.mem_iff,
    KeyMap.mem_values, Candidate, decide_eq_true_eq, and_assoc]
  refine and_congr_left fun _ => ⟨?_, fun hFound => ⟨_, hFound⟩⟩
  rintro ⟨providerId, hFound⟩
  rwa [h.keyed hFound]

theorem Candidate.eq_of_id {first second : RegisteredServiceProvider}
    (h : registry.Candidate criteria first) (hOther : registry.Candidate criteria second)
    (hId : first.metadata.providerId = second.metadata.providerId) : first = second := by
  have hFirst := h.1
  rw [hId, hOther.1] at hFirst
  exact (Option.some.inj hFirst).symm

/-- Selection finds a provider to serve, or there is none. -/
theorem selectProvider_cases (h : registry.Consistent) (criteria : ProviderSelectionCriteria)
    (hIteration : iteration.Perm registry.providers.values) :
    (∃ provider, registry.selectProvider iteration criteria = .ok provider ∧
        registry.Selects criteria provider) ∨
      (registry.selectProvider iteration criteria =
          .error (.noUsableProvider criteria.serviceType) ∧
        ∀ provider, ¬ registry.Candidate criteria provider) := by
  have hMem : ∀ provider, provider ∈ (providersFor iteration criteria.serviceType).filter
      criteria.accepts ↔ registry.Candidate criteria provider := fun _ =>
    mem_candidates h hIteration
  unfold selectProvider
  generalize (providersFor iteration criteria.serviceType).filter criteria.accepts = candidates
    at hMem ⊢
  cases hPreferred : (registry.preferredProviders.lookup criteria.serviceType).bind fun id =>
      candidates.find? fun provider => provider.metadata.providerId = id with
  | some provider =>
      obtain ⟨providerId, hPrefers, hFind⟩ := Option.bind_eq_some_iff.mp hPreferred
      have hCandidate := (hMem provider).mp (List.mem_of_find?_eq_some hFind)
      have hId : provider.metadata.providerId = providerId := by
        simpa using List.find?_some hFind
      refine .inl ⟨provider, by simp [hPreferred], hCandidate, ?_,
        .inl (by rw [Prefers, hId, hPrefers])⟩
      intro other hOther hChosen
      rw [Prefers, hPrefers, ← hId] at hChosen
      exact hCandidate.eq_of_id hOther (Option.some.inj hChosen)
  | none =>
      have hNone : ∀ other, registry.Candidate criteria other →
          ¬ registry.Prefers criteria other := by
        intro other hOther hPrefers
        rw [Prefers] at hPrefers
        rw [hPrefers, Option.bind_some, List.find?_eq_none] at hPreferred
        simpa using hPreferred other ((hMem other).mpr hOther)
      cases hFirst : SortedChoice.first sortsBefore candidates with
      | some provider =>
          have hCandidate := (hMem provider).mp (SortedChoice.first_mem hFirst)
          refine .inl ⟨provider, by simp [hPreferred, hFirst], hCandidate, ?_, .inr ?_⟩
          · intro other hOther hPrefers
            exact absurd hPrefers (hNone other hOther)
          · intro other hOther
            exact SortedChoice.first_le sortsBefore_isPreorder hFirst other
              ((hMem other).mpr hOther)
      | none =>
          refine .inr ⟨by simp [hPreferred, hFirst], ?_⟩
          intro provider hCandidate
          have hFound := (hMem provider).mpr hCandidate
          rw [SortedChoice.first_eq_none_iff.mp hFirst] at hFound
          cases hFound

/-- Without a tie there is one provider that should serve. -/
theorem Selects.unique {first second : RegisteredServiceProvider}
    (h : registry.Selects criteria first) (hOther : registry.Selects criteria second)
    (hTies : first.metadata.priority = second.metadata.priority →
      first.metadata.displayName = second.metadata.displayName → first = second) :
    first = second := by
  rcases h.best with hPrefers | hBest
  · exact (hOther.preferred first h.candidate hPrefers).symm
  · rcases hOther.best with hPrefers | hOtherBest
    · exact h.preferred second hOther.candidate hPrefers
    · obtain ⟨hPriority, hName⟩ := tie_of_sortsBefore (hBest second hOther.candidate)
        (hOtherBest first h.candidate)
      exact hTies hPriority hName

end ServiceRegistry

open ServiceRegistry

/-- Over every run of the registry, and in whatever order its map is read: a
request is refused exactly when no registered provider can serve it, and else is
given the one that should. Where no two candidates tie in priority and name,
another order gives the same. -/
theorem selection_serves_best {registry : ServiceRegistry} {labels : List RegistryStep}
    (run : Run registrySystem {} labels registry) (criteria : ProviderSelectionCriteria)
    {iteration : List RegisteredServiceProvider}
    (hIteration : iteration.Perm registry.providers.values) :
    ((∃ provider, registry.selectProvider iteration criteria = .ok provider ∧
        registry.Selects criteria provider) ∨
      (registry.selectProvider iteration criteria =
          .error (.noUsableProvider criteria.serviceType) ∧
        ∀ provider, ¬ registry.Candidate criteria provider)) ∧
    ∀ other : List RegisteredServiceProvider, other.Perm iteration →
      (∀ first second, registry.Candidate criteria first → registry.Candidate criteria second →
        first.metadata.priority = second.metadata.priority →
        first.metadata.displayName = second.metadata.displayName → first = second) →
      registry.selectProvider other criteria = registry.selectProvider iteration criteria := by
  have hConsistent := consistent_of_run run
  refine ⟨selectProvider_cases hConsistent criteria hIteration, ?_⟩
  intro other hOther hTies
  rcases selectProvider_cases hConsistent criteria hIteration with
    ⟨provider, hOk, hSelects⟩ | ⟨hError, hNone⟩
  · rcases selectProvider_cases hConsistent criteria (hOther.trans hIteration) with
      ⟨found, hFound, hSame⟩ | ⟨_, hMissing⟩
    · rw [hOk, hFound, hSame.unique hSelects (hTies found provider hSame.candidate
        hSelects.candidate)]
    · exact absurd hSelects.candidate (hMissing provider)
  · rcases selectProvider_cases hConsistent criteria (hOther.trans hIteration) with
      ⟨found, _, hSame⟩ | ⟨hMissing, _⟩
    · exact absurd hSame.candidate (hNone found)
    · rw [hError, hMissing]

/-- The two lookup providers of the default registry that need no network. -/
def offlineRegistry : ServiceRegistry where
  providers := (AList.singleton "local-prefix"
    (RegisteredServiceProvider.new localPrefixProviderMetadata Crates.epoch)).insert "mock"
      (RegisteredServiceProvider.new mockLookupProviderMetadata Crates.epoch)

def offlineDefaults : List RegistryStep :=
  [.registerProvider localPrefixProviderMetadata Crates.epoch,
    .registerProvider mockLookupProviderMetadata Crates.epoch]

theorem offlineRegistry_run : Run registrySystem {} offlineDefaults offlineRegistry := by
  have hLocal : Run registrySystem {} [.registerProvider localPrefixProviderMetadata Crates.epoch]
      { providers := AList.singleton "local-prefix"
          (RegisteredServiceProvider.new localPrefixProviderMetadata Crates.epoch) } :=
    Run.single rfl
  exact Run.snoc hLocal rfl

/-- Only one of them resolves prefixes. -/
theorem selection_serves_best_prefix :
    let criteria : ProviderSelectionCriteria :=
      { serviceType := .callsignLookup, requiredCapability := some capLookupCallsignBasic }
    ∃ provider, offlineRegistry.selectProvider offlineRegistry.providers.values criteria =
      .ok provider ∧ offlineRegistry.Selects criteria provider := by
  intro criteria
  rcases (selection_serves_best offlineRegistry_run criteria (List.Perm.refl _)).1 with
    hFound | ⟨_, hNone⟩
  · exact hFound
  · refine absurd ?_ (hNone (RegisteredServiceProvider.new localPrefixProviderMetadata
      Crates.epoch))
    exact ⟨rfl, rfl, by decide⟩

end HamLogger
