import HamLogger.Core.Basic
import HamLogger.Core.Json
import HamLogger.Library.KeyMap

/-! The cache of answers from service providers. An entry is kept under one
text that is joined from its service, its provider and its own key. -/
namespace HamLogger

inductive ServiceType where
  | callsignLookup | entityLookup | gridLookup | logUpload | spotting | mapTiles | geocoding
  | weather | propagation | awardData | aiTool | authentication | storage | notification
  deriving DecidableEq

def ServiceType.asStr : ServiceType → String
  | .callsignLookup => "callsign_lookup"
  | .entityLookup => "entity_lookup"
  | .gridLookup => "grid_lookup"
  | .logUpload => "log_upload"
  | .spotting => "spotting"
  | .mapTiles => "map_tiles"
  | .geocoding => "geocoding"
  | .weather => "weather"
  | .propagation => "propagation"
  | .awardData => "award_data"
  | .aiTool => "ai_tool"
  | .authentication => "authentication"
  | .storage => "storage"
  | .notification => "notification"

/-- An entry. The confidence is a 32-bit float, kept as its bits. -/
structure ServiceCacheEntry where
  serviceType : ServiceType
  providerId : String
  cacheKey : String
  fetchedAt : DateTime
  expiresAt : Option DateTime
  confidence : Option (BitVec 32)
  value : Value
  safeMetadata : Option Value
  deriving DecidableEq

def ServiceCacheEntry.isExpired (entry : ServiceCacheEntry) (now : DateTime) : Bool :=
  entry.expiresAt.any fun expiresAt => expiresAt ≤ now

/-- What an entry is stored for. -/
def ServiceCacheEntry.triple (entry : ServiceCacheEntry) : ServiceType × String × String :=
  (entry.serviceType, entry.providerId, entry.cacheKey)

abbrev ServiceCache := KeyMap String ServiceCacheEntry

namespace ServiceCache

def serviceCacheKey (serviceType : ServiceType) (providerId cacheKey : String) : String :=
  serviceType.asStr ++ ":" ++ providerId ++ ":" ++ cacheKey

def get (cache : ServiceCache) (serviceType : ServiceType) (providerId cacheKey : String)
    (now : DateTime) : Option ServiceCacheEntry :=
  (cache.lookup (serviceCacheKey serviceType providerId cacheKey)).filter
    fun entry => !entry.isExpired now

/-- The text that an entry is kept under. -/
def keyOf (entry : ServiceCacheEntry) : String :=
  serviceCacheKey entry.serviceType entry.providerId entry.cacheKey

def put (cache : ServiceCache) (entry : ServiceCacheEntry) : ServiceCache :=
  cache.insert (keyOf entry) entry

def clearService (cache : ServiceCache) (serviceType : ServiceType) : ServiceCache :=
  KeyMap.retain cache fun entry => entry.serviceType ≠ serviceType

def replaceEntries (entries : List ServiceCacheEntry) : ServiceCache :=
  entries.foldl put ∅

inductive Call where
  | put (entry : ServiceCacheEntry)
  | clearService (serviceType : ServiceType)
  | clearAll
  | replaceEntries (entries : List ServiceCacheEntry)

def apply (cache : ServiceCache) : Call → ServiceCache
  | .put entry => put cache entry
  | .clearService serviceType => clearService cache serviceType
  | .clearAll => ∅
  | .replaceEntries entries => replaceEntries entries

/-- The cache after a sequence of calls. -/
def run (calls : List Call) : ServiceCache :=
  calls.foldl apply ∅

/-! ### What has been stored -/

/-- The entries that were stored and not cleared since, in their order. -/
def stored (calls : List Call) : List ServiceCacheEntry :=
  calls.foldl (fun entries call =>
    match call with
    | .put entry => entries ++ [entry]
    | .clearService serviceType => entries.filter fun entry => entry.serviceType ≠ serviceType
    | .clearAll => []
    | .replaceEntries others => others) []

/-- The last of some entries that has a property. -/
def lastWith (property : ServiceCacheEntry → Bool) (entries : List ServiceCacheEntry) :
    Option ServiceCacheEntry :=
  entries.reverse.find? property

/-- The last entry stored for a triple, unless it has expired. -/
def expected (calls : List Call) (triple : ServiceType × String × String) (now : DateTime) :
    Option ServiceCacheEntry :=
  (lastWith (fun entry => entry.triple = triple) (stored calls)).filter
    fun entry => !entry.isExpired now

/-- The last entry under the text of a triple is the triple's own, or both
have expired. -/
def OwnEntry (calls : List Call) (triple : ServiceType × String × String) (now : DateTime) :
    Prop :=
  ∀ last, lastWith (fun entry => keyOf entry = serviceCacheKey triple.1 triple.2.1 triple.2.2)
      (stored calls) = some last →
    last.triple = triple ∨ (last.isExpired now = true ∧
      ∀ own, lastWith (fun entry => entry.triple = triple) (stored calls) = some own →
        own.isExpired now = true)

theorem lastWith_append_singleton (property : ServiceCacheEntry → Bool)
    (entries : List ServiceCacheEntry) (entry : ServiceCacheEntry) :
    lastWith property (entries ++ [entry]) =
      if property entry then some entry else lastWith property entries := by
  unfold lastWith
  rw [List.reverse_concat, List.find?_cons]
  cases property entry <;> rfl

theorem lastWith_spec {property : ServiceCacheEntry → Bool} {entries : List ServiceCacheEntry}
    {last : ServiceCacheEntry} (h : lastWith property entries = some last) :
    property last = true :=
  List.find?_some h

/-- Where a filter keeps all entries with a property or none of them, it
commutes with taking the last one. -/
theorem lastWith_filter {property keep : ServiceCacheEntry → Bool}
    (hAgree : ∀ first second, property first = true → property second = true →
      keep first = keep second) (entries : List ServiceCacheEntry) :
    lastWith property (entries.filter keep) = (lastWith property entries).filter keep := by
  induction entries using List.reverseRecOn with
  | nil => rfl
  | append_singleton prior entry ih =>
      rw [List.filter_append, lastWith_append_singleton]
      cases hKeep : keep entry with
      | true =>
          rw [List.filter_singleton, hKeep, cond_true, lastWith_append_singleton]
          cases hProperty : property entry with
          | true => rw [if_pos rfl, if_pos rfl, Option.filter_some, hKeep, if_pos rfl]
          | false => simpa using ih
      | false =>
          rw [List.filter_singleton, hKeep, cond_false, List.append_nil, ih]
          cases hProperty : property entry with
          | false => simp
          | true =>
              rw [if_pos rfl, Option.filter_some, hKeep]
              refine Option.eq_none_iff_forall_not_mem.mpr fun other hOther => ?_
              obtain ⟨hLast, hKept⟩ := Option.mem_filter_iff.mp hOther
              rw [hAgree other entry (lastWith_spec hLast) hProperty, hKeep] at hKept
              cases hKept

/-! ### The text tells the service -/

theorem colon_not_mem_asStr (serviceType : ServiceType) : ':' ∉ serviceType.asStr.toList := by
  cases serviceType <;> decide

theorem asStr_injective : Function.Injective ServiceType.asStr := by
  intro first second h
  cases first <;> cases second <;> first | rfl | exact absurd h (by decide)

theorem serviceCacheKey_toList (serviceType : ServiceType) (providerId cacheKey : String) :
    (serviceCacheKey serviceType providerId cacheKey).toList =
      serviceType.asStr.toList ++ ':' :: (providerId.toList ++ ':' :: cacheKey.toList) := by
  simp [serviceCacheKey]

/-- Two texts without a colon that start one text up to its first colon are equal. -/
theorem eq_of_append_colon {first second rest others : List Char} (hFirst : ':' ∉ first)
    (hSecond : ':' ∉ second) (h : first ++ ':' :: rest = second ++ ':' :: others) :
    first = second := by
  have hTake (text rest : List Char) (hText : ':' ∉ text) :
      (text ++ ':' :: rest).takeWhile (· ≠ ':') = text := by
    rw [List.takeWhile_append_of_pos]
    · simp
    · intro c hMem
      exact decide_eq_true fun hColon => hText (hColon ▸ hMem)
  rw [← hTake first rest hFirst, h, hTake second others hSecond]

theorem serviceType_of_key {first second : ServiceCacheEntry} (h : keyOf first = keyOf second) :
    first.serviceType = second.serviceType := by
  have hText := congrArg String.toList h
  rw [keyOf, keyOf, serviceCacheKey_toList, serviceCacheKey_toList] at hText
  exact asStr_injective (String.toList_inj.mp
    (eq_of_append_colon (colon_not_mem_asStr _) (colon_not_mem_asStr _) hText))

/-! ### What the cache holds -/

theorem lookup_put (cache : ServiceCache) (entry : ServiceCacheEntry) (key : String) :
    (put cache entry).lookup key = if keyOf entry = key then some entry else cache.lookup key := by
  unfold put
  by_cases h : keyOf entry = key
  · rw [if_pos h, ← h, AList.lookup_insert]
  · rw [if_neg h, AList.lookup_insert_ne (Ne.symm h)]

theorem lookup_foldl_put (entries : List ServiceCacheEntry) (key : String) :
    (entries.foldl put ∅ : ServiceCache).lookup key =
      lastWith (fun entry => keyOf entry = key) entries := by
  induction entries using List.reverseRecOn with
  | nil => rfl
  | append_singleton prior entry ih =>
      rw [List.foldl_append, List.foldl_cons, List.foldl_nil, lookup_put, ih,
        lastWith_append_singleton]
      simp

/-- Under a text the cache holds the last entry that was stored under it. -/
theorem lookup_run (calls : List Call) (key : String) :
    (run calls).lookup key = lastWith (fun entry => keyOf entry = key) (stored calls) := by
  unfold run stored
  induction calls using List.reverseRecOn with
  | nil => rfl
  | append_singleton prior call ih =>
      rw [List.foldl_append, List.foldl_append, List.foldl_cons, List.foldl_nil, List.foldl_cons,
        List.foldl_nil]
      cases call with
      | put entry =>
          rw [apply, lookup_put, ih, lastWith_append_singleton]
          simp
      | clearService serviceType =>
          have hAgree : ∀ first second : ServiceCacheEntry,
              decide (keyOf first = key) = true → decide (keyOf second = key) = true →
              decide (first.serviceType ≠ serviceType) =
                decide (second.serviceType ≠ serviceType) := by
            intro first second hFirst hSecond
            rw [serviceType_of_key ((of_decide_eq_true hFirst).trans
              (of_decide_eq_true hSecond).symm)]
          rw [apply, clearService, KeyMap.lookup_retain, ih]
          exact (lastWith_filter hAgree _).symm
      | clearAll => rfl
      | replaceEntries entries => exact lookup_foldl_put entries key

theorem lastWith_triple_of_key {calls : List Call} {triple : ServiceType × String × String}
    {last : ServiceCacheEntry} (hOwn : last.triple = triple)
    (h : lastWith (fun entry => keyOf entry = serviceCacheKey triple.1 triple.2.1 triple.2.2)
      (stored calls) = some last) :
    lastWith (fun entry => entry.triple = triple) (stored calls) = some last := by
  unfold lastWith at h ⊢
  obtain ⟨_, before, after, hSplit, hBefore⟩ := List.find?_eq_some_iff_append.mp h
  refine List.find?_eq_some_iff_append.mpr ⟨decide_eq_true hOwn, before, after, hSplit, ?_⟩
  intro entry hMem
  have hKey := hBefore entry hMem
  simp only [Bool.not_eq_true', decide_eq_false_iff_not] at hKey ⊢
  rintro rfl
  exact hKey rfl

/-- Where nothing is stored under a triple's text nothing is stored for it. -/
theorem lastWith_triple_none {calls : List Call} {triple : ServiceType × String × String}
    (h : lastWith (fun entry => keyOf entry = serviceCacheKey triple.1 triple.2.1 triple.2.2)
      (stored calls) = none) :
    lastWith (fun entry => entry.triple = triple) (stored calls) = none := by
  unfold lastWith at h ⊢
  rw [List.find?_eq_none] at h ⊢
  intro entry hMem hTriple
  obtain rfl := of_decide_eq_true hTriple
  exact h entry hMem (decide_eq_true rfl)

/-- A call of `get` answers for its triple exactly when the triple's own
entry is the one under its text. -/
theorem get_eq_expected_iff (calls : List Call) (triple : ServiceType × String × String)
    (now : DateTime) :
    get (run calls) triple.1 triple.2.1 triple.2.2 now = expected calls triple now ↔
      OwnEntry calls triple now := by
  unfold get expected OwnEntry
  rw [lookup_run]
  cases hLast : lastWith (fun entry =>
      keyOf entry = serviceCacheKey triple.1 triple.2.1 triple.2.2) (stored calls) with
  | none => simp [lastWith_triple_none hLast]
  | some last =>
      by_cases hOwn : last.triple = triple
      · simp [lastWith_triple_of_key hOwn hLast, hOwn]
      · cases hExpired : last.isExpired now with
        | true =>
            cases hTriple : lastWith (fun entry => entry.triple = triple) (stored calls) with
            | none => simp [hExpired]
            | some own =>
                rw [Option.filter_some, Option.filter_some, hExpired]
                cases hOther : own.isExpired now <;> simp [hOwn, hOther, hExpired]
        | false =>
            cases hTriple : lastWith (fun entry => entry.triple = triple) (stored calls) with
            | none => simp [hExpired, hOwn]
            | some own =>
                have hTripleOwn := of_decide_eq_true (lastWith_spec hTriple)
                have hOther : last ≠ own := fun h => hOwn (h ▸ hTripleOwn)
                rw [Option.filter_some, Option.filter_some, hExpired]
                cases own.isExpired now <;> simp [hOwn, hExpired, hOther]

end ServiceCache
end HamLogger
