import HamLogger.Core.Crates
import HamLogger.Core.CredentialStores

/-! How far the two credential stores answer alike, over whole runs of calls
that both receive. -/
namespace HamLogger.CredentialBackends

open Transition (Run System)

/-- Payload fields without the text of the rotation status. -/
def blurFields (fields : Fields) : Fields :=
  fields.map fun field => (field.1, if field.1 = "rotation_status" then .null else field.2)

def blurRotation : Value → Value
  | .object fields => .object (blurFields fields)
  | value => value

/-- Metadata without times and without the text of the rotation status. -/
def CredentialMetadata.blur (metadata : CredentialMetadata) : CredentialMetadata :=
  { metadata with
    metadata := blurRotation metadata.metadata
    updatedAt := metadata.createdAt
    lastUsedAt := none }

def CredentialAnswer.blur : CredentialAnswer → CredentialAnswer
  | .metadata shown => .metadata shown.blur
  | answer => answer

/-- A store of each kind that receive the same calls. -/
structure Backends where
  os : OsCredentialStore := {}
  dev : InsecureDevCredentialStore := {}

/-- The two stores stand alike at a credential. -/
inductive Matches (secret : Option String) :
    Option CredentialMetadata → Option CredentialRecord → Prop where
  | neither : Matches secret none none
  | deleted {record : CredentialRecord} (hEnded : record.metadata.status ≠ .active) :
      Matches secret none (some record)
  | both {metadata : CredentialMetadata} {record : CredentialRecord}
      (hBlur : metadata.blur = record.metadata.blur)
      (hClean : redactPayload metadata.metadata = metadata.metadata)
      (hSecret : metadata.status = .active → secret = some record.secret) :
      Matches secret (some metadata) (some record)

namespace Backends

def Agree (backends : Backends) : Prop :=
  ∀ id, Matches (backends.os.keychain.lookup id) (backends.os.records.lookup id)
    (backends.dev.records.lookup id)

/-- A call that stores only credentials that are active, asks for no secret
that was revoked, names no credential that was deleted, and marks the rotation
of no metadata that is an array, a text, a number or a truth value. -/
def Common (backends : Backends) : CredentialCall → Prop
  | .storeCredential metadata _ => metadata.status = .active
  | .retrieveSecret id =>
      ∀ record, backends.dev.records.lookup id = some record → record.metadata.status = .active
  | .updateCredential id _ _ | .revokeCredential id | .deleteCredential id =>
      (backends.dev.records.lookup id).isSome = true →
        (backends.os.records.lookup id).isSome = true
  | .rotateCredentialPlaceholder id =>
      ((backends.dev.records.lookup id).isSome = true →
        (backends.os.records.lookup id).isSome = true) ∧
      ∀ record, backends.dev.records.lookup id = some record →
        record.metadata.metadata.isIndexable = true

end Backends

section Redaction

mutual

theorem redactPayload_redactPayload : ∀ value, redactPayload (redactPayload value) =
    redactPayload value
  | .object fields => by
      rw [redactPayload, redactPayload, redactFields_redactFields fields]
  | .array values => by
      rw [redactPayload, redactPayload, redactElements_redactElements values]
  | .null => by rw [redactPayload, redactPayload]
  | .bool value => by rw [redactPayload, redactPayload]
  | .number value => by rw [redactPayload, redactPayload]
  | .string text => by rw [redactPayload, redactPayload]

theorem redactElements_redactElements : ∀ values, redactElements (redactElements values) =
    redactElements values
  | [] => by rw [redactElements, redactElements]
  | value :: rest => by
      rw [redactElements, redactElements, redactPayload_redactPayload value,
        redactElements_redactElements rest]

theorem redactFields_redactFields : ∀ fields, redactFields (redactFields fields) =
    redactFields fields
  | [] => by rw [redactFields, redactFields]
  | (key, value) :: rest => by
      rw [redactFields, redactFields, redactFields_redactFields rest]
      by_cases hKey : isSecretLikeKey key = true
      · rw [if_pos hKey, if_pos hKey]
      · rw [if_neg hKey, if_neg hKey, redactPayload_redactPayload value]

end

/-- Replacing values by their keys goes along with an insertion. -/
theorem map_insert (change : String → Value → Value) (fields : Fields) (key : String)
    (value : Value) :
    (fields.insert key value).map (fun field => (field.1, change field.1 field.2)) =
      Fields.insert (fields.map fun field => (field.1, change field.1 field.2)) key
        (change key value) := by
  induction fields with
  | nil => rfl
  | cons field rest ih =>
      obtain ⟨name, old⟩ := field
      simp only [Fields.insert, List.map_cons]
      split
      · next hSame =>
          subst hSame
          rfl
      · split
        · rfl
        · rw [List.map_cons, ih]

theorem redactFields_eq_map (fields : Fields) : redactFields fields = fields.map fun field =>
    (field.1, if isSecretLikeKey field.1 then .string "[REDACTED]" else redactPayload field.2) := by
  induction fields with
  | nil => rfl
  | cons field rest ih =>
      obtain ⟨key, value⟩ := field
      rw [redactFields, ih]
      rfl

theorem redactPayload_set {value result : Value} {text : String}
    (hClean : redactPayload value = value)
    (hSet : value.set "rotation_status" (.string text) = some result) :
    redactPayload result = result := by
  have hText : (if isSecretLikeKey "rotation_status" then Value.string "[REDACTED]"
      else redactPayload (.string text)) = .string text := by
    rw [if_neg (by decide +kernel), redactPayload]
  cases value with
  | null =>
      obtain rfl := Option.some.inj hSet
      rw [redactPayload, redactFields_eq_map, map_insert (fun name old =>
        if isSecretLikeKey name then .string "[REDACTED]" else redactPayload old), hText]
      rfl
  | object fields =>
      obtain rfl := Option.some.inj hSet
      rw [redactPayload] at hClean
      rw [redactPayload, redactFields_eq_map, map_insert (fun name old =>
        if isSecretLikeKey name then .string "[REDACTED]" else redactPayload old), hText,
        ← redactFields_eq_map, Value.object.inj hClean]
  | _ => cases hSet

theorem isSome_set {value new : Value} {key : String} (h : value.isIndexable = true) :
    (value.set key new).isSome = true := by
  cases value with
  | null => rfl
  | object fields => rfl
  | _ => cases h

/-- Marking the rotation of alike payloads leaves them alike. -/
theorem blurRotation_set {first second marked : Value} {text other : String}
    (hAlike : blurRotation first = blurRotation second)
    (hFirst : first.set "rotation_status" (.string text) = some marked) :
    ∃ later, second.set "rotation_status" (.string other) = some later ∧
      blurRotation marked = blurRotation later := by
  have hBlur : ∀ (fields : Fields) (text : String),
      blurFields (fields.insert "rotation_status" (.string text)) =
        Fields.insert (blurFields fields) "rotation_status" .null :=
    fun fields text => map_insert (fun name old =>
      if name = "rotation_status" then .null else old) fields _ _
  cases first with
  | null =>
      obtain rfl := Option.some.inj hFirst
      cases second with
      | null => exact ⟨_, rfl, by rw [blurRotation, blurRotation, hBlur, hBlur]⟩
      | _ => cases hAlike
  | object fields =>
      obtain rfl := Option.some.inj hFirst
      cases second with
      | object others =>
          refine ⟨_, rfl, ?_⟩
          rw [blurRotation, blurRotation, hBlur, hBlur, Value.object.inj hAlike]
      | _ => cases hAlike
  | _ => cases hFirst

end Redaction

/-- What the answers to a call have in common, and what is left of the stores. -/
structure Follows (os : Answered OsCredentialStore) (dev : Answered InsecureDevCredentialStore) :
    Prop where
  alike : os.2.map CredentialAnswer.blur = dev.2.map CredentialAnswer.blur
  calm : os.2 ≠ .error .panic ∧ dev.2 ≠ .error .panic
  agree : Backends.Agree ⟨os.1, dev.1⟩

namespace Backends
variable {backends : Backends} {id : Uuid} {osNow devNow : DateTime}

/-- Stores that agree still do after a change of one credential. -/
theorem Agree.change (h : backends.Agree) {os : OsCredentialStore}
    {dev : InsecureDevCredentialStore}
    (hKeychain : ∀ other, other ≠ id →
      os.keychain.lookup other = backends.os.keychain.lookup other)
    (hRecords : ∀ other, other ≠ id → os.records.lookup other = backends.os.records.lookup other)
    (hDev : ∀ other, other ≠ id → dev.records.lookup other = backends.dev.records.lookup other)
    (hOwn : Matches (os.keychain.lookup id) (os.records.lookup id) (dev.records.lookup id)) :
    Agree ⟨os, dev⟩ := by
  intro other
  by_cases hSame : other = id
  · subst hSame
    exact hOwn
  · rw [hKeychain other hSame, hRecords other hSame, hDev other hSame]
    exact h other

theorem Agree.store (h : backends.Agree) {metadata : CredentialMetadata} {secret : String}
    (hActive : metadata.status = .active) :
    Follows (backends.os.storeCredential metadata secret osNow)
      (backends.dev.storeCredential metadata secret devNow) := by
  have hBlur : CredentialMetadata.blur
      { metadata.sanitized with status := .active, updatedAt := osNow } =
        CredentialMetadata.blur { metadata.sanitized with updatedAt := devNow } := by
    rw [CredentialMetadata.blur, CredentialMetadata.blur, CredentialMetadata.sanitized, hActive]
  refine ⟨congrArg (fun shown => Except.ok (CredentialAnswer.metadata shown)) hBlur,
    ⟨fun hError => (by cases hError), fun hError => (by cases hError)⟩, ?_⟩
  refine @Agree.change _ metadata.sanitized.credentialId h _ _ (fun other hOther => ?_)
    (fun other hOther => ?_) (fun other hOther => ?_) ?_
  · exact AList.lookup_insert_ne hOther
  · exact AList.lookup_insert_ne hOther
  · exact AList.lookup_insert_ne hOther
  · have hFound : Matches (some secret)
        (some { metadata.sanitized with status := .active, updatedAt := osNow })
        (some ⟨{ metadata.sanitized with updatedAt := devNow }, secret⟩) :=
      .both hBlur (redactPayload_redactPayload _) fun _ => rfl
    unfold OsCredentialStore.storeCredential InsecureDevCredentialStore.storeCredential
      InsecureDevCredentialStore.put
    dsimp only
    rw [AList.lookup_insert, AList.lookup_insert, AList.lookup_insert]
    exact hFound

/-- A call that neither store knows the credential of. -/
theorem Agree.unknown (h : backends.Agree) :
    Follows (backends.os, .error (.error (.notFound id)))
      (backends.dev, .error (.error (.notFound id))) :=
  ⟨rfl, ⟨fun hError => (by cases hError), fun hError => (by cases hError)⟩, h⟩

/-- A call that puts a record of the credential into both stores. -/
theorem Agree.put (h : backends.Agree) {keychain : KeyMap Uuid String}
    {metadata : CredentialMetadata} {record : CredentialRecord} {os dev : CredentialAnswer}
    (hAlike : os.blur = dev.blur)
    (hKeychain : ∀ other, other ≠ id →
      keychain.lookup other = backends.os.keychain.lookup other)
    (hOwn : Matches (keychain.lookup id) (some metadata) (some record)) :
    Follows (⟨backends.os.records.insert id metadata, keychain⟩, .ok os)
      (backends.dev.put record id, .ok dev) := by
  refine ⟨congrArg Except.ok hAlike,
    ⟨fun hError => (by cases hError), fun hError => (by cases hError)⟩, ?_⟩
  refine h.change hKeychain (fun other hOther => AList.lookup_insert_ne hOther)
    (fun other hOther => AList.lookup_insert_ne hOther) ?_
  unfold InsecureDevCredentialStore.put
  dsimp only
  rw [AList.lookup_insert, AList.lookup_insert]
  exact hOwn

/-- What agreement says about the credential of a call that is common. -/
theorem Agree.cases_of_known (h : backends.Agree)
    (hKnown : (backends.dev.records.lookup id).isSome = true →
      (backends.os.records.lookup id).isSome = true) :
    (backends.os.records.lookup id = none ∧ backends.dev.records.lookup id = none) ∨
      ∃ metadata record, backends.os.records.lookup id = some metadata ∧
        backends.dev.records.lookup id = some record ∧
        Matches (backends.os.keychain.lookup id) (some metadata) (some record) := by
  have hAt := h id
  cases hOs : backends.os.records.lookup id with
  | none =>
      cases hDev : backends.dev.records.lookup id with
      | none => exact Or.inl ⟨rfl, rfl⟩
      | some record =>
          rw [hOs, hDev] at hKnown
          cases hKnown rfl
  | some metadata =>
      rw [hOs] at hAt
      cases hDev : backends.dev.records.lookup id with
      | none =>
          rw [hDev] at hAt
          cases hAt
      | some record =>
          rw [hDev] at hAt
          exact Or.inr ⟨metadata, record, rfl, rfl, hAt⟩

/-- A credential that is not marked as ended in the second store is known to
the first one. -/
theorem Agree.known (h : backends.Agree)
    (hActive : ∀ record, backends.dev.records.lookup id = some record →
      record.metadata.status = .active) :
    (backends.dev.records.lookup id).isSome = true →
      (backends.os.records.lookup id).isSome = true := by
  intro hSome
  obtain ⟨record, hDev⟩ := Option.isSome_iff_exists.mp hSome
  have hAt := h id
  rw [hDev] at hAt
  cases hOs : backends.os.records.lookup id with
  | some metadata => rfl
  | none =>
      rw [hOs] at hAt
      cases hAt with
      | deleted hEnded => exact absurd (hActive record hDev) hEnded

theorem status_eq_of_blur {first second : CredentialMetadata} (h : first.blur = second.blur) :
    first.status = second.status := by
  show first.blur.status = second.blur.status
  rw [h]

theorem Agree.retrieve (h : backends.Agree)
    (hActive : ∀ record, backends.dev.records.lookup id = some record →
      record.metadata.status = .active) :
    Follows (backends.os.retrieveSecret id osNow) (backends.dev.retrieveSecret id devNow) := by
  unfold OsCredentialStore.retrieveSecret InsecureDevCredentialStore.retrieveSecret
  rcases h.cases_of_known (h.known hActive) with ⟨hOs, hDev⟩ | ⟨metadata, record, hOs, hDev, hAt⟩
  · rw [hOs, hDev]
    exact h.unknown
  · rw [hOs, hDev]
    cases hAt with
    | both hBlur hClean hSecret =>
        have hStatus : metadata.status = .active :=
          (status_eq_of_blur hBlur).trans (hActive record hDev)
        dsimp only
        rw [if_neg (not_not.mpr hStatus), hSecret hStatus]
        exact h.put rfl (fun _ _ => rfl) (.both hBlur hClean fun _ => hSecret hStatus)

theorem blur_updated {metadata other : CredentialMetadata} (h : metadata.blur = other.blur)
    (change : Option Value) : (updatedMetadata metadata change osNow).blur =
      (updatedMetadata other change devNow).blur := by
  unfold CredentialMetadata.blur updatedMetadata at *
  simp only [CredentialMetadata.mk.injEq] at h ⊢
  cases change <;> simp_all

theorem Agree.update (h : backends.Agree) {secret : String} {metadata : Option Value}
    (hKnown : (backends.dev.records.lookup id).isSome = true →
      (backends.os.records.lookup id).isSome = true) :
    Follows (backends.os.updateCredential id secret metadata osNow)
      (backends.dev.updateCredential id secret metadata devNow) := by
  unfold OsCredentialStore.updateCredential InsecureDevCredentialStore.updateCredential
  rcases h.cases_of_known hKnown with ⟨hOs, hDev⟩ | ⟨old, record, hOs, hDev, hAt⟩
  · rw [hOs, hDev]
    exact h.unknown
  · rw [hOs, hDev]
    cases hAt with
    | both hBlur hClean _ =>
        have hUpdated := @blur_updated osNow devNow _ _ hBlur metadata
        refine h.put (congrArg CredentialAnswer.metadata hUpdated)
          (fun _ hOther => AList.lookup_insert_ne hOther) ?_
        refine .both hUpdated ?_ fun _ => AList.lookup_insert _
        cases metadata with
        | none => exact hClean
        | some metadata => exact redactPayload_redactPayload metadata

theorem blur_revoked {metadata other : CredentialMetadata} (h : metadata.blur = other.blur) :
    CredentialMetadata.blur { metadata with status := .revoked, updatedAt := osNow } =
      CredentialMetadata.blur { other with status := .revoked, updatedAt := devNow } := by
  unfold CredentialMetadata.blur at *
  simp only [CredentialMetadata.mk.injEq] at h ⊢
  simp_all

theorem Agree.revoke (h : backends.Agree)
    (hKnown : (backends.dev.records.lookup id).isSome = true →
      (backends.os.records.lookup id).isSome = true) :
    Follows (backends.os.revokeCredential id osNow) (backends.dev.revokeCredential id devNow) := by
  unfold OsCredentialStore.revokeCredential InsecureDevCredentialStore.revokeCredential
  rcases h.cases_of_known hKnown with ⟨hOs, hDev⟩ | ⟨old, record, hOs, hDev, hAt⟩
  · rw [hOs, hDev]
    exact h.unknown
  · rw [hOs, hDev]
    cases hAt with
    | both hBlur hClean _ =>
        have hRevoked := @blur_revoked osNow devNow _ _ hBlur
        refine h.put (congrArg CredentialAnswer.metadata hRevoked)
          (fun _ hOther => AList.lookup_erase_ne hOther) ?_
        exact .both hRevoked hClean fun hActive => by cases hActive

theorem Agree.delete (h : backends.Agree)
    (hKnown : (backends.dev.records.lookup id).isSome = true →
      (backends.os.records.lookup id).isSome = true) :
    Follows (backends.os.deleteCredential id) (backends.dev.deleteCredential id devNow) := by
  unfold OsCredentialStore.deleteCredential InsecureDevCredentialStore.deleteCredential
    InsecureDevCredentialStore.revokeCredential
  rcases h.cases_of_known hKnown with ⟨hOs, hDev⟩ | ⟨old, record, hOs, hDev, hAt⟩
  · rw [hOs, hDev]
    exact h.unknown
  · rw [hOs, hDev]
    refine ⟨rfl, ⟨fun hError => (by cases hError), fun hError => (by cases hError)⟩, ?_⟩
    refine h.change (fun other hOther => AList.lookup_erase_ne hOther)
      (fun other hOther => AList.lookup_erase_ne hOther)
      (fun other hOther => AList.lookup_insert_ne hOther) ?_
    unfold InsecureDevCredentialStore.put
    dsimp only
    rw [AList.lookup_erase, AList.lookup_erase, AList.lookup_insert]
    exact .deleted fun hActive => by cases hActive

theorem blur_marked {metadata other : CredentialMetadata} (h : metadata.blur = other.blur)
    {first second : Value} (hAlike : blurRotation first = blurRotation second) :
    CredentialMetadata.blur { metadata with metadata := first, updatedAt := osNow } =
      CredentialMetadata.blur { other with metadata := second, updatedAt := devNow } := by
  unfold CredentialMetadata.blur at *
  simp only [CredentialMetadata.mk.injEq] at h ⊢
  simp_all

theorem Agree.rotate (h : backends.Agree)
    (hKnown : (backends.dev.records.lookup id).isSome = true →
      (backends.os.records.lookup id).isSome = true)
    (hIndexable : ∀ record, backends.dev.records.lookup id = some record →
      record.metadata.metadata.isIndexable = true) :
    Follows (backends.os.rotateCredentialPlaceholder id osNow)
      (backends.dev.rotateCredentialPlaceholder id devNow) := by
  unfold OsCredentialStore.rotateCredentialPlaceholder
    InsecureDevCredentialStore.rotateCredentialPlaceholder
  rcases h.cases_of_known hKnown with ⟨hOs, hDev⟩ | ⟨old, record, hOs, hDev, hAt⟩
  · rw [hOs, hDev]
    exact h.unknown
  · rw [hOs, hDev]
    cases hAt with
    | both hBlur hClean hSecret =>
        have hAlike : blurRotation record.metadata.metadata = blurRotation old.metadata :=
          (congrArg CredentialMetadata.metadata hBlur).symm
        obtain ⟨later, hLater⟩ : ∃ later, record.metadata.metadata.set "rotation_status"
            (.string "rotation_planned") = some later :=
          Option.isSome_iff_exists.mp (isSome_set (hIndexable record hDev))
        obtain ⟨marked, hMarked, hSame⟩ :=
          @blurRotation_set _ _ _ _ "rotation_required" hAlike hLater
        have hBlurred := @blur_marked osNow devNow _ _ hBlur _ _ hSame.symm
        have hMarkedClean := redactPayload_set hClean hMarked
        unfold markRotation
        dsimp only
        rw [hMarked, hLater]
        refine h.put ?_ (fun _ _ => rfl) (.both hBlurred hMarkedClean hSecret)
        refine congrArg CredentialAnswer.metadata (Eq.trans ?_ hBlurred)
        rw [CredentialMetadata.sanitized]
        dsimp only
        rw [hMarkedClean]

/-- A common call is answered alike, and leaves the stores alike. -/
theorem Agree.follows (h : backends.Agree) {call : CredentialCall}
    (hCommon : backends.Common call) :
    Follows (backends.os.call osNow call) (backends.dev.call devNow call) := by
  cases call with
  | storeCredential metadata secret => exact h.store hCommon
  | retrieveSecret id => exact h.retrieve hCommon
  | updateCredential id secret metadata => exact h.update hCommon
  | revokeCredential id => exact h.revoke hCommon
  | deleteCredential id => exact h.delete hCommon
  | rotateCredentialPlaceholder id => exact h.rotate hCommon.1 hCommon.2

end Backends

/-- A call that gives a credential a secret anew. -/
def CredentialCall.Renews (id : Uuid) : CredentialCall → Prop
  | .storeCredential metadata _ => metadata.credentialId = id
  | .updateCredential credentialId _ _ => credentialId = id
  | _ => False

/-- A call that takes the secret of a credential away. -/
def CredentialCall.Ends (id : Uuid) (call : CredentialCall) : Prop :=
  call = .revokeCredential id ∨ call = .deleteCredential id

namespace OsCredentialStore

/-- The credential is there and active. -/
def Holds (store : OsCredentialStore) (id : Uuid) : Prop :=
  ∃ record, store.records.lookup id = some record ∧ record.status = .active

variable {store : OsCredentialStore} {id : Uuid} {now : DateTime} {call : CredentialCall}

theorem holds_of_insert {keychain : KeyMap Uuid String} {key : Uuid}
    {record : CredentialMetadata}
    (hRecord : record.status = .active → id = key → store.Holds id)
    (h : Holds ⟨store.records.insert key record, keychain⟩ id) : store.Holds id := by
  obtain ⟨found, hFound, hActive⟩ := h
  rw [KeyMap.lookup_insert_eq_ite] at hFound
  split at hFound
  · next hSame =>
      obtain rfl := Option.some.inj hFound
      exact hRecord hActive hSame
  · exact ⟨found, hFound, hActive⟩

theorem holds_of_call (hRenews : ¬ call.Renews id) (h : (store.call now call).1.Holds id) :
    store.Holds id := by
  cases call with
  | storeCredential metadata secret =>
      exact holds_of_insert (fun _ hSame => absurd hSame.symm hRenews) h
  | retrieveSecret key =>
      simp only [OsCredentialStore.call, retrieveSecret] at h
      split at h
      · exact h
      · next record hRecord =>
          split at h
          · exact h
          · split at h
            · exact h
            · refine holds_of_insert ?_ h
              exact fun hActive hSame => ⟨record, hSame ▸ hRecord, hActive⟩
  | updateCredential key secret metadata =>
      simp only [OsCredentialStore.call, updateCredential] at h
      split at h
      · exact h
      · exact holds_of_insert (fun _ hSame => absurd hSame.symm hRenews) h
  | revokeCredential key =>
      simp only [OsCredentialStore.call, revokeCredential] at h
      split at h
      · exact h
      · exact holds_of_insert (fun hActive _ => by cases hActive) h
  | deleteCredential key =>
      simp only [OsCredentialStore.call, deleteCredential] at h
      split at h
      · exact h
      · obtain ⟨found, hFound, hActive⟩ := h
        by_cases hSame : id = key
        · rw [hSame, AList.lookup_erase] at hFound
          cases hFound
        · exact ⟨found, (AList.lookup_erase_ne hSame).symm.trans hFound, hActive⟩
  | rotateCredentialPlaceholder key =>
      simp only [OsCredentialStore.call, rotateCredentialPlaceholder] at h
      split at h
      · exact h
      · next record hRecord =>
          split at h
          · exact h
          · next marked hMarked =>
              obtain ⟨_, _, rfl⟩ := Option.map_eq_some_iff.mp hMarked
              refine holds_of_insert ?_ h
              exact fun hActive hSame => ⟨record, hSame ▸ hRecord, hActive⟩

theorem not_holds_of_ends (h : call.Ends id) : ¬ (store.call now call).1.Holds id := by
  rintro ⟨found, hFound, hActive⟩
  rcases h with rfl | rfl
  · simp only [OsCredentialStore.call, revokeCredential] at hFound
    split at hFound
    · next hNone =>
        rw [hNone] at hFound
        cases hFound
    · rw [AList.lookup_insert] at hFound
      rw [← Option.some.inj hFound] at hActive
      cases hActive
  · simp only [OsCredentialStore.call, deleteCredential] at hFound
    split at hFound
    · next hNone =>
        rw [hNone] at hFound
        cases hFound
    · rw [AList.lookup_erase] at hFound
      cases hFound

theorem not_retrieved (h : ¬ store.Holds id) (secret : String) :
    (store.retrieveSecret id now).2 ≠ .ok (.secret secret) := by
  unfold retrieveSecret
  split
  · exact fun hOk => by cases hOk
  · next metadata hFound =>
      rw [if_pos fun hActive => h ⟨metadata, hFound, hActive⟩]
      exact fun hOk => by cases hOk

end OsCredentialStore

namespace InsecureDevCredentialStore

def Holds (store : InsecureDevCredentialStore) (id : Uuid) : Prop :=
  ∃ record, store.records.lookup id = some record ∧ record.metadata.status = .active

variable {store : InsecureDevCredentialStore} {id : Uuid} {now : DateTime} {call : CredentialCall}

theorem holds_of_put {key : Uuid} {record : CredentialRecord}
    (hRecord : record.metadata.status = .active → id = key → store.Holds id)
    (h : (store.put record key).Holds id) : store.Holds id := by
  obtain ⟨found, hFound, hActive⟩ := h
  rw [put, KeyMap.lookup_insert_eq_ite] at hFound
  split at hFound
  · next hSame =>
      obtain rfl := Option.some.inj hFound
      exact hRecord hActive hSame
  · exact ⟨found, hFound, hActive⟩

theorem holds_of_revoke {key : Uuid} (h : (store.revokeCredential key now).1.Holds id) :
    store.Holds id := by
  unfold revokeCredential at h
  split at h
  · exact h
  · exact holds_of_put (fun hActive _ => by cases hActive) h

theorem holds_of_call (hRenews : ¬ call.Renews id) (h : (store.call now call).1.Holds id) :
    store.Holds id := by
  cases call with
  | storeCredential metadata secret =>
      exact holds_of_put (fun _ hSame => absurd hSame.symm hRenews) h
  | retrieveSecret key =>
      simp only [InsecureDevCredentialStore.call, retrieveSecret] at h
      split at h
      · exact h
      · next record hRecord =>
          refine holds_of_put ?_ h
          exact fun hActive hSame => ⟨record, hSame ▸ hRecord, hActive⟩
  | updateCredential key secret metadata =>
      simp only [InsecureDevCredentialStore.call, updateCredential] at h
      split at h
      · exact h
      · exact holds_of_put (fun _ hSame => absurd hSame.symm hRenews) h
  | revokeCredential key => exact holds_of_revoke h
  | deleteCredential key => exact holds_of_revoke h
  | rotateCredentialPlaceholder key =>
      simp only [InsecureDevCredentialStore.call, rotateCredentialPlaceholder] at h
      split at h
      · exact h
      · next record hRecord =>
          split at h
          · refine holds_of_put ?_ h
            exact fun hActive hSame => ⟨record, hSame ▸ hRecord, hActive⟩
          · next marked hMarked =>
              obtain ⟨_, _, rfl⟩ := Option.map_eq_some_iff.mp hMarked
              refine holds_of_put ?_ h
              exact fun hActive hSame => ⟨record, hSame ▸ hRecord, hActive⟩

theorem not_holds_of_ends (h : call.Ends id) : ¬ (store.call now call).1.Holds id := by
  have hRevoked : ¬ (store.revokeCredential id now).1.Holds id := by
    rintro ⟨found, hFound, hActive⟩
    unfold revokeCredential at hFound
    split at hFound
    · next hNone =>
        rw [hNone] at hFound
        cases hFound
    · dsimp only [put] at hFound
      rw [AList.lookup_insert] at hFound
      rw [← Option.some.inj hFound] at hActive
      cases hActive
  rcases h with rfl | rfl
  · exact hRevoked
  · exact hRevoked

end InsecureDevCredentialStore

/-- A call on both stores, which look at their own clocks. -/
structure BackendCall where
  call : CredentialCall
  osNow : DateTime
  devNow : DateTime

namespace Backends

def after (backends : Backends) (label : BackendCall) : Backends where
  os := (backends.os.call label.osNow label.call).1
  dev := (backends.dev.call label.devNow label.call).1

/-- The calls that are common to both stores. -/
def commonCalls : System Backends BackendCall where
  step backends label next := backends.Common label.call ∧ next = backends.after label

variable {backends next : Backends} {labels : List BackendCall} {id : Uuid}

theorem agree_of_run (run : Run commonCalls {} labels backends) : backends.Agree := by
  refine run.invariant (fun _ _ _ h hStep => ?_) fun _ => .neither
  rw [hStep.2]
  exact (h.follows hStep.1).agree

/-- A credential that neither store holds stays so until it is renewed. -/
theorem not_held_of_run {final : Backends} (run : Run commonCalls next labels final)
    (hRenews : ∀ label ∈ labels, ¬ label.call.Renews id)
    (h : ¬ next.os.Holds id ∧ ¬ next.dev.Holds id) :
    ¬ final.os.Holds id ∧ ¬ final.dev.Holds id := by
  induction run with
  | nil => exact h
  | snoc prior last ih =>
      obtain ⟨hOs, hDev⟩ := ih fun label hLabel => hRenews label (List.mem_append_left _ hLabel)
      have hLast := hRenews _ (List.mem_append_right _ List.mem_cons_self)
      rw [last.2]
      exact ⟨fun hHolds => hOs (OsCredentialStore.holds_of_call hLast hHolds),
        fun hHolds => hDev (InsecureDevCredentialStore.holds_of_call hLast hHolds)⟩

theorem retrieved_iff (now : DateTime) :
    (∃ secret, (backends.os.retrieveSecret id now).2 = .ok (.secret secret)) ↔
      backends.os.testCredential id = true := by
  unfold OsCredentialStore.retrieveSecret OsCredentialStore.testCredential
  cases hOs : backends.os.records.lookup id with
  | none => simp
  | some metadata =>
      dsimp only
      by_cases hActive : metadata.status = .active
      · rw [if_neg (not_not.mpr hActive), if_neg (not_not.mpr hActive)]
        cases backends.os.keychain.lookup id <;> simp
      · rw [if_pos hActive, if_pos hActive]
        simp

theorem retrieved_iff_of_common (now : DateTime)
    (hCommon : backends.Common (.retrieveSecret id)) :
    (∃ secret, (backends.dev.retrieveSecret id now).2 = .ok (.secret secret)) ↔
      backends.dev.testCredential id = true := by
  unfold InsecureDevCredentialStore.retrieveSecret InsecureDevCredentialStore.testCredential
  cases hDev : backends.dev.records.lookup id with
  | none => simp
  | some record => simp [hCommon record hDev]

def midnight : DateTime := Crates.epoch

def lookupAccount : CredentialMetadata where
  credentialId := 1
  providerId := "qrz"
  accountId := "KE8YGW"
  label := "QRZ"
  createdAt := midnight
  updatedAt := midnight

def atMidnight (call : CredentialCall) : BackendCall := ⟨call, midnight, midnight⟩

def storedAccount : Backends := after {} (atMidnight (.storeCredential lookupAccount "key"))

def revokedAccount : Backends := storedAccount.after (atMidnight (.revokeCredential 1))

def deletedAccount : Backends := storedAccount.after (atMidnight (.deleteCredential 1))

def textAccount : Backends :=
  after {} (atMidnight (.storeCredential { lookupAccount with metadata := .string "" } "key"))

end Backends
end HamLogger.CredentialBackends
