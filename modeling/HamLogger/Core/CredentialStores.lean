import HamLogger.Core.Bus
import HamLogger.Library.KeyMap
import HamLogger.Library.Transition

/-! The two credential stores of a client: the one over the keychain of the
operating system, and the plaintext one for development. Both keep a record of
each credential. The first keeps the secrets in the keychain, the second in
the records. Files are written without a fault here, and so is the keychain. -/
namespace HamLogger.CredentialBackends

inductive CredentialStatus where
  | active | revoked | missing | invalid
  deriving DecidableEq

structure CredentialMetadata where
  credentialId : Uuid
  providerId : String
  accountId : String
  operatorId : Option Uuid := none
  label : String
  createdAt : DateTime
  updatedAt : DateTime
  lastUsedAt : Option DateTime := none
  status : CredentialStatus := .active
  metadata : Value := .object []
  deriving DecidableEq

def CredentialMetadata.sanitized (metadata : CredentialMetadata) : CredentialMetadata :=
  { metadata with metadata := redactPayload metadata.metadata }

inductive CredentialError where
  | notFound (credentialId : Uuid)
  | backendCommand
  deriving DecidableEq

inductive CredentialCall where
  | storeCredential (metadata : CredentialMetadata) (secret : String)
  | retrieveSecret (credentialId : Uuid)
  | updateCredential (credentialId : Uuid) (secret : String) (metadata : Option Value)
  | revokeCredential (credentialId : Uuid)
  | deleteCredential (credentialId : Uuid)
  | rotateCredentialPlaceholder (credentialId : Uuid)

inductive CredentialAnswer where
  | metadata (metadata : CredentialMetadata)
  | secret (secret : String)
  | done
  deriving DecidableEq

/-- What a call leaves of a store, and what it answers. -/
abbrev Answered (Store : Type) := Store × Outcome CredentialError CredentialAnswer

/-- The metadata of a record after an update that may carry other metadata. -/
def updatedMetadata (record : CredentialMetadata) (metadata : Option Value) (now : DateTime) :
    CredentialMetadata :=
  { record with
    metadata := (metadata.map redactPayload).getD record.metadata
    status := .active
    updatedAt := now }

/-- Assigning `record.metadata["rotation_status"]`. -/
def markRotation (record : CredentialMetadata) (status : String) (now : DateTime) :
    Option CredentialMetadata :=
  (record.metadata.set "rotation_status" (.string status)).map fun metadata =>
    { record with metadata := metadata, updatedAt := now }

structure OsCredentialStore where
  records : KeyMap Uuid CredentialMetadata := ∅
  keychain : KeyMap Uuid String := ∅

namespace OsCredentialStore

def put (store : OsCredentialStore) (record : CredentialMetadata) (credentialId : Uuid) :
    OsCredentialStore :=
  { store with records := store.records.insert credentialId record }

def storeCredential (store : OsCredentialStore) (metadata : CredentialMetadata)
    (secret : String) (now : DateTime) : Answered OsCredentialStore :=
  let metadata := { metadata.sanitized with status := .active, updatedAt := now }
  ({ records := store.records.insert metadata.credentialId metadata
     keychain := store.keychain.insert metadata.credentialId secret }, .ok (.metadata metadata))

def retrieveSecret (store : OsCredentialStore) (credentialId : Uuid) (now : DateTime) :
    Answered OsCredentialStore :=
  match store.records.lookup credentialId with
  | none => (store, .error (.error (.notFound credentialId)))
  | some metadata =>
      if metadata.status ≠ .active then (store, .error (.error (.notFound credentialId)))
      else
        match store.keychain.lookup credentialId with
        | none => (store, .error (.error .backendCommand))
        | some secret =>
            (store.put { metadata with lastUsedAt := some now } credentialId, .ok (.secret secret))

def updateCredential (store : OsCredentialStore) (credentialId : Uuid) (secret : String)
    (metadata : Option Value) (now : DateTime) : Answered OsCredentialStore :=
  match store.records.lookup credentialId with
  | none => (store, .error (.error (.notFound credentialId)))
  | some record =>
      let record := updatedMetadata record metadata now
      ({ records := store.records.insert credentialId record
         keychain := store.keychain.insert credentialId secret }, .ok (.metadata record))

def revokeCredential (store : OsCredentialStore) (credentialId : Uuid) (now : DateTime) :
    Answered OsCredentialStore :=
  match store.records.lookup credentialId with
  | none => (store, .error (.error (.notFound credentialId)))
  | some record =>
      let record := { record with status := .revoked, updatedAt := now }
      ({ records := store.records.insert credentialId record
         keychain := store.keychain.erase credentialId }, .ok (.metadata record))

def deleteCredential (store : OsCredentialStore) (credentialId : Uuid) :
    Answered OsCredentialStore :=
  match store.records.lookup credentialId with
  | none => (store, .error (.error (.notFound credentialId)))
  | some _ =>
      ({ records := store.records.erase credentialId
         keychain := store.keychain.erase credentialId }, .ok .done)

def rotateCredentialPlaceholder (store : OsCredentialStore) (credentialId : Uuid)
    (now : DateTime) : Answered OsCredentialStore :=
  match store.records.lookup credentialId with
  | none => (store, .error (.error (.notFound credentialId)))
  | some record =>
      match markRotation record "rotation_required" now with
      | none => (store, .error .panic)
      | some record => (store.put record credentialId, .ok (.metadata record.sanitized))

def testCredential (store : OsCredentialStore) (credentialId : Uuid) : Bool :=
  match store.records.lookup credentialId with
  | none => false
  | some metadata =>
      if metadata.status ≠ .active then false else (store.keychain.lookup credentialId).isSome

def call (store : OsCredentialStore) (now : DateTime) : CredentialCall → Answered OsCredentialStore
  | .storeCredential metadata secret => store.storeCredential metadata secret now
  | .retrieveSecret credentialId => store.retrieveSecret credentialId now
  | .updateCredential credentialId secret metadata =>
      store.updateCredential credentialId secret metadata now
  | .revokeCredential credentialId => store.revokeCredential credentialId now
  | .deleteCredential credentialId => store.deleteCredential credentialId
  | .rotateCredentialPlaceholder credentialId =>
      store.rotateCredentialPlaceholder credentialId now

end OsCredentialStore

structure CredentialRecord where
  metadata : CredentialMetadata
  secret : String
  deriving DecidableEq

structure InsecureDevCredentialStore where
  records : KeyMap Uuid CredentialRecord := ∅

namespace InsecureDevCredentialStore

def put (store : InsecureDevCredentialStore) (record : CredentialRecord) (credentialId : Uuid) :
    InsecureDevCredentialStore where
  records := store.records.insert credentialId record

def storeCredential (store : InsecureDevCredentialStore) (metadata : CredentialMetadata)
    (secret : String) (now : DateTime) : Answered InsecureDevCredentialStore :=
  let metadata := { metadata.sanitized with updatedAt := now }
  (store.put ⟨metadata, secret⟩ metadata.credentialId, .ok (.metadata metadata))

def retrieveSecret (store : InsecureDevCredentialStore) (credentialId : Uuid) (now : DateTime) :
    Answered InsecureDevCredentialStore :=
  match store.records.lookup credentialId with
  | none => (store, .error (.error (.notFound credentialId)))
  | some record =>
      (store.put { record with metadata := { record.metadata with lastUsedAt := some now } }
        credentialId, .ok (.secret record.secret))

def updateCredential (store : InsecureDevCredentialStore) (credentialId : Uuid) (secret : String)
    (metadata : Option Value) (now : DateTime) : Answered InsecureDevCredentialStore :=
  match store.records.lookup credentialId with
  | none => (store, .error (.error (.notFound credentialId)))
  | some record =>
      let metadata := updatedMetadata record.metadata metadata now
      (store.put ⟨metadata, secret⟩ credentialId, .ok (.metadata metadata))

def revokeCredential (store : InsecureDevCredentialStore) (credentialId : Uuid)
    (now : DateTime) : Answered InsecureDevCredentialStore :=
  match store.records.lookup credentialId with
  | none => (store, .error (.error (.notFound credentialId)))
  | some record =>
      let metadata := { record.metadata with status := .revoked, updatedAt := now }
      (store.put { record with metadata := metadata } credentialId, .ok (.metadata metadata))

/-- The trait's own deletion, which revokes. -/
def deleteCredential (store : InsecureDevCredentialStore) (credentialId : Uuid)
    (now : DateTime) : Answered InsecureDevCredentialStore :=
  let (store, answer) := store.revokeCredential credentialId now
  (store, answer.map fun _ => .done)

/-- A panic comes after the time was set. -/
def rotateCredentialPlaceholder (store : InsecureDevCredentialStore) (credentialId : Uuid)
    (now : DateTime) : Answered InsecureDevCredentialStore :=
  match store.records.lookup credentialId with
  | none => (store, .error (.error (.notFound credentialId)))
  | some record =>
      match markRotation record.metadata "rotation_planned" now with
      | none =>
          (store.put { record with metadata := { record.metadata with updatedAt := now } }
            credentialId, .error .panic)
      | some metadata =>
          (store.put { record with metadata := metadata } credentialId, .ok (.metadata metadata))

def testCredential (store : InsecureDevCredentialStore) (credentialId : Uuid) : Bool :=
  (store.records.lookup credentialId).any fun record => record.metadata.status = .active

def call (store : InsecureDevCredentialStore) (now : DateTime) :
    CredentialCall → Answered InsecureDevCredentialStore
  | .storeCredential metadata secret => store.storeCredential metadata secret now
  | .retrieveSecret credentialId => store.retrieveSecret credentialId now
  | .updateCredential credentialId secret metadata =>
      store.updateCredential credentialId secret metadata now
  | .revokeCredential credentialId => store.revokeCredential credentialId now
  | .deleteCredential credentialId => store.deleteCredential credentialId now
  | .rotateCredentialPlaceholder credentialId =>
      store.rotateCredentialPlaceholder credentialId now

end InsecureDevCredentialStore
end HamLogger.CredentialBackends
