import HamLogger.Core.Event
import HamLogger.Library.KeyMap
import HamLogger.Library.UpdateFirst
import Mathlib.Data.List.Sort
import Mathlib.Data.Prod.Lex

/-! The mutations a client queues while it is offline: their envelopes, the
queue file, and the changes the queue makes to one mutation. -/
namespace HamLogger

def offlineMutationSchemaVersion : UInt32 := 1

def offlineQueueFileVersion : UInt32 := 1

def offlineQueueLegacyV02FileVersion : UInt32 := 0

def defaultMaxAttempts : UInt32 := 8

def defaultBackoffSeconds : UInt64 := 5

def defaultMaxBackoffSeconds : UInt64 := 15 * 60

/-- `u64::saturating_add(1)`. -/
def saturatingSucc (value : UInt64) : UInt64 :=
  if value = 18446744073709551615 then value else value + 1

theorem lt_saturatingSucc {value : UInt64} (h : value ≠ 18446744073709551615) :
    value < saturatingSucc value := by
  rw [saturatingSucc, if_neg h]
  have hBound : value.toNat < 2 ^ 64 := value.toNat_lt
  have hNot : value.toNat ≠ 18446744073709551615 := fun hEq => h (UInt64.toNat_inj.mp hEq)
  rw [UInt64.lt_iff_toNat_lt, UInt64.toNat_add]
  show value.toNat < (value.toNat + 1) % 2 ^ 64
  omega

theorem saturatingSucc_ne_zero (value : UInt64) : saturatingSucc value ≠ 0 := by
  by_cases h : value = 18446744073709551615
  · rw [saturatingSucc, if_pos h, h]
    decide
  · intro hZero
    have hLt := lt_saturatingSucc h
    rw [hZero, UInt64.lt_iff_toNat_lt] at hLt
    exact absurd hLt (Nat.not_lt_zero _)

instance uint64LawfulOrderMax : Std.LawfulOrderMax UInt64 where
  max_le_iff a b c := by
    have hMax : max a b = if a ≤ b then b else a := rfl
    rw [hMax]
    split <;> simp only [UInt64.le_iff_toNat_le] at * <;> omega
  max_eq_or a b := by
    have hMax : max a b = if a ≤ b then b else a := rfl
    rw [hMax]
    split <;> simp

/-- An I/O error or a decoding error wraps an error of another library, which
is left out. -/
inductive OfflineQueueError where
  | io
  | serde
  | unsupportedFileVersion (version : UInt32)
  | unsupportedMutationSchema (operationId : Uuid) (schemaVersion : UInt32)
  | invalidOperationType (operationId : Uuid)
  | invalidIdempotencyKey (operationId : Uuid)
  | invalidSequence (operationId : Uuid) (sequence : UInt64)
  | unsupportedDependencySchema (operationId : Uuid) (schemaVersion : UInt32)
  | duplicateSequence (logbookId : Uuid) (sequence : UInt64)
  | mutationNotFound (operationId : Uuid)
  deriving DecidableEq

inductive OfflineMutationStatus where
  | pending | sending | retrying | blocked | failed | accepted | userActionRequired
  deriving DecidableEq

def OfflineMutationStatus.isDraining : OfflineMutationStatus → Bool
  | .pending | .retrying => true
  | _ => false

structure OfflineMutationDependency where
  operationId : Option Uuid := none
  eventHash : Option String := none
  minimumSchemaVersion : Option UInt32 := none
  deriving DecidableEq

structure OfflineMutationEnvelope where
  schemaVersion : UInt32
  operationId : Uuid
  correlationId : Uuid
  clientId : Uuid
  deviceId : Uuid
  logbookId : Uuid
  entityId : Option Uuid
  sequence : UInt64
  operationType : String
  idempotencyKey : String
  dependencies : List OfflineMutationDependency
  payload : Value
  status : OfflineMutationStatus
  attempts : UInt32
  maxAttempts : UInt32
  backoffSeconds : UInt64
  maxBackoffSeconds : UInt64
  nextAttemptAt : Option DateTime
  createdAt : DateTime
  updatedAt : DateTime
  officialEventId : Option Uuid
  localEventHash : Option String
  acceptedAt : Option DateTime
  failureReason : Option String
  lastErrorCode : Option String
  deriving DecidableEq

structure OfflineMutationInput where
  logbookId : Uuid
  deviceId : Uuid
  clientId : Uuid
  operationType : String
  payload : Value
  entityId : Option Uuid := none
  idempotencyKey : Option String := none
  operationId : Option Uuid := none
  correlationId : Option Uuid := none
  dependencies : List OfflineMutationDependency := []
  deriving DecidableEq

namespace OfflineMutationEnvelope

/-- A new envelope. The identifier is random where the input names none. -/
def new [UuidCrate] (input : OfflineMutationInput) (sequence : UInt64) (now : DateTime)
    (random : Uuid) : OfflineMutationEnvelope :=
  let operationId := input.operationId.getD random
  { schemaVersion := offlineMutationSchemaVersion
    operationId := operationId
    correlationId := input.correlationId.getD operationId
    clientId := input.clientId
    deviceId := input.deviceId
    logbookId := input.logbookId
    entityId := input.entityId
    sequence := sequence
    operationType := input.operationType
    idempotencyKey := input.idempotencyKey.getD
      (UuidCrate.display input.logbookId ++ ":" ++ UuidCrate.display input.deviceId ++ ":" ++
        Nat.repr sequence.toNat ++ ":" ++ UuidCrate.display operationId)
    dependencies := input.dependencies
    payload := input.payload
    status := .pending
    attempts := 0
    maxAttempts := defaultMaxAttempts
    backoffSeconds := defaultBackoffSeconds
    maxBackoffSeconds := defaultMaxBackoffSeconds
    nextAttemptAt := none
    createdAt := now
    updatedAt := now
    officialEventId := none
    localEventHash := none
    acceptedAt := none
    failureReason := none
    lastErrorCode := none }

/-- The first dependency on a schema version that is not supported. -/
def unsupportedDependency (dependencies : List OfflineMutationDependency) : Option UInt32 :=
  dependencies.findSome? fun dependency =>
    dependency.minimumSchemaVersion.filter fun version => offlineMutationSchemaVersion < version

def validate (mutation : OfflineMutationEnvelope) : Except OfflineQueueError Unit :=
  if mutation.schemaVersion ≠ offlineMutationSchemaVersion then
    .error (.unsupportedMutationSchema mutation.operationId mutation.schemaVersion)
  else if trim mutation.operationType = "" then
    .error (.invalidOperationType mutation.operationId)
  else if trim mutation.idempotencyKey = "" then
    .error (.invalidIdempotencyKey mutation.operationId)
  else if mutation.sequence = 0 then
    .error (.invalidSequence mutation.operationId mutation.sequence)
  else match unsupportedDependency mutation.dependencies with
    | some version => .error (.unsupportedDependencySchema mutation.operationId version)
    | none => .ok ()

def isReadyAt (mutation : OfflineMutationEnvelope) (now : DateTime) : Bool :=
  mutation.status.isDraining &&
    match mutation.nextAttemptAt with
    | some nextAttempt => decide (nextAttempt ≤ now)
    | none => true

def attachLocalEvent (mutation : OfflineMutationEnvelope) (event : CoreEventEnvelope)
    (now : DateTime) : OfflineMutationEnvelope :=
  { mutation with
    officialEventId := some event.eventId
    localEventHash := some event.eventHash
    entityId := mutation.entityId.or event.entityId
    updatedAt := now
    failureReason := none
    lastErrorCode := none
    status := match mutation.status with
      | .blocked | .failed | .userActionRequired => .pending
      | status => status }

/-- The delay before the next attempt, in seconds. A delay from 2^63 on
becomes negative by the cast to a signed integer. -/
def retryDelay (mutation : OfflineMutationEnvelope) : Int :=
  let exponent := min (mutation.attempts.toNat - 1) 16
  let backoff := min (mutation.backoffSeconds.toNat * 2 ^ exponent) (2 ^ 64 - 1)
  let seconds := max (min backoff mutation.maxBackoffSeconds.toNat) 1
  if seconds < 2 ^ 63 then seconds else (seconds : Int) - 2 ^ 64

/-- The order in which a queue file lists its mutations. -/
def sortKey (mutation : OfflineMutationEnvelope) : Nat ×ₗ Nat ×ₗ Int ×ₗ Nat :=
  toLex (mutation.logbookId.toNat, toLex (mutation.sequence.toNat,
    toLex (mutation.createdAt.nanos, mutation.operationId.toNat)))

/-- What the check of a file allows only once. -/
def sequenceKey (mutation : OfflineMutationEnvelope) : Uuid × UInt64 :=
  (mutation.logbookId, mutation.sequence)

/-- What no queue operation may change in a mutation. -/
def identity (mutation : OfflineMutationEnvelope) :
    Uuid × UInt64 × Uuid × String × String × Value × DateTime :=
  (mutation.logbookId, mutation.sequence, mutation.operationId, mutation.operationType,
    mutation.idempotencyKey, mutation.payload, mutation.createdAt)

end OfflineMutationEnvelope

structure OfflineQueueFile where
  version : UInt32 := offlineQueueFileVersion
  nextSequenceByLogbook : KeyMap Uuid UInt64 := ∅
  mutations : List OfflineMutationEnvelope := []
  deriving DecidableEq

namespace OfflineQueueFile

/-- The check of the mutations, with the sequences seen so far. -/
def validateMutations : List (Uuid × UInt64) → List OfflineMutationEnvelope →
    Except OfflineQueueError Unit
  | _, [] => .ok ()
  | seen, mutation :: rest =>
      match mutation.validate with
      | .error error => .error error
      | .ok () =>
          if mutation.sequenceKey ∈ seen then
            .error (.duplicateSequence mutation.logbookId mutation.sequence)
          else validateMutations (mutation.sequenceKey :: seen) rest

theorem validateMutations_eq_ok_iff (seen : List (Uuid × UInt64))
    (mutations : List OfflineMutationEnvelope) :
    validateMutations seen mutations = .ok () ↔
      (∀ mutation ∈ mutations, mutation.validate = .ok ()) ∧
      (mutations.map OfflineMutationEnvelope.sequenceKey).Nodup ∧
      ∀ mutation ∈ mutations, mutation.sequenceKey ∉ seen := by
  induction mutations generalizing seen with
  | nil => simp [validateMutations]
  | cons mutation rest ih =>
      cases hValid : mutation.validate with
      | error error => simp [validateMutations, hValid]
      | ok valid =>
          by_cases hSeen : mutation.sequenceKey ∈ seen
          · simp [validateMutations, hValid, hSeen]
          · simp only [validateMutations, hValid, hSeen, if_false, ih, List.map_cons,
              List.nodup_cons, List.mem_cons, List.mem_map]
            grind

def validate (file : OfflineQueueFile) : Except OfflineQueueError Unit :=
  if file.version ≠ offlineQueueFileVersion then
    .error (.unsupportedFileVersion file.version)
  else validateMutations [] file.mutations

theorem validate_eq_ok_iff (file : OfflineQueueFile) :
    file.validate = .ok () ↔ file.version = offlineQueueFileVersion ∧
      (∀ mutation ∈ file.mutations, mutation.validate = .ok ()) ∧
      (file.mutations.map OfflineMutationEnvelope.sequenceKey).Nodup := by
  unfold validate
  by_cases hVersion : file.version = offlineQueueFileVersion
  · rw [if_neg (not_not.mpr hVersion), validateMutations_eq_ok_iff]
    simp [hVersion]
  · simp [hVersion]

def sorted (file : OfflineQueueFile) : OfflineQueueFile :=
  { file with
    mutations := file.mutations.insertionSort fun left right => left.sortKey ≤ right.sortKey }

theorem perm_sorted (file : OfflineQueueFile) : file.sorted.mutations.Perm file.mutations :=
  List.perm_insertionSort _ _

@[simp] theorem mem_sorted (file : OfflineQueueFile) (mutation : OfflineMutationEnvelope) :
    mutation ∈ file.sorted.mutations ↔ mutation ∈ file.mutations :=
  file.perm_sorted.mem_iff

@[simp] theorem version_sorted (file : OfflineQueueFile) : file.sorted.version = file.version := rfl

@[simp] theorem nextSequenceByLogbook_sorted (file : OfflineQueueFile) :
    file.sorted.nextSequenceByLogbook = file.nextSequenceByLogbook := rfl

theorem sorted_sorted (file : OfflineQueueFile) : file.sorted.sorted = file.sorted := by
  have hTotal : Std.Total fun left right : OfflineMutationEnvelope =>
      left.sortKey ≤ right.sortKey := ⟨fun left right => le_total left.sortKey right.sortKey⟩
  have hTrans : IsTrans OfflineMutationEnvelope fun left right =>
      left.sortKey ≤ right.sortKey := ⟨fun _ _ _ => le_trans⟩
  have hOrdered := List.pairwise_insertionSort
    (fun left right : OfflineMutationEnvelope => left.sortKey ≤ right.sortKey) file.mutations
  have hSame := List.Pairwise.insertionSort_eq hOrdered
  unfold sorted
  simp only [hSame]

/-- Sorting changes nothing that the check looks at. -/
theorem validate_sorted (file : OfflineQueueFile) :
    file.sorted.validate = .ok () ↔ file.validate = .ok () := by
  rw [validate_eq_ok_iff, validate_eq_ok_iff]
  have hKeys := file.perm_sorted.map OfflineMutationEnvelope.sequenceKey
  rw [hKeys.nodup_iff]
  simp

def nextSequence (file : OfflineQueueFile) (logbookId : Uuid) : UInt64 :=
  let stored := file.nextSequenceByLogbook.lookup logbookId
  let derived := (file.mutations.filter fun mutation => mutation.logbookId = logbookId).map
    fun mutation => saturatingSucc mutation.sequence
  ((stored.toList ++ derived).max?).getD 1

/-- The next sequence reaches beyond every sequence of the logbook, as far as
the numbers go. -/
theorem saturatingSucc_le_nextSequence {file : OfflineQueueFile}
    {mutation : OfflineMutationEnvelope} (hMem : mutation ∈ file.mutations) :
    saturatingSucc mutation.sequence ≤ file.nextSequence mutation.logbookId := by
  have hSucc : saturatingSucc mutation.sequence ∈
      (file.nextSequenceByLogbook.lookup mutation.logbookId).toList ++
        (file.mutations.filter fun other => other.logbookId = mutation.logbookId).map
          fun other => saturatingSucc other.sequence := by
    refine List.mem_append_right _ (List.mem_map.mpr ⟨mutation, ?_, rfl⟩)
    simp [hMem]
  obtain ⟨next, hNext⟩ := Option.isSome_iff_exists.mp (List.isSome_max?_of_mem hSucc)
  have hLe := (List.max?_eq_some_iff.mp hNext).2 _ hSucc
  rw [nextSequence, hNext, Option.getD_some]
  exact hLe

/-- The next sequence lies above every sequence of the logbook, unless one of
them is the largest number there is. -/
theorem lt_nextSequence {file : OfflineQueueFile} {mutation : OfflineMutationEnvelope}
    (hMem : mutation ∈ file.mutations) (hBelow : mutation.sequence ≠ 18446744073709551615) :
    mutation.sequence < file.nextSequence mutation.logbookId :=
  UInt64.lt_of_lt_of_le (lt_saturatingSucc hBelow) (saturatingSucc_le_nextSequence hMem)

/-- Next to the largest number there is no room for another one. -/
theorem nextSequence_of_last {file : OfflineQueueFile} {mutation : OfflineMutationEnvelope}
    (hMem : mutation ∈ file.mutations) (hLast : mutation.sequence = 18446744073709551615) :
    file.nextSequence mutation.logbookId = mutation.sequence := by
  have hLe := saturatingSucc_le_nextSequence hMem
  rw [saturatingSucc, if_pos hLast, UInt64.le_iff_toNat_le] at hLe
  have hBound := (file.nextSequence mutation.logbookId).toNat_lt
  have hTop : mutation.sequence.toNat = 18446744073709551615 := by
    rw [hLast]
    rfl
  apply UInt64.toNat_inj.mp
  omega

/-- The next sequence is never zero where no counter is. -/
theorem nextSequence_ne_zero {file : OfflineQueueFile} {logbookId : Uuid}
    (hCounter : ∀ next, file.nextSequenceByLogbook.lookup logbookId = some next → next ≠ 0) :
    file.nextSequence logbookId ≠ 0 := by
  unfold nextSequence
  cases hMax : ((file.nextSequenceByLogbook.lookup logbookId).toList ++
      (file.mutations.filter fun mutation => mutation.logbookId = logbookId).map
        fun mutation => saturatingSucc mutation.sequence).max? with
  | none => simp [hMax]
  | some next =>
      have hMem := (List.max?_eq_some_iff.mp hMax).1
      simp only [hMax, Option.getD_some]
      rcases List.mem_append.mp hMem with hStored | hDerived
      · exact hCounter next (by simpa using hStored)
      · obtain ⟨mutation, _, rfl⟩ := List.mem_map.mp hDerived
        exact saturatingSucc_ne_zero mutation.sequence

def findMutation (file : OfflineQueueFile) (operationId : Uuid) :
    Option OfflineMutationEnvelope :=
  file.mutations.find? fun mutation => mutation.operationId = operationId

/-- Write through the reference that the search for an operation returns. -/
def setMutation (file : OfflineQueueFile) (operationId : Uuid)
    (mutation : OfflineMutationEnvelope) : OfflineQueueFile :=
  { file with
    mutations := updateFirst (fun mutation => mutation.operationId = operationId)
      (fun _ => mutation) file.mutations }

end OfflineQueueFile

structure OfflineQueueRecoveryReport where
  recoveredInterruptedWrites : Nat := 0
  initializedEmptyQueue : Bool := false
  migratedV02AbsentQueue : Bool := false
  migratedV02File : Bool := false
  migratedLegacyMutations : Nat := 0
  promotedInterruptedAtomicWrite : Bool := false
  removedStaleTempFile : Bool := false
  quarantinedCorruptFile : Bool := false
  deriving DecidableEq

structure OfflinePushBatch where
  logbookId : Uuid
  operationIds : List Uuid
  events : List CoreEventEnvelope
  missingLocalEventOperationIds : List Uuid
  deriving DecidableEq

structure OfflineQueueHealth where
  total : Nat
  pending : Nat
  sending : Nat
  retrying : Nat
  blocked : Nat
  failed : Nat
  accepted : Nat
  userActionRequired : Nat
  readyToSend : Nat
  oldestPendingAt : Option DateTime
  newestUpdateAt : Option DateTime
  deriving DecidableEq

structure OfflineQueueSnapshot where
  queueSchemaVersion : UInt32
  mutationSchemaVersion : UInt32
  health : OfflineQueueHealth
  mutations : List OfflineMutationEnvelope
  deriving DecidableEq

def dependenciesSatisfied (mutation : OfflineMutationEnvelope) (acceptedOperations : List Uuid)
    (acceptedHashes : List String) : Bool :=
  mutation.dependencies.all fun dependency =>
    dependency.operationId.all (· ∈ acceptedOperations) &&
    dependency.eventHash.all (· ∈ acceptedHashes) &&
    dependency.minimumSchemaVersion.all (· ≤ offlineMutationSchemaVersion)

/-- The loop over the mutations of a logbook in order: accepted ones are
skipped, and the first one that is not ready ends the loop. -/
def readyLoop (now : DateTime) (acceptedOperations : List Uuid) (acceptedHashes : List String) :
    List OfflineMutationEnvelope → List OfflineMutationEnvelope
  | [] => []
  | mutation :: rest =>
      if mutation.status = .accepted then readyLoop now acceptedOperations acceptedHashes rest
      else if mutation.isReadyAt now = false then []
      else if dependenciesSatisfied mutation acceptedOperations acceptedHashes = false then []
      else mutation :: readyLoop now acceptedOperations acceptedHashes rest

def readyMutations (mutations : List OfflineMutationEnvelope) (logbookId : Uuid)
    (now : DateTime) : List OfflineMutationEnvelope :=
  let accepted := mutations.filter fun mutation => mutation.status = .accepted
  let acceptedOperations := accepted.map fun mutation => mutation.operationId
  let acceptedHashes := accepted.filterMap fun mutation => mutation.localEventHash
  let ordered := (mutations.filter fun mutation => mutation.logbookId = logbookId).insertionSort
    fun left right => left.sortKey ≤ right.sortKey
  readyLoop now acceptedOperations acceptedHashes ordered

def readyCount (mutations : List OfflineMutationEnvelope) (now : DateTime) : Nat :=
  let logbooks := (mutations.map fun mutation => mutation.logbookId).dedup
  (logbooks.map fun logbookId => (readyMutations mutations logbookId now).length).sum

/-- The earliest of some instants. -/
def earliest (instants : List DateTime) : Option DateTime :=
  instants.foldl (fun best instant => match best with
    | none => some instant
    | some best => if instant < best then some instant else some best) none

/-- The latest of some instants. -/
def latest (instants : List DateTime) : Option DateTime :=
  instants.foldl (fun best instant => match best with
    | none => some instant
    | some best => if best ≤ instant then some instant else some best) none

def snapshotFromFile (mutations : List OfflineMutationEnvelope) (now : DateTime) :
    OfflineQueueSnapshot :=
  let count (status : OfflineMutationStatus) : Nat :=
    mutations.countP fun mutation => mutation.status = status
  { queueSchemaVersion := offlineQueueFileVersion
    mutationSchemaVersion := offlineMutationSchemaVersion
    health :=
      { total := mutations.length
        pending := count .pending
        sending := count .sending
        retrying := count .retrying
        blocked := count .blocked
        failed := count .failed
        accepted := count .accepted
        userActionRequired := count .userActionRequired
        readyToSend := readyCount mutations now
        oldestPendingAt := earliest ((mutations.filter fun mutation =>
          mutation.status.isDraining).map fun mutation => mutation.createdAt)
        newestUpdateAt := latest (mutations.map fun mutation => mutation.updatedAt) }
    mutations := mutations }

/-- Mutations that were being sent when the application stopped. -/
def recoverInterruptedWritesInFile (file : OfflineQueueFile) (now : DateTime) :
    OfflineQueueFile × Nat :=
  ({ file with
     mutations := file.mutations.map fun mutation =>
       if mutation.status = .sending then
         { mutation with
           status := .retrying, nextAttemptAt := some now, updatedAt := now,
           failureReason := some "recovered interrupted send attempt" }
       else mutation },
   file.mutations.countP fun mutation => mutation.status = .sending)

end HamLogger
