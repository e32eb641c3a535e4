import HamLogger.Server.SyncHandlers
import HamLogger.Sync.ConflictReview
import HamLogger.Sync.QueueStore

/-! The report on a previewed pull: what of the remote events conflicts with
the mutations that wait in the queue of the same logbook. -/
namespace HamLogger

def supportedOfficialEventSchemaVersion : UInt32 := 1

def isQsoCorrectionOperation (operationType : String) : Bool :=
  operationType ∈ ["qso.correct", "proposal.qso.correct", "official.log.qso.corrected"]

def isQsoEntityOperation (operationType : String) : Bool :=
  operationType ∈ ["qso.correct", "qso.delete", "qso.restore", "qso.note.add",
    "proposal.qso.correct", "proposal.qso.delete", "proposal.qso.restore",
    "proposal.qso.note.add", "official.log.qso.corrected", "official.log.qso.deleted",
    "official.log.qso.restored"]

/-- The conflict for histories that have diverged. -/
def divergenceConflict (preview : PreviewPullResponse) (pending : List OfflineMutationEnvelope) :
    Option SyncConflict :=
  if preview.status = .diverged then
    some
      { kind := .divergentHeads
        message := preview.message
        relatedOperationIds := pending.map fun mutation => mutation.operationId
        relatedEventHashes := preview.events.map EventMetadata.eventHash
        safeAutoMerge := false
        requiresUserAction := true
        resolutionOptions :=
          ["review_remote_events", "export_divergence_report", "create_new_corrective_events"] }
  else none

theorem kind_of_divergence {preview : PreviewPullResponse}
    {pending : List OfflineMutationEnvelope} {conflict : SyncConflict}
    (h : divergenceConflict preview pending = some conflict) :
    conflict.kind = .divergentHeads ∧ conflict.safeAutoMerge = false := by
  unfold divergenceConflict at h
  split at h
  · rw [← Option.some.inj h]
    exact ⟨rfl, rfl⟩
  · cases h

/-- The conflict for remote events of another schema version, if there are any. -/
def schemaConflict (events : List EventMetadata) : Option SyncConflict :=
  if events = [] then none
  else some
    { kind := .unsupportedSchema
      message := Nat.repr events.length ++
        " remote events use unsupported schema versions; upgrade or inspect before pulling"
      relatedOperationIds := []
      relatedEventHashes := events.map EventMetadata.eventHash
      safeAutoMerge := false
      requiresUserAction := true
      resolutionOptions :=
        ["upgrade_client", "export_divergence_report", "mark_user_action_required"] }

/-- The conflict for remote events and local operations on the same entities. -/
def entityConflict (kind : SyncConflictKind) (message : String) (events : List EventMetadata)
    (operations : List Uuid) (resolutionOptions : List String) : Option SyncConflict :=
  if events = [] ∨ operations = [] then none
  else some
    { kind := kind
      message := message
      relatedOperationIds := operations
      relatedEventHashes := events.map EventMetadata.eventHash
      safeAutoMerge := false
      requiresUserAction := true
      resolutionOptions := resolutionOptions }

/-- The dependencies of a mutation are met by the accepted mutations of a queue. -/
def dependenciesMet (mutations : List OfflineMutationEnvelope)
    (mutation : OfflineMutationEnvelope) : Bool :=
  dependenciesSatisfied mutation
    ((mutations.filter fun other => other.status = .accepted).map fun other => other.operationId)
    ((mutations.filter fun other => other.status = .accepted).filterMap fun other =>
      other.localEventHash)

/-- A dependency that names an operation or an event. -/
def NamesPrerequisite (dependency : OfflineMutationDependency) : Prop :=
  dependency.operationId ≠ none ∨ dependency.eventHash ≠ none

/-- A dependency that the accepted mutations of a queue leave open. -/
def Unmet (mutations : List OfflineMutationEnvelope) (dependency : OfflineMutationDependency) :
    Prop :=
  (∃ operationId ∈ dependency.operationId,
      ∀ other ∈ mutations, other.status = .accepted → other.operationId ≠ operationId) ∨
    (∃ eventHash ∈ dependency.eventHash,
      ∀ other ∈ mutations, other.status = .accepted → other.localEventHash ≠ some eventHash) ∨
    ∃ version ∈ dependency.minimumSchemaVersion, offlineMutationSchemaVersion < version

theorem dependenciesMet_eq_false (mutations : List OfflineMutationEnvelope)
    (mutation : OfflineMutationEnvelope) : dependenciesMet mutations mutation = false ↔
      ∃ dependency ∈ mutation.dependencies, Unmet mutations dependency := by
  rw [dependenciesMet, dependenciesSatisfied, List.all_eq_false]
  refine exists_congr fun dependency => and_congr_right fun _ => ?_
  simp only [Bool.and_eq_true, Option.all_eq_true, decide_eq_true_eq, not_and_or, not_forall,
    Unmet, or_assoc, Option.mem_def, exists_prop, UInt32.not_le, List.mem_map, List.mem_filterMap,
    List.mem_filter, not_exists, ne_eq]
  simp only [imp_iff_not_or]

/-- Against nothing accepted, a dependency is open when it names anything at
all or a schema version that is not supported. -/
theorem dependenciesSatisfied_nil (mutation : OfflineMutationEnvelope) :
    dependenciesSatisfied mutation [] [] = false ↔ ∃ dependency ∈ mutation.dependencies,
      NamesPrerequisite dependency ∨
        ∃ version ∈ dependency.minimumSchemaVersion, offlineMutationSchemaVersion < version := by
  have hNone := dependenciesMet_eq_false [] mutation
  rw [dependenciesMet] at hNone
  refine hNone.trans (exists_congr fun dependency => and_congr_right fun _ => ?_)
  simp only [Unmet, NamesPrerequisite, List.not_mem_nil, false_imp_iff, implies_true, and_true,
    Option.ne_none_iff_exists', or_assoc, Option.mem_def]

/-- A review that pulls is resolved only where no conflict speaks against it. -/
theorem safe_of_pull {report : SyncConflictReport} {resolution : ManualConflictResolution}
    (hChoice : resolution.choice = .pullRemoteAfterReview)
    (h : validateResolutionForReport report resolution = .ok ()) :
    ∀ conflict ∈ report.conflicts, conflict.safeAutoMerge ≠ false := by
  intro conflict hConflict hUnsafe
  have hAny : report.conflicts.any (fun conflict => conflict.safeAutoMerge = false) = true :=
    List.any_eq_true.mpr ⟨conflict, hConflict, decide_eq_true hUnsafe⟩
  unfold validateResolutionForReport at h
  split at h
  · cases h
  · split at h
    · cases h
    · split at h
      · cases h
      · next hNot => exact hNot ⟨hChoice, Or.inr hAny⟩

theorem entityConflict_eq_some {conflict : SyncConflict} {kind : SyncConflictKind}
    {message : String} {events : List EventMetadata} {operations : List Uuid}
    {options : List String}
    (h : entityConflict kind message events operations options = some conflict) :
    events ≠ [] ∧ operations ≠ [] ∧ conflict.kind = kind ∧ conflict.safeAutoMerge = false ∧
      conflict.relatedOperationIds = operations ∧
      conflict.relatedEventHashes = events.map EventMetadata.eventHash := by
  unfold entityConflict at h
  split at h
  · cases h
  · next hNot =>
      obtain ⟨hEvents, hOperations⟩ := not_or.mp hNot
      rw [← Option.some.inj h]
      exact ⟨hEvents, hOperations, rfl, rfl, rfl, rfl⟩

theorem kind_of_schema {conflict : SyncConflict} {events : List EventMetadata}
    (h : schemaConflict events = some conflict) :
    conflict.kind = .unsupportedSchema ∧ conflict.safeAutoMerge = false ∧
      conflict.relatedEventHashes = events.map EventMetadata.eventHash := by
  unfold schemaConflict at h
  split at h
  · cases h
  · rw [← Option.some.inj h]
    exact ⟨rfl, rfl, rfl⟩

/-- Append an operation that is not listed yet. -/
def addOperation (operations : List Uuid) (operationId : Uuid) : List Uuid :=
  if operationId ∈ operations then operations else operations ++ [operationId]

theorem addOperations_spec {operations : List Uuid} (hNodup : operations.Nodup)
    (added : List Uuid) : (added.foldl addOperation operations).Nodup ∧
      ∀ id, id ∈ added.foldl addOperation operations ↔ id ∈ operations ∨ id ∈ added := by
  induction added generalizing operations with
  | nil => exact ⟨hNodup, by simp⟩
  | cons first added ih =>
      rw [List.foldl_cons]
      by_cases hMem : first ∈ operations
      · obtain ⟨hDistinct, hAll⟩ := ih hNodup
        rw [addOperation, if_pos hMem]
        refine ⟨hDistinct, fun id => ?_⟩
        rw [hAll, List.mem_cons]
        constructor
        · exact fun h => h.imp_right Or.inr
        · rintro (h | rfl | h)
          · exact Or.inl h
          · exact Or.inl hMem
          · exact Or.inr h
      · have hNew : (operations ++ [first]).Nodup :=
          List.nodup_append.mpr ⟨hNodup, List.nodup_singleton first,
            fun id hId other hOther hSame =>
              hMem (by rw [← List.mem_singleton.mp hOther, ← hSame]; exact hId)⟩
        obtain ⟨hDistinct, hAll⟩ := ih hNew
        rw [addOperation, if_neg hMem]
        refine ⟨hDistinct, fun id => ?_⟩
        rw [hAll, List.mem_append, List.mem_singleton, List.mem_cons, or_assoc]

section
variable [UuidCrate]

def mutationEntityId (mutation : OfflineMutationEnvelope) : Option Uuid :=
  mutation.entityId.or (entityIdFromPayloadForOperation mutation.operationType mutation.payload)

/-- The mutations of the previewed logbook that are not accepted. -/
def pendingMutations (preview : PreviewPullResponse)
    (localPending : List OfflineMutationEnvelope) : List OfflineMutationEnvelope :=
  localPending.filter fun mutation =>
    mutation.logbookId = preview.logbookId ∧ mutation.status ≠ .accepted

/-- The operations of certain types that concern an entity. -/
def relatedOperations (concerns : String → Bool) (pending : List OfflineMutationEnvelope)
    (entityId : Uuid) : List Uuid :=
  (pending.filter fun mutation =>
    mutationEntityId mutation = some entityId ∧ concerns mutation.operationType).map
      fun mutation => mutation.operationId

/-- The step of the loops over the remote events of certain types, with the
events and the operations found so far. -/
def matchEvent (concerns : String → Bool) (pending : List OfflineMutationEnvelope)
    (found : List EventMetadata × List Uuid) (event : EventMetadata) :
    List EventMetadata × List Uuid :=
  match event.entityId with
  | none => found
  | some entityId =>
      let related := relatedOperations concerns pending entityId
      if related = [] then found
      else (found.1 ++ [event], related.foldl addOperation found.2)

def matchEvents (kinds : List EventType) (concerns : String → Bool)
    (pending : List OfflineMutationEnvelope) (events : List EventMetadata) :
    List EventMetadata × List Uuid :=
  (events.filter fun event => event.eventType ∈ kinds).foldl (matchEvent concerns pending) ([], [])

/-- The conflict for a mutation whose dependencies are not met. The sets of
accepted operations and events that it is checked against are empty. -/
def missingDependencyConflict (mutation : OfflineMutationEnvelope) : Option SyncConflict :=
  let missing := mutation.dependencies.filter fun dependency =>
    dependency.operationId.isSome || dependency.eventHash.isSome ||
      dependency.minimumSchemaVersion.any (offlineMutationSchemaVersion < ·)
  if missing ≠ [] ∧ dependenciesSatisfied mutation [] [] = false then
    some
      { kind := .missingDependency
        message := "Offline mutation " ++ UuidCrate.display mutation.operationId ++
          " cannot drain until its dependencies are accepted"
        relatedOperationIds := missing.filterMap OfflineMutationDependency.operationId
        relatedEventHashes := missing.filterMap OfflineMutationDependency.eventHash
        safeAutoMerge := false
        requiresUserAction := true
        resolutionOptions := ["retry_after_dependency_arrives", "mark_user_action_required"] }
  else none

def correctionConflict (preview : PreviewPullResponse) (pending : List OfflineMutationEnvelope) :
    Option SyncConflict :=
  let found := matchEvents [.qsoCorrected] isQsoCorrectionOperation pending preview.events
  entityConflict .concurrentCorrection
    ("Remote and local queues both contain corrections for the same QSO; " ++
      "manual review is required before replay") found.1 found.2
    ["review_remote_events", "create_new_corrective_events", "mark_user_action_required"]

def tombstoneConflict (preview : PreviewPullResponse) (pending : List OfflineMutationEnvelope) :
    Option SyncConflict :=
  let found := matchEvents [.qsoDeleted, .qsoRestored] isQsoEntityOperation pending preview.events
  entityConflict .tombstoneRestore
    ("Remote tombstone or restore events affect QSOs with local pending mutations; " ++
      "manual review is required before replay") found.1 found.2
    ["review_remote_events", "create_new_corrective_events", "mark_user_action_required"]

def previewConflicts (preview : PreviewPullResponse) (pending : List OfflineMutationEnvelope) :
    List SyncConflict :=
  (divergenceConflict preview pending).toList ++
    (schemaConflict (preview.events.filter fun event =>
      event.schemaVersion ≠ supportedOfficialEventSchemaVersion)).toList ++
    (correctionConflict preview pending).toList ++ (tombstoneConflict preview pending).toList ++
    pending.filterMap missingDependencyConflict

def conflictReportFromPreview (preview : PreviewPullResponse)
    (localPending : List OfflineMutationEnvelope) (now : DateTime) : SyncConflictReport :=
  let pending := pendingMutations preview localPending
  let conflicts := previewConflicts preview pending
  { schemaVersion := 1
    createdAt := now
    logbookId := preview.logbookId
    peerId := preview.peerId
    status := preview.status
    localHeadHash := preview.localHeadHash
    remoteHeadHash := preview.remoteHeadHash
    missingEventCount := preview.missingEventCount
    pendingOperationCount := pending.length
    conflicts := conflicts
    recommendedAction :=
      if conflicts.any SyncConflict.requiresUserAction then
        "Manual review is required before merging or replaying additional events."
      else if preview.status = .remoteAhead then
        "Preview can be pulled because the remote chain contains the local head."
      else "No sync conflict requires action." }

section Matching
variable {concerns : String → Bool} {pending : List OfflineMutationEnvelope}

/-- A remote event and a local operation of certain types name the same entity. -/
def Targets (concerns : String → Bool) (event : EventMetadata)
    (mutation : OfflineMutationEnvelope) : Prop :=
  concerns mutation.operationType = true ∧ event.entityId.isSome = true ∧
    mutationEntityId mutation = event.entityId

instance (concerns : String → Bool) (event : EventMetadata) (mutation : OfflineMutationEnvelope) :
    Decidable (Targets concerns event mutation) :=
  inferInstanceAs (Decidable (_ ∧ _ ∧ _))

theorem mem_relatedOperations {entityId : Uuid} {id : Uuid} :
    id ∈ relatedOperations concerns pending entityId ↔
      ∃ mutation ∈ pending, (mutationEntityId mutation = some entityId ∧
        concerns mutation.operationType = true) ∧ mutation.operationId = id := by
  simp [relatedOperations, and_assoc]

/-- The step keeps an event that some operation targets, and adds the operations
that target it. -/
theorem matchEvent_spec (concerns : String → Bool) (pending : List OfflineMutationEnvelope)
    (found : List EventMetadata × List Uuid) (event : EventMetadata)
    (hNodup : found.2.Nodup) :
    (matchEvent concerns pending found event).1 =
        (if ∃ mutation ∈ pending, Targets concerns event mutation then found.1 ++ [event]
          else found.1) ∧
      (matchEvent concerns pending found event).2.Nodup ∧
      ∀ id, id ∈ (matchEvent concerns pending found event).2 ↔ id ∈ found.2 ∨
        ∃ mutation ∈ pending, Targets concerns event mutation ∧ mutation.operationId = id := by
  unfold matchEvent
  cases hEntity : event.entityId with
  | none => simp [Targets, hEntity, hNodup]
  | some entityId =>
      have hRelated : ∀ id, id ∈ relatedOperations concerns pending entityId ↔
          ∃ mutation ∈ pending, Targets concerns event mutation ∧ mutation.operationId = id := by
        intro id
        rw [mem_relatedOperations]
        simp only [Targets, hEntity, Option.isSome_some, true_and, and_comm]
      have hSome : relatedOperations concerns pending entityId ≠ [] ↔
          ∃ mutation ∈ pending, Targets concerns event mutation := by
        constructor
        · intro hNonempty
          obtain ⟨id, hId⟩ := List.exists_mem_of_ne_nil _ hNonempty
          obtain ⟨mutation, hMem, hTargets, _⟩ := (hRelated id).mp hId
          exact ⟨mutation, hMem, hTargets⟩
        · rintro ⟨mutation, hMem, hTargets⟩
          exact List.ne_nil_of_mem ((hRelated _).mpr ⟨mutation, hMem, hTargets, rfl⟩)
      dsimp only
      by_cases hEmpty : relatedOperations concerns pending entityId = []
      · rw [if_pos hEmpty, if_neg (mt hSome.mpr (not_not.mpr hEmpty))]
        refine ⟨rfl, hNodup, fun id => ?_⟩
        rw [← hRelated, hEmpty]
        simp
      · obtain ⟨hDistinct, hAll⟩ :=
          addOperations_spec hNodup (relatedOperations concerns pending entityId)
        rw [if_neg hEmpty, if_pos (hSome.mp hEmpty)]
        refine ⟨rfl, hDistinct, fun id => ?_⟩
        rw [hAll, hRelated]

/-- The loop finds exactly the events that some operation targets, and lists
every operation that targets one of them once. -/
theorem matchEvents_spec (concerns : String → Bool) (pending : List OfflineMutationEnvelope)
    (kinds : List EventType) (events : List EventMetadata) :
    (matchEvents kinds concerns pending events).1 = (events.filter fun event =>
        event.eventType ∈ kinds ∧ ∃ mutation ∈ pending, Targets concerns event mutation) ∧
      (matchEvents kinds concerns pending events).2.Nodup ∧
      ∀ id, id ∈ (matchEvents kinds concerns pending events).2 ↔
        ∃ event ∈ events, event.eventType ∈ kinds ∧
          ∃ mutation ∈ pending, Targets concerns event mutation ∧ mutation.operationId = id := by
  unfold matchEvents
  induction events using List.reverseRecOn with
  | nil => simp
  | append_singleton events event ih =>
      obtain ⟨hEvents, hNodup, hOperations⟩ := ih
      rw [List.filter_append, List.filter_append]
      by_cases hKind : event.eventType ∈ kinds
      · rw [List.filter_cons_of_pos (by simpa using hKind), List.filter_nil, List.foldl_append]
        obtain ⟨hFirst, hDistinct, hAll⟩ := matchEvent_spec concerns pending _ event hNodup
        refine ⟨?_, hDistinct, fun id => ?_⟩
        · rw [List.foldl_cons, List.foldl_nil, hFirst, hEvents]
          split
          · next h => rw [List.filter_cons_of_pos (by simpa [hKind] using h), List.filter_nil]
          · next h => rw [List.filter_cons_of_neg (by simpa [hKind] using h), List.filter_nil,
              List.append_nil]
        · rw [List.foldl_cons, List.foldl_nil, hAll, hOperations]
          simp only [List.mem_append, List.mem_singleton]
          constructor
          · rintro (⟨e, hMem, hRest⟩ | hNew)
            · exact ⟨e, Or.inl hMem, hRest⟩
            · exact ⟨event, Or.inr rfl, hKind, hNew⟩
          · rintro ⟨e, hMem | rfl, hType, hRest⟩
            · exact Or.inl ⟨e, hMem, hType, hRest⟩
            · exact Or.inr hRest
      · rw [List.filter_cons_of_neg (by simpa using hKind), List.filter_nil, List.append_nil,
          List.filter_cons_of_neg (by simp [hKind]), List.filter_nil, List.append_nil]
        refine ⟨hEvents, hNodup, fun id => ?_⟩
        rw [hOperations]
        simp only [List.mem_append, List.mem_singleton]
        constructor
        · rintro ⟨e, hMem, hRest⟩
          exact ⟨e, Or.inl hMem, hRest⟩
        · rintro ⟨e, hMem | rfl, hType, hRest⟩
          · exact ⟨e, hMem, hType, hRest⟩
          · exact absurd hType hKind

end Matching

section Report
variable {preview : PreviewPullResponse} {pending localPending : List OfflineMutationEnvelope}
  {conflict : SyncConflict}

/-- Where a conflict of a kind comes from. -/
def Reported (preview : PreviewPullResponse) (pending : List OfflineMutationEnvelope)
    (conflict : SyncConflict) : SyncConflictKind → Prop
  | .divergentHeads => divergenceConflict preview pending = some conflict
  | .unsupportedSchema =>
      schemaConflict (preview.events.filter fun event =>
        event.schemaVersion ≠ supportedOfficialEventSchemaVersion) = some conflict
  | .concurrentCorrection => correctionConflict preview pending = some conflict
  | .tombstoneRestore => tombstoneConflict preview pending = some conflict
  | .missingDependency => ∃ mutation ∈ pending, missingDependencyConflict mutation = some conflict
  | .revokedDevice | .manualReviewRequired => False

theorem kind_of_missing {mutation : OfflineMutationEnvelope}
    (h : missingDependencyConflict mutation = some conflict) :
    conflict.kind = .missingDependency ∧ conflict.safeAutoMerge = false := by
  unfold missingDependencyConflict at h
  dsimp only at h
  split at h
  · rw [← Option.some.inj h]
    exact ⟨rfl, rfl⟩
  · cases h

/-- A conflict of the report comes from where its kind says. -/
theorem mem_previewConflicts :
    conflict ∈ previewConflicts preview pending ↔
      Reported preview pending conflict conflict.kind := by
  have hParts : conflict ∈ previewConflicts preview pending ↔
      Reported preview pending conflict .divergentHeads ∨
        Reported preview pending conflict .unsupportedSchema ∨
        Reported preview pending conflict .concurrentCorrection ∨
        Reported preview pending conflict .tombstoneRestore ∨
        Reported preview pending conflict .missingDependency := by
    simp [previewConflicts, Reported]
  have hKind : ∀ kind, Reported preview pending conflict kind → conflict.kind = kind := by
    intro kind h
    cases kind with
    | divergentHeads => exact (kind_of_divergence h).1
    | unsupportedSchema => exact (kind_of_schema h).1
    | concurrentCorrection => exact (entityConflict_eq_some h).2.2.1
    | tombstoneRestore => exact (entityConflict_eq_some h).2.2.1
    | missingDependency =>
        obtain ⟨mutation, _, hMissing⟩ := h
        exact (kind_of_missing hMissing).1
    | revokedDevice => exact h.elim
    | manualReviewRequired => exact h.elim
  rw [hParts]
  constructor
  · rintro (h | h | h | h | h) <;> rw [hKind _ h] <;> exact h
  · intro h
    cases hIs : conflict.kind <;> rw [hIs] at h
    · exact Or.inl h
    · exact Or.inr (Or.inr (Or.inr (Or.inr h)))
    · exact Or.inr (Or.inl h)
    · exact Or.inr (Or.inr (Or.inl h))
    · exact Or.inr (Or.inr (Or.inr (Or.inl h)))
    · exact h.elim
    · exact h.elim

/-- Every conflict of a report speaks against a pull. -/
theorem safeAutoMerge_of_mem (h : conflict ∈ previewConflicts preview pending) :
    conflict.safeAutoMerge = false := by
  have hReported := mem_previewConflicts.mp h
  cases hKind : conflict.kind <;> rw [hKind] at hReported
  · exact (kind_of_divergence hReported).2
  · obtain ⟨mutation, _, hMissing⟩ := hReported
    exact (kind_of_missing hMissing).2
  · exact (kind_of_schema hReported).2.1
  · exact (entityConflict_eq_some hReported).2.2.2.1
  · exact (entityConflict_eq_some hReported).2.2.2.1
  · exact hReported.elim
  · exact hReported.elim

/-- A previewed event of certain types and a local operation that concerns the
same entity of the previewed logbook and is not accepted. -/
def Overlaps (kinds : List EventType) (concerns : String → Bool) (preview : PreviewPullResponse)
    (event : EventMetadata) (mutation : OfflineMutationEnvelope) : Prop :=
  event.eventType ∈ kinds ∧ mutation.logbookId = preview.logbookId ∧
    mutation.status ≠ .accepted ∧ Targets concerns event mutation

instance (kinds : List EventType) (concerns : String → Bool) (preview : PreviewPullResponse)
    (event : EventMetadata) (mutation : OfflineMutationEnvelope) :
    Decidable (Overlaps kinds concerns preview event mutation) :=
  inferInstanceAs (Decidable (_ ∧ _ ∧ _ ∧ _))

/-- A conflict of a kind is reported exactly when something overlaps, and lists
the events that overlap and, once each, the operations that do. -/
structure ReportsOverlaps (kind : SyncConflictKind) (kinds : List EventType)
    (concerns : String → Bool) (preview : PreviewPullResponse)
    (localPending : List OfflineMutationEnvelope) (report : SyncConflictReport) : Prop where
  reported : (∃ conflict ∈ report.conflicts, conflict.kind = kind) ↔
    ∃ event ∈ preview.events, ∃ mutation ∈ localPending,
      Overlaps kinds concerns preview event mutation
  hashes : ∀ conflict ∈ report.conflicts, conflict.kind = kind → conflict.relatedEventHashes =
    (preview.events.filter fun event => ∃ mutation ∈ localPending,
      Overlaps kinds concerns preview event mutation).map EventMetadata.eventHash
  once : ∀ conflict ∈ report.conflicts, conflict.kind = kind → conflict.relatedOperationIds.Nodup
  operations : ∀ conflict ∈ report.conflicts, conflict.kind = kind → ∀ id,
    id ∈ conflict.relatedOperationIds ↔ ∃ event ∈ preview.events, ∃ mutation ∈ localPending,
      Overlaps kinds concerns preview event mutation ∧ mutation.operationId = id

theorem overlaps_iff {kinds : List EventType} {concerns : String → Bool} {event : EventMetadata}
    {P : OfflineMutationEnvelope → Prop} :
    (event.eventType ∈ kinds ∧ ∃ mutation ∈ pendingMutations preview localPending,
      Targets concerns event mutation ∧ P mutation) ↔
        ∃ mutation ∈ localPending, Overlaps kinds concerns preview event mutation ∧ P mutation := by
  simp only [pendingMutations, List.mem_filter, decide_eq_true_eq, Overlaps]
  constructor
  · rintro ⟨hKind, mutation, ⟨hMem, hLogbook, hStatus⟩, hTargets, hRest⟩
    exact ⟨mutation, hMem, ⟨hKind, hLogbook, hStatus, hTargets⟩, hRest⟩
  · rintro ⟨mutation, hMem, ⟨hKind, hLogbook, hStatus, hTargets⟩, hRest⟩
    exact ⟨hKind, mutation, ⟨hMem, hLogbook, hStatus⟩, hTargets, hRest⟩

/-- A conflict built from what the loop finds reports the overlaps. -/
theorem reportsOverlaps {kind : SyncConflictKind} {kinds : List EventType}
    {concerns : String → Bool} {message : String} {options : List String} (now : DateTime)
    (hSource : ∀ conflict,
      Reported preview (pendingMutations preview localPending) conflict kind ↔
        entityConflict kind message
          (matchEvents kinds concerns (pendingMutations preview localPending) preview.events).1
          (matchEvents kinds concerns (pendingMutations preview localPending) preview.events).2
          options = some conflict) :
    ReportsOverlaps kind kinds concerns preview localPending
      (conflictReportFromPreview preview localPending now) := by
  obtain ⟨hEvents, hNodup, hOperations⟩ := matchEvents_spec concerns
    (pendingMutations preview localPending) kinds preview.events
  have hOverlap : ∀ event : EventMetadata, (event.eventType ∈ kinds ∧
      ∃ mutation ∈ pendingMutations preview localPending, Targets concerns event mutation) ↔
        ∃ mutation ∈ localPending, Overlaps kinds concerns preview event mutation := by
    intro event
    have h : (event.eventType ∈ kinds ∧ ∃ mutation ∈ pendingMutations preview localPending,
        Targets concerns event mutation ∧ True) ↔ _ := overlaps_iff
    simpa only [and_true] using h
  have hMem : ∀ conflict,
      conflict ∈ (conflictReportFromPreview preview localPending now).conflicts ∧
        conflict.kind = kind → entityConflict kind message
        (matchEvents kinds concerns (pendingMutations preview localPending) preview.events).1
        (matchEvents kinds concerns (pendingMutations preview localPending) preview.events).2
        options = some conflict := by
    rintro conflict ⟨hConflict, rfl⟩
    exact (hSource conflict).mp (mem_previewConflicts.mp hConflict)
  refine ⟨⟨?_, ?_⟩, ?_, ?_, ?_⟩
  · rintro ⟨conflict, hConflict, hKind⟩
    obtain ⟨hNonempty, _⟩ := entityConflict_eq_some (hMem conflict ⟨hConflict, hKind⟩)
    rw [hEvents] at hNonempty
    obtain ⟨event, hEvent⟩ := List.exists_mem_of_ne_nil _ hNonempty
    obtain ⟨hPreviewed, hFound⟩ := List.mem_filter.mp hEvent
    exact ⟨event, hPreviewed, (hOverlap event).mp (of_decide_eq_true hFound)⟩
  · rintro ⟨event, hPreviewed, mutation, hLocal, hBoth⟩
    have hFound := (hOverlap event).mpr ⟨mutation, hLocal, hBoth⟩
    have hEvent : (matchEvents kinds concerns (pendingMutations preview localPending)
        preview.events).1 ≠ [] := by
      rw [hEvents]
      exact List.ne_nil_of_mem (List.mem_filter.mpr ⟨hPreviewed, decide_eq_true hFound⟩)
    have hOperation : (matchEvents kinds concerns (pendingMutations preview localPending)
        preview.events).2 ≠ [] := by
      obtain ⟨hKind, target, hPending, hTargets⟩ := hFound
      exact List.ne_nil_of_mem
        ((hOperations _).mpr ⟨event, hPreviewed, hKind, target, hPending, hTargets, rfl⟩)
    obtain ⟨conflict, hSome⟩ : ∃ conflict, entityConflict kind message
        (matchEvents kinds concerns (pendingMutations preview localPending) preview.events).1
        (matchEvents kinds concerns (pendingMutations preview localPending) preview.events).2
        options = some conflict := ⟨_, if_neg (not_or.mpr ⟨hEvent, hOperation⟩)⟩
    obtain ⟨_, _, hKind, _⟩ := entityConflict_eq_some hSome
    have hReported := (hSource conflict).mpr hSome
    exact ⟨conflict, mem_previewConflicts.mpr (by rw [hKind]; exact hReported), hKind⟩
  · intro conflict hConflict hKind
    obtain ⟨_, _, _, _, _, hHashes⟩ := entityConflict_eq_some (hMem conflict ⟨hConflict, hKind⟩)
    rw [hHashes, hEvents]
    exact congrArg (List.map EventMetadata.eventHash)
      (List.filter_congr fun event _ => decide_eq_decide.mpr (hOverlap event))
  · intro conflict hConflict hKind
    obtain ⟨_, _, _, _, hIds, _⟩ := entityConflict_eq_some (hMem conflict ⟨hConflict, hKind⟩)
    rw [hIds]
    exact hNodup
  · intro conflict hConflict hKind id
    obtain ⟨_, _, _, _, hIds, _⟩ := entityConflict_eq_some (hMem conflict ⟨hConflict, hKind⟩)
    rw [hIds, hOperations]
    exact exists_congr fun event => and_congr_right fun _ => overlaps_iff

/-- What a report says, and when a review of it lets the remote events be pulled. -/
structure ReportsConflicts (preview : PreviewPullResponse)
    (localPending : List OfflineMutationEnvelope) (report : SyncConflictReport) : Prop where
  divergence : (∃ conflict ∈ report.conflicts, conflict.kind = .divergentHeads) ↔
    preview.status = .diverged
  schema : (∃ conflict ∈ report.conflicts, conflict.kind = .unsupportedSchema) ↔
    ∃ event ∈ preview.events, event.schemaVersion ≠ 1
  schemaHashes : ∀ conflict ∈ report.conflicts, conflict.kind = .unsupportedSchema →
    conflict.relatedEventHashes =
      (preview.events.filter fun event => event.schemaVersion ≠ 1).map EventMetadata.eventHash
  corrections : ReportsOverlaps .concurrentCorrection [.qsoCorrected] isQsoCorrectionOperation
    preview localPending report
  tombstones : ReportsOverlaps .tombstoneRestore [.qsoDeleted, .qsoRestored] isQsoEntityOperation
    preview localPending report
  pull : ∀ file reviewId review resolution reviewedAt result,
    JsonConflictReviewStore.findReview file reviewId = some review → review.report = report →
      resolution.choice = .pullRemoteAfterReview →
        JsonConflictReviewStore.resolveReview file reviewId resolution reviewedAt = .ok result →
          report.conflicts = []

/-- The report names the conflicts of a preview with the queue, where a local
operation is one of the types that correct, delete, restore or annotate a
contact. A pull is resolved only for a report without any conflict. -/
theorem report_names_conflicts (preview : PreviewPullResponse)
    (localPending : List OfflineMutationEnvelope) (now : DateTime) :
    ReportsConflicts preview localPending (conflictReportFromPreview preview localPending now) where
  divergence := by
    constructor
    · rintro ⟨conflict, hConflict, hKind⟩
      have hReported := mem_previewConflicts.mp hConflict
      rw [hKind] at hReported
      by_contra hNot
      have hNone : divergenceConflict preview (pendingMutations preview localPending) = none :=
        if_neg hNot
      cases hNone.symm.trans hReported
    · intro hStatus
      obtain ⟨conflict, hSome⟩ : ∃ conflict, divergenceConflict preview
          (pendingMutations preview localPending) = some conflict := ⟨_, if_pos hStatus⟩
      have hKind := (kind_of_divergence hSome).1
      exact ⟨conflict, mem_previewConflicts.mpr (by rw [hKind]; exact hSome), hKind⟩
  schema := by
    constructor
    · rintro ⟨conflict, hConflict, hKind⟩
      have hReported := mem_previewConflicts.mp hConflict
      rw [hKind] at hReported
      by_contra hNot
      have hEmpty : (preview.events.filter fun event =>
          event.schemaVersion ≠ supportedOfficialEventSchemaVersion) = [] :=
        List.filter_eq_nil_iff.mpr fun event hEvent hOther =>
          hNot ⟨event, hEvent, of_decide_eq_true hOther⟩
      cases (if_pos hEmpty : schemaConflict _ = none).symm.trans hReported
    · rintro ⟨event, hEvent, hOther⟩
      have hNonempty : (preview.events.filter fun event =>
          event.schemaVersion ≠ supportedOfficialEventSchemaVersion) ≠ [] :=
        List.ne_nil_of_mem (List.mem_filter.mpr ⟨hEvent, decide_eq_true hOther⟩)
      obtain ⟨conflict, hSome⟩ : ∃ conflict, schemaConflict (preview.events.filter fun event =>
          event.schemaVersion ≠ supportedOfficialEventSchemaVersion) = some conflict :=
        ⟨_, if_neg hNonempty⟩
      have hKind := (kind_of_schema hSome).1
      exact ⟨conflict, mem_previewConflicts.mpr (by rw [hKind]; exact hSome), hKind⟩
  schemaHashes := by
    intro conflict hConflict hKind
    have hReported := mem_previewConflicts.mp hConflict
    rw [hKind] at hReported
    exact (kind_of_schema hReported).2.2
  corrections := reportsOverlaps now fun conflict => Iff.rfl
  tombstones := reportsOverlaps now fun conflict => Iff.rfl
  pull := by
    intro file reviewId review resolution reviewedAt result hFound hReport hChoice hResolve
    unfold JsonConflictReviewStore.resolveReview at hResolve
    rw [hFound] at hResolve
    dsimp only at hResolve
    split at hResolve
    · cases hResolve
    · next hValid =>
        rw [hReport] at hValid
        by_contra hConflicts
        obtain ⟨conflict, hConflict⟩ := List.exists_mem_of_ne_nil _ hConflicts
        exact safe_of_pull hChoice hValid conflict hConflict (safeAutoMerge_of_mem hConflict)

/-! The dependencies of waiting mutations. -/

/-- The report holds the conflict for a mutation whose dependencies are missing. -/
def ReportsMissing (report : SyncConflictReport) (mutation : OfflineMutationEnvelope) : Prop :=
  ∃ conflict ∈ report.conflicts, missingDependencyConflict mutation = some conflict

/-- The report holds the conflict for every waiting mutation whose dependencies
are open against nothing accepted. -/
theorem reportsMissing_iff {mutation : OfflineMutationEnvelope} (now : DateTime)
    (hMem : mutation ∈ pendingMutations preview localPending) :
    ReportsMissing (conflictReportFromPreview preview localPending now) mutation ↔
      dependenciesSatisfied mutation [] [] = false := by
  constructor
  · rintro ⟨conflict, _, hConflict⟩
    unfold missingDependencyConflict at hConflict
    dsimp only at hConflict
    split at hConflict
    · next hBoth => exact hBoth.2
    · cases hConflict
  · intro hOpen
    obtain ⟨dependency, hDependency, hNames⟩ := (dependenciesSatisfied_nil mutation).mp hOpen
    have hMissing : (mutation.dependencies.filter fun dependency =>
        dependency.operationId.isSome || dependency.eventHash.isSome ||
          dependency.minimumSchemaVersion.any (offlineMutationSchemaVersion < ·)) ≠ [] := by
      refine List.ne_nil_of_mem (List.mem_filter.mpr ⟨hDependency, ?_⟩)
      simpa [NamesPrerequisite, Option.isSome_iff_ne_none, Option.any_eq_true] using hNames
    obtain ⟨conflict, hSome⟩ : ∃ conflict, missingDependencyConflict mutation = some conflict :=
      ⟨_, if_pos ⟨hMissing, hOpen⟩⟩
    have hKind := (kind_of_missing hSome).1
    exact ⟨conflict, mem_previewConflicts.mpr (by rw [hKind]; exact ⟨mutation, hMem, hSome⟩), hSome⟩

/-- The report and the drain agree on the dependencies of every waiting mutation. -/
def MissingAgrees (preview : PreviewPullResponse) (mutations : List OfflineMutationEnvelope)
    (report : SyncConflictReport) : Prop :=
  ∀ mutation ∈ mutations, mutation.logbookId = preview.logbookId → mutation.status ≠ .accepted →
    (ReportsMissing report mutation ↔ dependenciesMet mutations mutation = false)

/-- They agree exactly when every waiting mutation that names prerequisites has
one that is still open. -/
theorem missing_agrees_iff (preview : PreviewPullResponse)
    (mutations : List OfflineMutationEnvelope) (now : DateTime) :
    MissingAgrees preview mutations (conflictReportFromPreview preview mutations now) ↔
      ∀ mutation ∈ mutations, mutation.logbookId = preview.logbookId →
        mutation.status ≠ .accepted →
          (∃ dependency ∈ mutation.dependencies, NamesPrerequisite dependency) →
            ∃ dependency ∈ mutation.dependencies, Unmet mutations dependency := by
  refine forall_congr' fun mutation => forall_congr' fun hMem => forall_congr' fun hLogbook =>
    forall_congr' fun hStatus => ?_
  have hPending : mutation ∈ pendingMutations preview mutations :=
    List.mem_filter.mpr ⟨hMem, decide_eq_true ⟨hLogbook, hStatus⟩⟩
  rw [reportsMissing_iff now hPending, dependenciesSatisfied_nil, dependenciesMet_eq_false]
  constructor
  · rintro hAgrees ⟨dependency, hDependency, hNames⟩
    exact hAgrees.mp ⟨dependency, hDependency, Or.inl hNames⟩
  · intro hOpen
    constructor
    · rintro ⟨dependency, hDependency, hNames | hVersion⟩
      · exact hOpen ⟨dependency, hDependency, hNames⟩
      · exact ⟨dependency, hDependency, Or.inr (Or.inr hVersion)⟩
    · rintro ⟨dependency, hDependency, ⟨id, hId, _⟩ | ⟨hash, hHash, _⟩ | hVersion⟩
      · exact ⟨dependency, hDependency, Or.inl (Or.inl (by rw [hId]; exact Option.some_ne_none id))⟩
      · exact ⟨dependency, hDependency,
          Or.inl (Or.inr (by rw [hHash]; exact Option.some_ne_none hash))⟩
      · exact ⟨dependency, hDependency, Or.inr hVersion⟩

end Report
end

namespace ConflictReport
open scoped Crates

/-- A mutation that waits, of an operation on an entity of the first logbook. -/
def waitingMutation (operationId : Uuid) (operationType : String) (entityId : Option Uuid) :
    OfflineMutationEnvelope :=
  { OfflineMutationEnvelope.new (Crates.sampleInput 1 operationId) 1 Crates.epoch 1 with
    operationType := operationType, entityId := entityId }

/-- A preview of one event on an entity of the first logbook. -/
def previewOf (eventType : EventType) (entityId : Uuid) : PreviewPullResponse where
  peerId := "peer"
  logbookId := 1
  status := .remoteAhead
  localHeadHash := none
  remoteHeadHash := none
  missingEventCount := 1
  remoteEventCount := 1
  events :=
    [{ eventId := 9, logbookId := 1, entityId := some entityId, previousHash := none,
       eventHash := "hash", timestamp := Crates.epoch, eventType := eventType, schemaVersion := 1 }]
  message := ""

/-- A remote deletion of a contact whose creation still waits is no conflict. -/
theorem deletion_of_created_contact_is_no_conflict :
    let created := waitingMutation 5 "qso.create" (some 7)
    let preview := previewOf .qsoDeleted 7
    created.logbookId = preview.logbookId ∧ created.status ≠ .accepted ∧
      (∃ event ∈ preview.events, event.eventType = .qsoDeleted ∧
        mutationEntityId created = event.entityId) ∧
      (conflictReportFromPreview preview [created] Crates.epoch).conflicts = [] := by
  decide +kernel

/-- A waiting mutation whose only prerequisite is accepted is reported. -/
theorem accepted_prerequisite_is_reported :
    let first := { waitingMutation 5 "qso.create" (some 7) with status := .accepted }
    let second := { waitingMutation 6 "qso.correct" (some 7) with
      sequence := 2, dependencies := [{ operationId := some 5 }] }
    let preview := previewOf .qsoNoteAdded 8
    OfflineQueueFile.validate { mutations := [first, second] } = .ok () ∧
      dependenciesMet [first, second] second = true ∧
      second ∈ readyMutations [first, second] 1 Crates.epoch ∧
      ReportsMissing (conflictReportFromPreview preview [first, second] Crates.epoch) second ∧
      ¬MissingAgrees preview [first, second]
        (conflictReportFromPreview preview [first, second] Crates.epoch) := by
  intro first second preview
  have hReported : ReportsMissing
      (conflictReportFromPreview preview [first, second] Crates.epoch) second :=
    (reportsMissing_iff Crates.epoch (by decide +kernel)).mpr (by decide +kernel)
  have hMet : dependenciesMet [first, second] second = true := by decide +kernel
  refine ⟨by decide +kernel, hMet, by decide +kernel, hReported, fun hAgrees => ?_⟩
  have hOpen := (hAgrees second (by simp) (by decide +kernel) (by decide +kernel)).mp hReported
  rw [hMet] at hOpen
  cases hOpen

end ConflictReport
end HamLogger
