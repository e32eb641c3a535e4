import HamLogger.Server.SyncIsolation
import HamLogger.Sync.PullGuarantees

/-! When an import that the dry run allows succeeds: the plan looks at hashes,
links and identifiers, and what comes after it also at types, versions, other
logbooks, records and configurations. -/
namespace HamLogger

open Program
open InMemoryLogbookEventStore (Represents)

/-! The events of a plan. -/

/-- An import ends at an event that is not valid. -/
theorem HostedServer.appendBackupEvents_refused [CanonicalJson] [Sha2Crate]
    {store later : InMemoryLogbookEventStore}
    {first second stored : CoreEventEnvelope} {rest : List CoreEventEnvelope} {error : StoreError}
    (hFirst : store.appendVerifiedRemoteEvent first = (later, .ok stored))
    (hSecond : validateSupportedRemoteEvent second = .error error) :
    appendBackupEvents store (first :: second :: rest) = (later, .error error) := by
  have hRefused : later.appendVerifiedRemoteEvent second = (later, .error error) := by
    rw [InMemoryLogbookEventStore.appendVerifiedRemoteEvent, hSecond]
  rw [appendBackupEvents, hFirst]
  dsimp only
  rw [appendBackupEvents, hRefused]
  rfl

section Planned
variable [UuidCrate] [CanonicalJson] [Sha2Crate] {logbookId : Uuid}

/-- Nothing is wrong with an event after those before it. -/
structure Continues (logbookId : Uuid) (seen : List CoreEventEnvelope) (event : CoreEventEnvelope) :
    Prop where
  distinct : event.eventId ∉ seen.map CoreEventEnvelope.eventId
  own : event.logbookId = logbookId
  valid : event.hashIsValid = true
  linked : event.previousHash = headHash seen

theorem backupEventErrors_eq_nil {seen : List CoreEventEnvelope} {event : CoreEventEnvelope} :
    backupEventErrors logbookId seen event = [] ↔ Continues logbookId seen event := by
  unfold backupEventErrors
  simp only [List.append_eq_nil_iff, ite_eq_right_iff, List.cons_ne_nil, imp_false, not_not,
    Bool.not_eq_false, ne_eq]
  constructor
  · intro h
    exact ⟨h.1.1.1, h.1.1.2, h.1.2, h.2⟩
  · intro h
    exact ⟨⟨⟨h.distinct, h.own⟩, h.valid⟩, h.linked⟩

theorem backupErrors_append (seen first second : List CoreEventEnvelope) :
    backupErrors logbookId seen (first ++ second) =
      backupErrors logbookId seen first ++ backupErrors logbookId (seen ++ first) second := by
  induction first generalizing seen with
  | nil => rw [List.append_nil]; rfl
  | cons event rest ih =>
      show _ ++ backupErrors logbookId (seen ++ [event]) (rest ++ second) = _
      rw [ih, List.append_assoc, ← List.append_assoc, List.singleton_append]
      rfl

/-- Planned events have identifiers of their own. -/
theorem distinct_of_planned {seen events : List CoreEventEnvelope}
    (h : backupErrors logbookId seen events = []) {event : CoreEventEnvelope}
    (hMem : event ∈ events) : event.eventId ∉ seen.map CoreEventEnvelope.eventId := by
  induction events generalizing seen with
  | nil => cases hMem
  | cons first rest ih =>
      obtain ⟨hFirst, hRest⟩ := List.append_eq_nil_iff.mp h
      rcases List.mem_cons.mp hMem with hSame | hLater
      · rw [hSame]
        exact (backupEventErrors_eq_nil.mp hFirst).distinct
      · intro hSeen
        apply ih hRest hLater
        rw [List.map_append]
        exact List.mem_append_left _ hSeen

/-- Planned events make a chain. -/
theorem chainOk_of_planned {seen events : List CoreEventEnvelope}
    (h : backupErrors logbookId seen events = []) :
    (∀ event ∈ events, event.hashIsValid = true) ∧
      eventChain.Linked (headHash seen) events := by
  induction events generalizing seen with
  | nil => exact ⟨fun _ hMem => absurd hMem List.not_mem_nil, trivial⟩
  | cons first rest ih =>
      obtain ⟨hFirst, hRest⟩ := List.append_eq_nil_iff.mp h
      have hContinues := backupEventErrors_eq_nil.mp hFirst
      obtain ⟨hValid, hLinked⟩ := ih hRest
      have hHead : headHash (seen ++ [first]) = some first.eventHash := by
        simp [headHash]
      rw [hHead] at hLinked
      refine ⟨?_, hContinues.linked, hLinked⟩
      intro event hMem
      rcases List.mem_cons.mp hMem with hSame | hLater
      · rw [hSame]
        exact hContinues.valid
      · exact hValid event hLater

/-- A stored event that the validation accepts, with an identifier that the
store does not have. -/
def Acceptable (store : InMemoryLogbookEventStore) (event : CoreEventEnvelope) : Prop :=
  event.schemaVersion = 1 ∧ isSupportedRemoteType event.eventType = true ∧
    store.getEvent event.eventId = none

/-- Planned events are all appended exactly where they are acceptable. -/
theorem appendBackupEvents_ok_iff {store : InMemoryLogbookEventStore}
    {history seen events : List CoreEventEnvelope} (h : store.Represents history)
    (hSeen : ofLogbook history logbookId = seen)
    (hPlan : backupErrors logbookId seen events = []) :
    (∃ imported, (HostedServer.appendBackupEvents store events).2 = .ok imported) ↔
      ∀ event ∈ events, Acceptable store event := by
  induction events generalizing store history seen with
  | nil => exact iff_of_true ⟨0, rfl⟩ fun _ hMem => absurd hMem List.not_mem_nil
  | cons first rest ih =>
      obtain ⟨hFirst, hRest⟩ := List.append_eq_nil_iff.mp hPlan
      have hContinues := backupEventErrors_eq_nil.mp hFirst
      have hHead : first.previousHash = store.getHead first.logbookId := by
        rw [hContinues.own, h.head, hSeen, hContinues.linked, headHash_eq_tip]
      by_cases hFits : Acceptable store first
      · obtain ⟨hVersion, hType, hNew⟩ := hFits
        have hValid : validateSupportedRemoteEvent first = .ok () :=
          (validateSupportedRemoteEvent_ok_iff first).mpr ⟨hContinues.valid, hVersion, hType⟩
        have hAppend := InMemoryLogbookEventStore.appendVerifiedRemoteEvent_new hValid hNew hHead
        have hLater : ofLogbook (history ++ [first]) logbookId = seen ++ [first] := by
          rw [ofLogbook_append, hSeen, ofLogbook_self (by simpa using hContinues.own)]
        have hIh := ih (h.insertEvent hNew) hLater hRest
        rw [HostedServer.appendBackupEvents, hAppend]
        dsimp only
        have hAll : (∀ event ∈ rest, Acceptable (store.insertEvent first) event) ↔
            ∀ event ∈ first :: rest, Acceptable store event := by
          have hApart : ∀ event ∈ rest, event.eventId ≠ first.eventId := by
            intro event hMem hSame
            apply distinct_of_planned hRest hMem
            rw [hSame, List.map_append]
            simp
          have hUnused : ∀ event ∈ rest, ((store.insertEvent first).getEvent event.eventId = none ↔
              store.getEvent event.eventId = none) := by
            intro event hMem
            rw [InMemoryLogbookEventStore.getEvent_insertEvent, if_neg (hApart event hMem)]
          rw [List.forall_mem_cons, and_iff_right ⟨hVersion, hType, hNew⟩]
          exact forall₂_congr fun event hMem => by
            unfold Acceptable
            rw [hUnused event hMem]
        rw [← hAll, ← hIh]
        rcases HostedServer.appendBackupEvents (store.insertEvent first) rest with ⟨final, outcome⟩
        cases outcome with
        | error error =>
            refine iff_of_false ?_ ?_
            · intro hOk
              cases hOk.choose_spec
            · intro hOk
              cases hOk.choose_spec
        | ok imported => exact iff_of_true ⟨imported + 1, rfl⟩ ⟨imported, rfl⟩
      · refine iff_of_false ?_ fun hAll => hFits (hAll first List.mem_cons_self)
        intro hOk
        rw [HostedServer.appendBackupEvents] at hOk
        rcases store.appendVerifiedRemoteEvent_cases first with ⟨error, hError⟩ |
          ⟨_, hStored, _⟩ | ⟨hValid, hNew, _, _⟩
        · rw [hError] at hOk
          cases hOk with | intro _ hOk => cases hOk
        · obtain ⟨hMem, _⟩ := (h.event _ _).mp hStored
          apply hContinues.distinct
          rw [← hSeen]
          exact List.mem_map_of_mem (mem_ofLogbook.mpr ⟨hMem, hContinues.own⟩)
        · obtain ⟨_, hVersion, hType⟩ := (validateSupportedRemoteEvent_ok_iff first).mp hValid
          exact hFits ⟨hVersion, hType, hNew⟩

/-- Appended events follow those of the logbook. -/
theorem represents_appended {store : InMemoryLogbookEventStore}
    {history seen events : List CoreEventEnvelope} (h : store.Represents history)
    (hSeen : ofLogbook history logbookId = seen)
    (hPlan : backupErrors logbookId seen events = []) {imported : Nat}
    (hOk : (HostedServer.appendBackupEvents store events).2 = .ok imported) :
    imported = events.length ∧ ∃ later, (HostedServer.appendBackupEvents store events).1.Represents
      later ∧ ofLogbook later logbookId = seen ++ events := by
  induction events generalizing store history seen imported with
  | nil =>
      cases hOk
      exact ⟨rfl, history, h, by rw [hSeen, List.append_nil]⟩
  | cons first rest ih =>
      obtain ⟨hFirst, hRest⟩ := List.append_eq_nil_iff.mp hPlan
      have hContinues := backupEventErrors_eq_nil.mp hFirst
      rw [HostedServer.appendBackupEvents] at hOk ⊢
      rcases store.appendVerifiedRemoteEvent_cases first with ⟨error, hError⟩ |
        ⟨_, hStored, _⟩ | ⟨_, hNew, _, hAppend⟩
      · rw [hError] at hOk
        cases hOk
      · obtain ⟨hMem, _⟩ := (h.event _ _).mp hStored
        refine absurd ?_ hContinues.distinct
        rw [← hSeen]
        exact List.mem_map_of_mem (mem_ofLogbook.mpr ⟨hMem, hContinues.own⟩)
      · rw [hAppend] at hOk ⊢
        have hLater : ofLogbook (history ++ [first]) logbookId = seen ++ [first] := by
          rw [ofLogbook_append, hSeen, ofLogbook_self (by simpa using hContinues.own)]
        dsimp only at hOk ⊢
        rcases hRun : HostedServer.appendBackupEvents (store.insertEvent first) rest with
          ⟨final, outcome⟩
        rw [hRun] at hOk
        cases outcome with
        | error error => cases hOk
        | ok count =>
            have hIh := ih (h.insertEvent hNew) hLater hRest (by rw [hRun])
            rw [hRun] at hIh
            obtain ⟨hCount, later, hRepresents, hList⟩ := hIh
            obtain rfl := Except.ok.inj hOk
            refine ⟨by rw [hCount]; rfl, later, hRepresents, ?_⟩
            rw [hList, List.append_assoc]
            rfl

theorem planned_events {backup : BackupDocument}
    (h : (validateBackupPlan logbookId backup).ok = true) :
    backupErrors logbookId [] (validateBackupPlan logbookId backup).events = [] := by
  unfold validateBackupPlan at h ⊢
  cases hManifest : backup.manifest with
  | none => rfl
  | some manifest =>
      cases hEvents : backup.officialEvents with
      | none => rfl
      | some events =>
          rw [hManifest, hEvents] at h
          exact (List.append_eq_nil_iff.mp (List.isEmpty_iff.mp h)).2

theorem events_of_planned {backup : BackupDocument}
    (h : (validateBackupPlan logbookId backup).ok = true) :
    (validateBackupPlan logbookId backup).events = backup.officialEvents.getD [] := by
  unfold validateBackupPlan at h ⊢
  cases hManifest : backup.manifest with
  | none =>
      rw [hManifest] at h
      cases h
  | some manifest =>
      cases hEvents : backup.officialEvents with
      | none => rfl
      | some events => rfl

end Planned

theorem prefix_iff_zip {existing events : List CoreEventEnvelope}
    (hLength : existing.length ≤ events.length) :
    (∀ pair ∈ existing.zip events, pair.1 = pair.2) ↔ existing <+: events := by
  induction existing generalizing events with
  | nil => exact iff_of_true (fun _ hMem => absurd hMem List.not_mem_nil) List.nil_prefix
  | cons first rest ih =>
      cases events with
      | nil => simp at hLength
      | cons event others =>
          rw [List.zip_cons_cons, List.forall_mem_cons, List.cons_prefix_cons,
            ih (by simpa using hLength)]

/-- A logbook that may take a backup has a beginning of its events. -/
theorem targetError_eq_none [UuidCrate] {existing events : List CoreEventEnvelope} :
    HostedServer.targetError existing events = none ↔ existing <+: events := by
  unfold HostedServer.targetError
  by_cases hLength : existing.length > events.length
  · rw [if_pos hLength]
    refine iff_of_false nofun fun hPrefix => ?_
    have := hPrefix.length_le
    omega
  · rw [if_neg hLength, Option.map_eq_none_iff, List.find?_eq_none,
      ← prefix_iff_zip (by omega)]
    simp
/-! The records of a backup. -/

/-- Every entry of a section can be read, and is let through. -/
def AllRead {Record : Type} (good : Record → Prop)
    (entries : Option (List (Except String Record))) : Prop :=
  ∀ found ∈ entries, ∀ entry ∈ found, ∃ record, entry = .ok record ∧ good record

/-- Every record of the backup can be read, and no configuration in it has a
field that looks like a secret. -/
structure BackupDocument.Restorable (backup : BackupDocument) : Prop where
  stations : AllRead (fun _ => True) backup.stationProfiles
  equipment : AllRead (fun _ => True) backup.equipmentProfiles
  settings : AllRead (fun setting : HostedProviderSetting => secretField setting.config = none)
    backup.providerSettings
  uploads : AllRead (fun _ => True) backup.uploadQueueHistory
  maps : AllRead (fun _ => True) (backup.mapSettings.map fun settings => [settings])

theorem ofExcept_ok_iff {Error α : Type} {outcome : Except Error α} {value : α} :
    Outcome.ofExcept outcome = .ok value ↔ outcome = .ok value := by
  cases outcome with
  | error error => exact iff_of_false nofun nofun
  | ok found => simp

namespace HostedServer
variable [UuidCrate]

/-- A program that returns, or is refused, whatever the state. -/
def Returns {α : Type} (program : Handler α) (test : Prop) : Prop :=
  ∀ state, (∃ later value, program.execute state = (later, .ok value)) ↔ test

theorem returns_bind {α β : Type} {first : Handler α} {next : α → Handler β} {test rest : Prop}
    (hFirst : Returns first test) (hNext : ∀ value, Returns (next value) rest) :
    Returns (first >>= next) (test ∧ rest) := by
  intro state
  constructor
  · intro h
    obtain ⟨later, value, hRun⟩ := h
    obtain ⟨middle, result, hHead, hTail⟩ := execute_bind_ok.mp hRun
    exact ⟨(hFirst state).mp ⟨middle, result, hHead⟩,
      (hNext result middle).mp ⟨later, value, hTail⟩⟩
  · intro h
    obtain ⟨middle, result, hHead⟩ := (hFirst state).mpr h.1
    obtain ⟨later, value, hTail⟩ := (hNext result middle).mpr h.2
    exact ⟨later, value, execute_bind_ok.mpr ⟨middle, result, hHead, hTail⟩⟩

theorem returns_pure {α : Type} (value : α) : Returns (pure value) True :=
  fun state => iff_of_true ⟨state, value, rfl⟩ trivial

theorem returns_modify (change : ServerState → ServerState) : Returns (modify change) True :=
  fun state => iff_of_true ⟨change state, ⟨⟩, rfl⟩ trivial

theorem Returns.congr {α : Type} {program : Handler α} {test other : Prop}
    (h : Returns program test) (hSame : test ↔ other) : Returns program other :=
  fun state => (h state).trans hSame

theorem returns_savingWith (failure : Option String) :
    Returns (savingWith failure) (failure = none) := by
  intro state
  simp only [savingWith_ok]
  exact ⟨fun h => h.choose_spec.choose_spec.2, fun h => ⟨state, (), rfl, h⟩⟩

theorem returns_restoreSection {Record : Type} {good : Record → Prop}
    {entries : Option (List (Except String Record))} {name invalid : String}
    {restore : Record → Handler Unit}
    (hRestore : ∀ record, Returns (restore record) (good record)) :
    Returns (restoreSection entries name invalid restore) (AllRead good entries) := by
  cases entries with
  | none => exact (returns_pure _).congr (iff_of_true trivial nofun)
  | some entries =>
      have hEntries : Returns (restoreEntries invalid restore entries)
          (∀ entry ∈ entries, ∃ record, entry = .ok record ∧ good record) := by
        induction entries with
        | nil =>
            exact (returns_pure ()).congr
              (iff_of_true trivial fun _ hMem => absurd hMem List.not_mem_nil)
        | cons entry rest ih =>
            cases entry with
            | error message =>
                intro state
                refine iff_of_false ?_ ?_
                · intro h
                  obtain ⟨later, value, hRun⟩ := h
                  cases hRun
                · intro h
                  obtain ⟨record, hRecord, _⟩ := h _ List.mem_cons_self
                  cases hRecord
            | ok record =>
                refine (returns_bind (hRestore record) fun _ => ih).congr ?_
                rw [List.forall_mem_cons]
                simp
      refine (returns_bind hEntries fun _ => returns_pure [name]).congr ?_
      simp [AllRead]

theorem returns_restoreProviderSetting (now : DateTime) (accountId logbookId : Uuid)
    (setting : HostedProviderSetting) :
    Returns (restoreProviderSetting now accountId logbookId setting)
      (secretField setting.config = none) := by
  have hChecked : Returns (ofExcept (validateSecretFreeConfig setting.config))
      (secretField setting.config = none) := by
    intro state
    unfold validateSecretFreeConfig
    cases secretField setting.config with
    | none => exact iff_of_true ⟨state, (), rfl⟩ rfl
    | some key =>
        refine iff_of_false ?_ nofun
        intro h
        obtain ⟨later, value, hRun⟩ := h
        cases hRun
  exact (returns_bind hChecked fun _ => returns_modify _).congr (and_iff_left trivial)

theorem returns_restoreBackupSupportMetadata (now : DateTime) (accountId logbookId : Uuid)
    (backup : BackupDocument) :
    Returns (restoreBackupSupportMetadata now accountId logbookId backup) backup.Restorable := by
  refine Returns.congr (returns_bind (returns_restoreSection fun _ => returns_modify _) fun _ =>
    returns_bind (returns_restoreSection fun _ => returns_modify _) fun _ =>
    returns_bind (returns_restoreSection fun setting =>
      returns_restoreProviderSetting now accountId logbookId setting) fun _ =>
    returns_bind (returns_restoreSection fun _ => returns_modify _) fun _ =>
    returns_bind (returns_restoreSection fun _ => returns_modify _) fun _ => returns_pure _) ?_
  constructor
  · intro h
    exact ⟨h.1, h.2.1, h.2.2.1, h.2.2.2.1, h.2.2.2.2.1⟩
  · intro h
    exact ⟨h.stations, h.equipment, h.settings, h.uploads, h.maps, trivial⟩

theorem keeps_restoreBackupSupportMetadata (now : DateTime) (accountId logbookId : Uuid)
    (backup : BackupDocument) :
    Keeps ServerState.syncView (restoreBackupSupportMetadata now accountId logbookId backup) := by
  apply keeps_bind (keeps_restoreSection fun _ _ => rfl)
  intro _
  apply keeps_bind (keeps_restoreSection fun _ _ => rfl)
  intro _
  apply keeps_bind (keeps_restoreSection fun _ => keeps_bind (keeps_ofExcept _) fun _ _ => rfl)
  intro _
  apply keeps_bind (keeps_restoreSection fun _ _ => rfl)
  intro _
  apply keeps_bind (keeps_restoreSection fun _ _ => rfl)
  intro _
  exact keeps_pure _

theorem storeOutcome_ok [RustFmt] {α : Type} {outcome : Outcome StoreError α}
    {state later : HostedState} {value : α} :
    (storeOutcome outcome).execute state = (later, .ok value) ↔
      later = state ∧ outcome = .ok value := by
  cases outcome with
  | ok found => simp [storeOutcome, eq_comm]
  | error failure =>
      cases failure with
      | error _ => exact iff_of_false (fun h => by cases h) (fun h => by cases h.2)
      | panic => exact iff_of_false (fun h => by cases h) (fun h => by cases h.2)

theorem onServer_ok {α : Type} {handler : Handler α} {state later : HostedState} {value : α} :
    (onServer handler).execute state = (later, .ok value) ↔
      ∃ server, handler.execute state.server = (server, .ok value) ∧
        later = { state with server := server } := by
  rw [execute_onServer]
  rcases handler.execute state.server with ⟨server, outcome⟩
  simp only [Prod.mk.injEq]
  constructor
  · intro h
    exact ⟨server, ⟨rfl, h.2⟩, h.1.symm⟩
  · intro h
    obtain ⟨_, ⟨rfl, hOutcome⟩, hLater⟩ := h
    exact ⟨hLater.symm, hOutcome⟩

variable [Sha2Crate]

theorem execute_requireLogbookRole (context : RequestContext) (logbookId : Uuid)
    (access : LogbookAccess) (state : ServerState) :
    (requireLogbookRole context logbookId access).execute state =
      (state, ((requireLogbookRole context logbookId access).execute state).2) := by
  have hKeeps : Keeps (fun state : ServerState => state)
      (requireLogbookRole context logbookId access) :=
    keeps_requireLogbookRole context logbookId access
  exact Prod.ext (hKeeps state) rfl

variable [CanonicalJson]

/-- The events that an open import appends continue those of the logbook. -/
theorem newBackupEvents_planned {context : RequestContext} {input : BackupImportInput}
    {state : HostedState} {auth : AuthorizedLogbook} (h : ImportOpens context input state auth) :
    (validateBackupPlan input.logbookId input.backup).events =
        state.store.listEvents input.logbookId ++ newBackupEvents input state.store ∧
      backupErrors input.logbookId (state.store.listEvents input.logbookId)
        (newBackupEvents input state.store) = [] := by
  have hPrefix := targetError_eq_none.mp h.onTarget
  have hSplit : (validateBackupPlan input.logbookId input.backup).events =
      state.store.listEvents input.logbookId ++ newBackupEvents input state.store :=
    List.prefix_append_drop hPrefix
  have hErrors := planned_events h.planned
  rw [hSplit, backupErrors_append, List.nil_append] at hErrors
  exact ⟨hSplit, (List.append_eq_nil_iff.mp hErrors).2⟩

/-- The dry run answers exactly the members that may administer the logbook. -/
theorem backupImportDryRun_ok {context : RequestContext} {logbookId : Uuid}
    {backup : BackupDocument} {server later : ServerState} {response : BackupDryRunResponse} :
    (backupImportDryRun context (.ok ⟨logbookId, backup⟩)).execute server = (later, .ok response) ↔
      later = server ∧ response = (validateBackupPlan logbookId backup).toDryRunResponse ∧
        ∃ auth, ((requireLogbookRole context logbookId .admin).execute server).2 = .ok auth := by
  have hAuth := execute_requireLogbookRole context logbookId .admin server
  rw [backupImportDryRun, execute_bind]
  show (Program.execute (_ >>= _) server) = _ ↔ _
  rw [execute_bind, hAuth]
  cases ((requireLogbookRole context logbookId .admin).execute server).2 with
  | error error => exact iff_of_false nofun fun h => by cases h.2.2.choose_spec
  | ok auth =>
      constructor
      · intro h
        cases h
        exact ⟨rfl, rfl, auth, rfl⟩
      · intro h
        rw [h.1, h.2.1]
        rfl

variable [RustFmt]

/-- The rest of an import, once its events were handed to the store. -/
def finishImport (context : RequestContext) (input : BackupImportInput) (auth : AuthorizedLogbook)
    (skipped : Nat) (store : InMemoryLogbookEventStore) (appended : Except StoreError Nat) :
    EventHandler BackupImportResponse := do
  modify fun state => { state with store := store }
  let imported ← storeOutcome (Outcome.ofExcept appended)
  storeOutcome (Outcome.ofExcept (store.verifyChain input.logbookId))
  let projection ← storeOutcome (store.rebuildProjections input.logbookId)
  let restored ← onServer do
    let restored ← restoreBackupSupportMetadata context.now auth.session.accountId input.logbookId
      input.backup
    persistMetadata context
    return restored
  let plan := validateBackupPlan input.logbookId input.backup
  return { importedOfficialEventsCount := imported, skippedDuplicateCount := skipped,
           restoredSupportSections := restored,
           missingCredentialReferences := plan.missingCredentialReferences,
           warnings := plan.warnings, finalChainHead := store.getHead input.logbookId,
           qsoCount := (projection.list false).length }

theorem execute_backupImport {context : RequestContext} {input : BackupImportInput}
    {state : HostedState} {auth : AuthorizedLogbook} (h : ImportOpens context input state auth) :
    (backupImport context (.ok input)).execute state =
      (finishImport context input auth (state.store.listEvents input.logbookId).length
        (appendBackupEvents state.store (newBackupEvents input state.store)).1
        (appendBackupEvents state.store (newBackupEvents input state.store)).2).execute state := by
  have hAuth := execute_requireLogbookRole context input.logbookId .admin state.server
  rw [h.authorized] at hAuth
  have hConfirmed : ¬ (!input.confirmDryRun) = true := by simp [h.confirmed]
  have hPlanned : ¬ (!(validateBackupPlan input.logbookId input.backup).ok) = true := by
    simp [h.planned]
  have hTarget := h.onTarget
  rw [backupImport, execute_bind, execute_onServer]
  show (if _ then _ else _ : EventHandler _).execute state = _
  rw [if_neg hConfirmed, execute_bind, execute_onServer, hAuth]
  show (if _ then _ else _ : EventHandler _).execute state = _
  rw [if_neg hPlanned, execute_bind, execute_get]
  dsimp only
  rw [hTarget]
  rfl

/-- The checks after the events were appended. -/
theorem finishImport_ok_iff {context : RequestContext} {input : BackupImportInput}
    {auth : AuthorizedLogbook} {skipped : Nat} {store : InMemoryLogbookEventStore}
    {appended : Except StoreError Nat} {state : HostedState} :
    (∃ later response, (finishImport context input auth skipped store appended).execute state =
        (later, .ok response)) ↔
      (∃ imported, appended = .ok imported) ∧ store.verifyChain input.logbookId = .ok () ∧
        (∃ projection, store.rebuildProjections input.logbookId = .ok projection) ∧
        input.backup.Restorable ∧ context.saveFails = none := by
  have hRestore := (returns_bind (returns_restoreBackupSupportMetadata context.now
    auth.session.accountId input.logbookId input.backup) fun restored =>
      returns_bind (returns_savingWith context.saveFails) fun _ => returns_pure restored)
    state.server
  constructor
  · intro h
    obtain ⟨later, response, hRun⟩ := h
    obtain ⟨_, _, hSet, hRun⟩ := execute_bind_ok.mp hRun
    obtain ⟨_, imported, hAppended, hRun⟩ := execute_bind_ok.mp hRun
    obtain ⟨_, _, hVerified, hRun⟩ := execute_bind_ok.mp hRun
    obtain ⟨_, projection, hProjection, hRun⟩ := execute_bind_ok.mp hRun
    obtain ⟨_, _, hRestored, _⟩ := execute_bind_ok.mp hRun
    cases hSet
    obtain ⟨rfl, hImported⟩ := storeOutcome_ok.mp hAppended
    obtain ⟨rfl, hChain⟩ := storeOutcome_ok.mp hVerified
    obtain ⟨rfl, hRebuilt⟩ := storeOutcome_ok.mp hProjection
    obtain ⟨server, hServer, _⟩ := onServer_ok.mp hRestored
    obtain ⟨hRestorable, hSaved, _⟩ := hRestore.mp ⟨server, _, hServer⟩
    exact ⟨⟨imported, ofExcept_ok_iff.mp hImported⟩, ofExcept_ok_iff.mp hChain,
      ⟨projection, hRebuilt⟩, hRestorable, hSaved⟩
  · intro h
    obtain ⟨⟨imported, hAppended⟩, hVerified, ⟨projection, hProjection⟩, hRestorable, hSaved⟩ := h
    obtain ⟨server, restored, hServer⟩ := hRestore.mpr ⟨hRestorable, hSaved, trivial⟩
    refine ⟨_, _, execute_bind_ok.mpr ⟨{ state with store := store }, _, rfl,
      execute_bind_ok.mpr ⟨_, imported, storeOutcome_ok.mpr ⟨rfl, ofExcept_ok_iff.mpr hAppended⟩,
      execute_bind_ok.mpr ⟨_, (), storeOutcome_ok.mpr ⟨rfl, ofExcept_ok_iff.mpr hVerified⟩,
      execute_bind_ok.mpr ⟨_, projection, storeOutcome_ok.mpr ⟨rfl, hProjection⟩,
      execute_bind_ok.mpr ⟨_, restored, onServer_ok.mpr ⟨server, hServer, rfl⟩, rfl⟩⟩⟩⟩⟩⟩

/-- What an import that succeeds leaves and reports. -/
theorem finishImport_ok {context : RequestContext} {input : BackupImportInput}
    {auth : AuthorizedLogbook} {skipped : Nat} {store : InMemoryLogbookEventStore}
    {appended : Except StoreError Nat} {state later : HostedState}
    {response : BackupImportResponse}
    (h : (finishImport context input auth skipped store appended).execute state =
      (later, .ok response)) :
    later.store = store ∧ appended = .ok response.importedOfficialEventsCount := by
  obtain ⟨_, _, hSet, hRun⟩ := execute_bind_ok.mp h
  obtain ⟨_, imported, hAppended, hRun⟩ := execute_bind_ok.mp hRun
  obtain ⟨_, _, hVerified, hRun⟩ := execute_bind_ok.mp hRun
  obtain ⟨_, projection, hProjection, hRun⟩ := execute_bind_ok.mp hRun
  obtain ⟨_, _, hRestored, hRun⟩ := execute_bind_ok.mp hRun
  cases hSet
  obtain ⟨rfl, hImported⟩ := storeOutcome_ok.mp hAppended
  obtain ⟨rfl, _⟩ := storeOutcome_ok.mp hVerified
  obtain ⟨rfl, _⟩ := storeOutcome_ok.mp hProjection
  obtain ⟨server, _, rfl⟩ := onServer_ok.mp hRestored
  cases hRun
  exact ⟨rfl, ofExcept_ok_iff.mp hImported⟩

/-- What an import needs where its plan is without errors. -/
structure Complete (context : RequestContext) (input : BackupImportInput)
    (store : InMemoryLogbookEventStore) : Prop where
  acceptable : ∀ event ∈ newBackupEvents input store, Acceptable store event
  rebuilds : ∃ projection, Projection.rebuild QsoCurrentStateProjection
    (validateBackupPlan input.logbookId input.backup).events = .ok projection
  restorable : input.backup.Restorable
  saved : context.saveFails = none

section Opened
variable {context : RequestContext} {input : BackupImportInput} {state : HostedState}
  {auth : AuthorizedLogbook}

theorem import_succeeds_iff (hStore : state.store.Consistent)
    (h : ImportOpens context input state auth) :
    (∃ later response, (backupImport context (.ok input)).execute state =
        (later, .ok response)) ↔ Complete context input state.store := by
  obtain ⟨history, hHistory⟩ := hStore
  obtain ⟨hSplit, hPlanned⟩ := newBackupEvents_planned h
  have hSeen : ofLogbook history input.logbookId = state.store.listEvents input.logbookId :=
    (hHistory.listEvents _).symm
  have hAppends := appendBackupEvents_ok_iff hHistory hSeen hPlanned
  rw [execute_backupImport h, finishImport_ok_iff]
  constructor
  · intro hAll
    obtain ⟨⟨imported, hImported⟩, _, ⟨projection, hProjection⟩, hRestorable, hSaved⟩ := hAll
    obtain ⟨_, later, hLater, hList⟩ := represents_appended hHistory hSeen hPlanned hImported
    refine ⟨hAppends.mp ⟨imported, hImported⟩, ?_, hRestorable, hSaved⟩
    unfold InMemoryLogbookEventStore.rebuildProjections at hProjection
    rw [hLater.listEvents, hList, ← hSplit] at hProjection
    cases hRebuilt : Projection.rebuild QsoCurrentStateProjection
        (validateBackupPlan input.logbookId input.backup).events with
    | ok rebuilt => exact ⟨rebuilt, rfl⟩
    | error fault =>
        rw [hRebuilt] at hProjection
        cases fault <;> cases hProjection
  · intro hComplete
    obtain ⟨imported, hImported⟩ := hAppends.mpr hComplete.acceptable
    obtain ⟨_, later, hLater, hList⟩ := represents_appended hHistory hSeen hPlanned hImported
    refine ⟨⟨imported, hImported⟩, ?_, ?_, hComplete.restorable, hComplete.saved⟩
    · rw [hLater.verifyChain_eq_ok_iff, hLater.listEvents, hList, ← hSplit]
      exact chainOk_of_planned (planned_events h.planned)
    · obtain ⟨projection, hProjection⟩ := hComplete.rebuilds
      refine ⟨projection, ?_⟩
      unfold InMemoryLogbookEventStore.rebuildProjections
      rw [hLater.listEvents, hList, ← hSplit, hProjection]
      rfl

/-- What an import that succeeds leaves. -/
theorem import_done (hStore : state.store.Consistent) (h : ImportOpens context input state auth)
    {later : HostedState} {response : BackupImportResponse}
    (hRun : (backupImport context (.ok input)).execute state = (later, .ok response)) :
    response.importedOfficialEventsCount = (newBackupEvents input state.store).length ∧
      later.store.Consistent ∧ later.store.listEvents input.logbookId =
        (validateBackupPlan input.logbookId input.backup).events ∧
      (newBackupEvents input state.store = [] → later.store = state.store) ∧
      SeenAlike state.server later.server := by
  obtain ⟨history, hHistory⟩ := hStore
  obtain ⟨hSplit, hPlanned⟩ := newBackupEvents_planned h
  have hSeen : ofLogbook history input.logbookId = state.store.listEvents input.logbookId :=
    (hHistory.listEvents _).symm
  have hView : (((backupImport context (.ok input)).execute state).1.server).syncView =
      state.server.syncView := by
    apply backupImport_view context input state (Q := fun view => view = state.server.syncView)
    · rfl
    · intro auth _
      exact (keeps_restoreBackupSupportMetadata _ _ _ _).leads fun _ => rfl
  rw [hRun] at hView
  rw [execute_backupImport h] at hRun
  obtain ⟨hStored, hAppended⟩ := finishImport_ok hRun
  obtain ⟨hCount, final, hFinal, hList⟩ := represents_appended hHistory hSeen hPlanned hAppended
  rw [← hStored] at hFinal
  refine ⟨hCount, ⟨final, hFinal⟩, ?_, ?_, hView.symm⟩
  · rw [hFinal.listEvents, hList, hSplit]
  · intro hNone
    rw [hStored, hNone]
    rfl

end Opened

section Exact
variable {context : RequestContext} {logbookId : Uuid} {backup : BackupDocument}
  {state : HostedState}

/-- An import that does not open changes nothing. -/
theorem backupImport_closed {input : BackupImportInput}
    (h : ∀ auth, ¬ ImportOpens context input state auth) :
    ((backupImport context (.ok input)).execute state).1 = state := by
  have hAuth := execute_requireLogbookRole context input.logbookId .admin state.server
  rw [backupImport, execute_bind, execute_onServer]
  show (Program.execute (if _ then _ else _) state).1 = _
  by_cases hConfirmed : input.confirmDryRun = true
  · rw [if_neg (by simp [hConfirmed]), execute_bind, execute_onServer, hAuth]
    cases hOutcome :
        ((requireLogbookRole context input.logbookId .admin).execute state.server).2 with
    | error error => rfl
    | ok auth =>
        show (Program.execute (if _ then _ else _) state).1 = _
        by_cases hPlanned : (validateBackupPlan input.logbookId input.backup).ok = true
        · rw [if_neg (by simp [hPlanned]), execute_bind, execute_get]
          dsimp only
          cases hTarget : targetError (state.store.listEvents input.logbookId)
              (validateBackupPlan input.logbookId input.backup).events with
          | some message => rfl
          | none => exact absurd ⟨hConfirmed, hOutcome, hPlanned, hTarget⟩ (h auth)
        · rw [if_pos (by simp [hPlanned])]
          rfl
  · rw [if_pos (by simp [hConfirmed])]
    rfl

/-- An import that the dry run allows takes the whole backup, and the next one
nothing more. One that fails leaves everything as it was. -/
structure ImportsExactly (context : RequestContext) (logbookId : Uuid) (backup : BackupDocument)
    (state : HostedState) : Prop where
  complete : ∀ server response,
    (backupImportDryRun context (.ok ⟨logbookId, backup⟩)).execute state.server =
        (server, .ok response) → response.wouldImport = true →
      state.store.listEvents logbookId <+: backup.officialEvents.getD [] →
        ∃ later imported, (backupImport context (.ok ⟨logbookId, backup, true⟩)).execute state =
            (later, .ok imported) ∧
          later.store.listEvents logbookId = backup.officialEvents.getD [] ∧
          ∃ final again, (backupImport context (.ok ⟨logbookId, backup, true⟩)).execute later =
              (final, .ok again) ∧
            again.importedOfficialEventsCount = 0 ∧ final.store = later.store
  atomic : ∀ later error, (backupImport context (.ok ⟨logbookId, backup, true⟩)).execute state =
    (later, .error error) → later = state

theorem imports_exactly_iff (context : RequestContext) (logbookId : Uuid)
    (backup : BackupDocument) (state : HostedState) (hStore : state.store.Consistent) :
    ImportsExactly context logbookId backup state ↔
      ∀ auth, ImportOpens context ⟨logbookId, backup, true⟩ state auth →
        Complete context ⟨logbookId, backup, true⟩ state.store := by
  constructor
  · intro h auth hOpens
    have hPlan : (validateBackupPlan logbookId backup).ok = true := hOpens.planned
    have hDryRun : (backupImportDryRun context (.ok ⟨logbookId, backup⟩)).execute state.server =
        (state.server, .ok (validateBackupPlan logbookId backup).toDryRunResponse) :=
      backupImportDryRun_ok.mpr ⟨rfl, rfl, auth, hOpens.authorized⟩
    have hPrefix := targetError_eq_none.mp hOpens.onTarget
    rw [events_of_planned hPlan] at hPrefix
    obtain ⟨later, imported, hRun, _⟩ := h.complete _ _ hDryRun hPlan hPrefix
    exact (import_succeeds_iff hStore hOpens).mp ⟨later, imported, hRun⟩
  · intro h
    constructor
    · intro server response hDryRun hWould hPrefix
      obtain ⟨_, hResponse, auth, hAuth⟩ := backupImportDryRun_ok.mp hDryRun
      rw [hResponse] at hWould
      have hEvents := events_of_planned hWould
      have hOpens : ImportOpens context ⟨logbookId, backup, true⟩ state auth :=
        ⟨rfl, hAuth, hWould, targetError_eq_none.mpr (by rw [hEvents]; exact hPrefix)⟩
      have hComplete := h auth hOpens
      obtain ⟨later, imported, hRun⟩ := (import_succeeds_iff hStore hOpens).mpr hComplete
      obtain ⟨_, hLater, hList, _, hSeen⟩ := import_done hStore hOpens hRun
      have hAgain : ImportOpens context ⟨logbookId, backup, true⟩ later auth := by
        refine ⟨rfl, ?_, hWould, targetError_eq_none.mpr ?_⟩
        · exact (matches_requireLogbookRole hSeen context logbookId .admin).2.symm.trans hAuth
        · rw [hList]
      have hNothing : newBackupEvents ⟨logbookId, backup, true⟩ later.store = [] := by
        unfold newBackupEvents
        rw [hList, List.drop_length]
      have hCompleteAgain : Complete context ⟨logbookId, backup, true⟩ later.store := by
        refine ⟨?_, hComplete.rebuilds, hComplete.restorable, hComplete.saved⟩
        rw [hNothing]
        exact fun _ hMem => absurd hMem List.not_mem_nil
      obtain ⟨final, again, hSecond⟩ := (import_succeeds_iff hLater hAgain).mpr hCompleteAgain
      obtain ⟨hCount, _, _, hKept, _⟩ := import_done hLater hAgain hSecond
      refine ⟨later, imported, hRun, hList.trans hEvents, final, again, hSecond, ?_, ?_⟩
      · rw [hCount, hNothing]
        rfl
      · exact hKept hNothing
    · intro later error hRun
      by_cases hOpens : ∃ auth, ImportOpens context ⟨logbookId, backup, true⟩ state auth
      · obtain ⟨auth, hOpens⟩ := hOpens
        obtain ⟨_, _, hOk⟩ := (import_succeeds_iff hStore hOpens).mpr (h auth hOpens)
        rw [hOk] at hRun
        cases hRun
      · have hClosed := backupImport_closed fun auth hAuth => hOpens ⟨auth, hAuth⟩
        rw [hRun] at hClosed
        exact hClosed

/-- An import into an empty logbook that the dry run allows, and the store
refuses after it took some events. -/
theorem import_fails {server : ServerState} {store later : InMemoryLogbookEventStore}
    {auth : AuthorizedLogbook} {error : StoreError}
    (hAuth : ((requireLogbookRole context logbookId .admin).execute server).2 = .ok auth)
    (hNothing : store.listEvents logbookId = [])
    (hPlanned : (validateBackupPlan logbookId backup).ok = true)
    (hAppended : appendBackupEvents store (backup.officialEvents.getD []) = (later, .error error))
    (hTaken : later.listEvents logbookId ≠ []) :
    (∃ final response, (backupImportDryRun context (.ok ⟨logbookId, backup⟩)).execute server =
      (final, .ok response) ∧ response.wouldImport = true) ∧
    (∃ final fault, (backupImport context (.ok ⟨logbookId, backup, true⟩)).execute
        ⟨server, store⟩ = (final, .error fault) ∧
      final.store.listEvents logbookId = later.listEvents logbookId) ∧
    ¬ ImportsExactly context logbookId backup ⟨server, store⟩ := by
  have hOpens : ImportOpens context ⟨logbookId, backup, true⟩ ⟨server, store⟩ auth :=
    ⟨rfl, hAuth, hPlanned, targetError_eq_none.mpr (by rw [hNothing]; exact List.nil_prefix)⟩
  have hNew : newBackupEvents ⟨logbookId, backup, true⟩ store = backup.officialEvents.getD [] := by
    unfold newBackupEvents
    rw [hNothing, events_of_planned hPlanned]
    rfl
  obtain ⟨hStore, hError⟩ := SyncRequest.backupImport_opened hOpens
  rw [hNew, hAppended] at hStore hError
  rcases hRun : (backupImport context (.ok ⟨logbookId, backup, true⟩)).execute ⟨server, store⟩ with
    ⟨final, outcome⟩
  rw [hRun] at hStore hError
  obtain rfl : final.store = later := hStore
  obtain rfl : outcome = _ := hError error rfl
  refine ⟨⟨server, _, backupImportDryRun_ok.mpr ⟨rfl, rfl, auth, hAuth⟩, hPlanned⟩,
    ⟨final, _, rfl, rfl⟩, fun h => ?_⟩
  rw [h.atomic final _ hRun] at hTaken
  exact hTaken hNothing

end Exact

end HostedServer

section
open Crates

/-- A backup of the logbook that has nothing but events. -/
def eventsBackup (events : List CoreEventEnvelope) : BackupDocument where
  manifest := some { formatVersion := some 1, logbookId := some 102 }
  officialEvents := some events

theorem imports_exactly_iff_empty :
    HostedServer.ImportsExactly administratorRequest 102 (eventsBackup []) (hostedWith {}) := by
  apply (HostedServer.imports_exactly_iff administratorRequest 102 (eventsBackup [])
    (hostedWith {}) ⟨_, InMemoryLogbookEventStore.represents_empty⟩).mpr
  intro auth _
  refine ⟨fun _ hMem => absurd hMem List.not_mem_nil, ⟨_, rfl⟩, ?_, rfl⟩
  constructor <;> exact fun _ hNone => by cases hNone

/-- An incident that was opened after the first contact. -/
def laterIncident : CoreEventEnvelope :=
  CoreEventEnvelope.fromNew
    { sampleEvent .emcommIncidentOpened 102 (some 7) .null with sourcePluginId := none }
    (some firstContact.eventHash) (sampleStamp 9)

theorem administrator_authorized : ∃ auth, ((HostedServer.requireLogbookRole administratorRequest
    102 .admin).execute afterBootstrap).2 = .ok auth := by
  have hOk : ((HostedServer.requireLogbookRole administratorRequest 102 .admin).execute
      afterBootstrap).2.isOk = true := by
    decide +kernel
  cases hOutcome : ((HostedServer.requireLogbookRole administratorRequest 102 .admin).execute
      afterBootstrap).2 with
  | error error =>
      rw [hOutcome] at hOk
      cases hOk
  | ok auth => exact ⟨auth, rfl⟩

theorem planned_contact_incident : backupErrors 102 [] [firstContact, laterIncident] = [] := by
  have hContact : Continues 102 [] firstContact :=
    ⟨List.not_mem_nil, rfl, CoreEventEnvelope.fromNew_hashIsValid .., rfl⟩
  have hIncident : Continues 102 [firstContact] laterIncident := by
    refine ⟨?_, rfl, CoreEventEnvelope.fromNew_hashIsValid .., rfl⟩
    simp [firstContact, laterIncident, CoreEventEnvelope.fromNew, sampleStamp]
  exact List.append_eq_nil_iff.mpr ⟨backupEventErrors_eq_nil.mpr hContact,
    List.append_eq_nil_iff.mpr ⟨backupEventErrors_eq_nil.mpr hIncident, rfl⟩⟩

/-- The store takes the contact and refuses the incident. -/
theorem append_contact_incident :
    HostedServer.appendBackupEvents {} [firstContact, laterIncident] =
      (InMemoryLogbookEventStore.insertEvent {} firstContact,
        .error (.unsupportedEventType laterIncident.eventId laterIncident.eventType)) := by
  have hContact : InMemoryLogbookEventStore.appendVerifiedRemoteEvent {} firstContact =
      (InMemoryLogbookEventStore.insertEvent {} firstContact, .ok firstContact) := by
    apply InMemoryLogbookEventStore.appendVerifiedRemoteEvent_new
    · exact (validateSupportedRemoteEvent_fromNew ..).mpr ⟨rfl, rfl⟩
    · rfl
    · rfl
  have hRefused : validateSupportedRemoteEvent laterIncident =
      .error (.unsupportedEventType laterIncident.eventId laterIncident.eventType) := by
    have hHash : laterIncident.hashIsValid = true := CoreEventEnvelope.fromNew_hashIsValid ..
    unfold validateSupportedRemoteEvent
    rw [if_neg (by simp [hHash]), if_neg (by decide)]
    exact if_pos rfl
  exact HostedServer.appendBackupEvents_refused hContact hRefused

theorem planned_eventsBackup {events : List CoreEventEnvelope}
    (h : backupErrors 102 [] events = []) :
    (validateBackupPlan 102 (eventsBackup events)).ok = true :=
  List.isEmpty_iff.mpr (List.append_eq_nil_iff.mpr ⟨rfl, h⟩)

/-- A backup of a contact and an incident passes the dry run, and its import
fails at the incident with the contact in the store. -/
theorem import_half_applied :
    (∃ server response, (HostedServer.backupImportDryRun administratorRequest
        (.ok ⟨102, eventsBackup [firstContact, laterIncident]⟩)).execute afterBootstrap =
          (server, .ok response) ∧ response.wouldImport = true) ∧
    (∃ later fault, (HostedServer.backupImport administratorRequest
        (.ok ⟨102, eventsBackup [firstContact, laterIncident], true⟩)).execute (hostedWith {}) =
          (later, .error fault) ∧ later.store.listEvents 102 = [firstContact]) ∧
    ¬ HostedServer.ImportsExactly administratorRequest 102
      (eventsBackup [firstContact, laterIncident]) (hostedWith {}) := by
  obtain ⟨auth, hAuth⟩ := administrator_authorized
  have hNothing : InMemoryLogbookEventStore.listEvents {} 102 = [] :=
    InMemoryLogbookEventStore.represents_empty.listEvents 102
  have hContact : (InMemoryLogbookEventStore.insertEvent {} firstContact).listEvents 102 =
      [firstContact] := by
    rw [(InMemoryLogbookEventStore.represents_empty.insertEvent rfl).listEvents, List.nil_append]
    apply ofLogbook_self
    intro event hMem
    rw [List.mem_singleton.mp hMem]
    rfl
  have hPlanned := planned_eventsBackup planned_contact_incident
  have hFails := HostedServer.import_fails hAuth hNothing hPlanned append_contact_incident
  rw [hContact] at hFails
  exact hFails (List.cons_ne_nil _ _)

end
end HamLogger
