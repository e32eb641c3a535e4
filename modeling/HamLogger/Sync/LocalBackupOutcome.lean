import HamLogger.Server.ImportOutcome
import HamLogger.Sync.LocalBackup
import HamLogger.Sync.ProposalReplication

/-! When an import of the desktop client does what its dry run says. The checks
of a backup look at identifiers, hashes and links, and not at the logbook, the
version and the type of an event, which the appends look at. -/
namespace HamLogger

open InMemoryLogbookEventStore (Represents)
open Transition (Run)

theorem matchExisting_iff {existing events : List CoreEventEnvelope} :
    (matchExisting existing events).2 = true ↔ existing <+: events := by
  induction existing generalizing events with
  | nil => exact iff_of_true rfl List.nil_prefix
  | cons first rest ih =>
      cases events with
      | nil => simp [matchExisting]
      | cons event others =>
          unfold matchExisting
          rw [List.cons_prefix_cons]
          by_cases hSame : event = first
          · rw [if_pos hSame, ih, and_iff_right hSame.symm]
          · rw [if_neg hSame]
            exact iff_of_false (fun h => by cases h) fun h => hSame h.1.symm

/-- Appended events are put at the end of what was there. -/
theorem appendBackupEvents_represents [CanonicalJson] [Sha2Crate]
    {store : InMemoryLogbookEventStore}
    {history : List CoreEventEnvelope} (h : store.Represents history)
    (events : List CoreEventEnvelope) :
    ∃ more, (HostedServer.appendBackupEvents store events).1.Represents (history ++ more) ∧
      ∀ event ∈ more, event ∈ events := by
  induction events generalizing store history with
  | nil => exact ⟨[], by rw [List.append_nil]; exact h, fun _ hMem => by cases hMem⟩
  | cons event rest ih =>
      rw [HostedServer.appendBackupEvents]
      rcases store.appendVerifiedRemoteEvent_cases event with ⟨error, hError⟩ |
        ⟨_, _, hStored⟩ | ⟨_, hNew, _, hAppend⟩
      · rw [hError]
        exact ⟨[], by rw [List.append_nil]; exact h, fun _ hMem => by cases hMem⟩
      · rw [hStored]
        obtain ⟨more, hMore, hFrom⟩ := ih h
        exact ⟨more, hMore, fun other hMem => List.mem_cons_of_mem _ (hFrom other hMem)⟩
      · rw [hAppend]
        obtain ⟨more, hMore, hFrom⟩ := ih (h.insertEvent hNew)
        refine ⟨event :: more, by rw [List.append_cons]; exact hMore, ?_⟩
        intro other hMem
        rcases List.mem_cons.mp hMem with hSame | hLater
        · rw [hSame]
          exact List.mem_cons_self
        · exact List.mem_cons_of_mem _ (hFrom other hLater)

/-- The answer of an import is that of the projection of its events. -/
theorem localImportReply_ok_iff {Book Queue Layers : Type} [UuidCrate] [RustFmt]
    (profile : LocalProfile Book Queue Layers) {history : List CoreEventEnvelope}
    (h : profile.store.Represents history) (imported skipped : Nat) :
    (∃ reply, localImportReply profile imported skipped = .ok reply) ↔
      Projection.Rebuilds QsoCurrentStateProjection (ofLogbook history profile.logbookId) := by
  unfold localImportReply InMemoryLogbookEventStore.rebuildProjections Projection.Rebuilds
  rw [h.listEvents]
  cases Projection.rebuild QsoCurrentStateProjection (ofLogbook history profile.logbookId) with
  | ok projection => exact iff_of_true ⟨_, rfl⟩ ⟨_, rfl⟩
  | error fault =>
      refine iff_of_false ?_ ?_
      · rintro ⟨reply, hReply⟩
        cases fault <;> cases hReply
      · rintro ⟨projection, hProjection⟩
        cases hProjection

section Checks
variable {Book Queue Layers : Type} [UuidCrate] [CanonicalJson] [Sha2Crate]

/-- Events that the checks of a backup let through after those before them. -/
structure Unbroken (previousHash : Option String) (seen : List Uuid)
    (events : List CoreEventEnvelope) : Prop where
  distinct : (seen ++ events.map CoreEventEnvelope.eventId).Nodup
  valid : ∀ event ∈ events, event.hashIsValid = true
  linked : eventChain.Linked previousHash events

theorem checkBackupEvents_ok_iff (previousHash : Option String) {seen : List Uuid}
    (events : List CoreEventEnvelope) (hSeen : seen.Nodup) :
    checkBackupEvents previousHash seen events = .ok () ↔
      Unbroken previousHash seen events := by
  induction events generalizing previousHash seen with
  | nil =>
      refine iff_of_true rfl ⟨by simpa using hSeen, fun _ hMem => ?_, trivial⟩
      cases hMem
  | cons event rest ih =>
      unfold checkBackupEvents
      dsimp only
      by_cases hNew : event.eventId ∈ seen
      · rw [if_pos hNew]
        refine iff_of_false (fun h => by cases h) fun h => ?_
        have hApart := (List.nodup_append.mp h.distinct).2.2
        exact hApart _ hNew _ List.mem_cons_self rfl
      rw [if_neg hNew]
      by_cases hValid : event.hashIsValid = false
      · rw [if_pos hValid]
        refine iff_of_false (fun h => by cases h) fun h => ?_
        rw [h.valid event List.mem_cons_self] at hValid
        cases hValid
      rw [if_neg hValid]
      by_cases hLink : event.previousHash = previousHash
      · have hNext : (seen ++ [event.eventId]).Nodup := by
          rw [List.nodup_append_comm]
          exact List.nodup_cons.mpr ⟨hNew, hSeen⟩
        rw [if_neg (not_not.mpr hLink), ih _ hNext]
        constructor
        · intro h
          refine ⟨by simpa using h.distinct, ?_, hLink, h.linked⟩
          exact List.forall_mem_cons.mpr ⟨by simpa using hValid, h.valid⟩
        · intro h
          exact ⟨by simpa using h.distinct, (List.forall_mem_cons.mp h.valid).2, h.linked.2⟩
      · rw [if_pos hLink]
        exact iff_of_false (fun h => by cases h) fun h => hLink h.linked.1

/-- Unbroken events of one logbook are a plan of the hosted server. -/
theorem backupErrors_of_unbroken {logbookId : Uuid} {seen events : List CoreEventEnvelope}
    (hOwn : ∀ event ∈ events, event.logbookId = logbookId)
    (h : Unbroken (headHash seen) (seen.map CoreEventEnvelope.eventId) events) :
    backupErrors logbookId seen events = [] := by
  induction events generalizing seen with
  | nil => rfl
  | cons event rest ih =>
      obtain ⟨hFirst, hRest⟩ := List.forall_mem_cons.mp hOwn
      obtain ⟨hValid, hOthers⟩ := List.forall_mem_cons.mp h.valid
      refine List.append_eq_nil_iff.mpr ⟨backupEventErrors_eq_nil.mpr ?_, ih hRest ?_⟩
      · refine ⟨fun hMem => ?_, hFirst, hValid, h.linked.1⟩
        have hApart := (List.nodup_append.mp h.distinct).2.2
        exact hApart _ hMem _ List.mem_cons_self rfl
      · have hHead : headHash (seen ++ [event]) = some event.eventHash := by simp [headHash]
        rw [hHead]
        exact ⟨by simpa using h.distinct, hOthers, h.linked.2⟩

/-- What the dry run looks at: the manifest is that of the logbook, and the
events are unbroken and begin with those of the logbook. -/
structure LocalPlan (profile : LocalProfile Book Queue Layers)
    (backup : LocalBackup Book Queue Layers) (events : List CoreEventEnvelope) : Prop where
  manifest : backup.manifest = some ⟨some 1, some profile.logbookId⟩
  decoded : backup.officialEvents = .ok events
  unbroken : Unbroken none [] events
  begins : profile.store.listEvents profile.logbookId <+: events

theorem backupEvents_ok_iff {backup : LocalBackup Book Queue Layers}
    {events : List CoreEventEnvelope} :
    backupEvents backup = .ok events ↔
      backup.officialEvents = .ok events ∧ Unbroken none [] events := by
  unfold backupEvents
  cases hRead : backup.officialEvents with
  | error error => exact iff_of_false (fun h => by cases h) fun h => by cases h.1
  | ok found =>
      have hCheck := checkBackupEvents_ok_iff none found List.nodup_nil
      dsimp only
      cases hChecked : checkBackupEvents none [] found with
      | error error =>
          rw [hChecked] at hCheck
          refine iff_of_false (fun h => by cases h) fun h => ?_
          obtain rfl := Except.ok.inj h.1
          cases hCheck.mpr h.2
      | ok checked =>
          rw [hChecked] at hCheck
          constructor
          · intro h
            obtain rfl := Except.ok.inj h
            exact ⟨rfl, hCheck.mp rfl⟩
          · intro h
            obtain rfl := Except.ok.inj h.1
            rfl

theorem localBackupDryRun_ok_iff {profile : LocalProfile Book Queue Layers}
    {backup : LocalBackup Book Queue Layers} :
    (localBackupDryRun profile backup).ok = true ↔ ∃ events, LocalPlan profile backup events := by
  unfold LocalDryRun.ok localBackupDryRun
  cases hManifest : backup.manifest with
  | none =>
      refine iff_of_false (fun h => by cases h) ?_
      rintro ⟨events, hPlan⟩
      cases hManifest.symm.trans hPlan.manifest
  | some manifest =>
      cases hChecked : backupEvents backup with
      | error error =>
          refine iff_of_false (fun h => ?_) ?_
          · simp [List.isEmpty_iff] at h
          · rintro ⟨events, hPlan⟩
            have hOk := backupEvents_ok_iff.mpr ⟨hPlan.decoded, hPlan.unbroken⟩
            cases hChecked.symm.trans hOk
      | ok events =>
          obtain ⟨hDecoded, hUnbroken⟩ := backupEvents_ok_iff.mp hChecked
          obtain ⟨formatVersion, logbookId⟩ := manifest
          simp only [List.isEmpty_iff, List.append_eq_nil_iff, ite_eq_right_iff,
            ite_eq_left_iff, List.cons_ne_nil, imp_false, not_not, ne_eq, Nat.not_lt,
            and_true, matchExisting_iff]
          constructor
          · intro h
            obtain ⟨⟨⟨hFormat, hLogbook⟩, _⟩, hBegins⟩ := h
            refine ⟨events, ?_, hDecoded, hUnbroken, hBegins⟩
            rw [hManifest, hFormat, hLogbook]
          · rintro ⟨other, hPlan⟩
            have hManifests := Option.some.inj (hManifest.symm.trans hPlan.manifest)
            obtain ⟨hFormat, hLogbook⟩ := BackupManifest.mk.inj hManifests
            obtain rfl := Except.ok.inj (hDecoded.symm.trans hPlan.decoded)
            exact ⟨⟨⟨hFormat, hLogbook⟩, hPlan.begins.length_le⟩, hPlan.begins⟩

variable {profile : LocalProfile Book Queue Layers}
  {backup : LocalBackup Book Queue Layers} {events : List CoreEventEnvelope}

/-- What the dry run does not look at: every event that is new belongs to the
logbook, has version 1, a type that peers know and an identifier that the store
does not hold, and the contacts can be rebuilt. -/
structure LocalComplete (profile : LocalProfile Book Queue Layers)
    (events : List CoreEventEnvelope) : Prop where
  own : ∀ event ∈ events.drop (profile.store.listEvents profile.logbookId).length,
    event.logbookId = profile.logbookId
  acceptable : ∀ event ∈ events.drop (profile.store.listEvents profile.logbookId).length,
    Acceptable profile.store event
  rebuilds : Projection.Rebuilds QsoCurrentStateProjection events

/-- The events of a plan after those that the logbook has, where they are all
of the logbook. -/
theorem LocalPlan.errors {history : List CoreEventEnvelope} (h : LocalPlan profile backup events)
    (hHistory : profile.store.Represents history)
    (hOwn : ∀ event ∈ events.drop (profile.store.listEvents profile.logbookId).length,
      event.logbookId = profile.logbookId) :
    events = profile.store.listEvents profile.logbookId ++
        events.drop (profile.store.listEvents profile.logbookId).length ∧
      backupErrors profile.logbookId (profile.store.listEvents profile.logbookId)
        (events.drop (profile.store.listEvents profile.logbookId).length) = [] := by
  have hSplit : profile.store.listEvents profile.logbookId ++
      events.drop (profile.store.listEvents profile.logbookId).length = events :=
    (List.prefix_append_drop h.begins).symm
  refine ⟨hSplit.symm, ?_⟩
  have hAll : ∀ event ∈ events, event.logbookId = profile.logbookId := by
    rw [← hSplit]
    intro event hMem
    rcases List.mem_append.mp hMem with hOld | hNew
    · rw [hHistory.listEvents] at hOld
      exact (mem_ofLogbook.mp hOld).2
    · exact hOwn event hNew
  have hErrors : backupErrors profile.logbookId [] events = [] :=
    backupErrors_of_unbroken hAll h.unbroken
  rw [← hSplit, backupErrors_append] at hErrors
  have hLast := (List.append_eq_nil_iff.mp hErrors).2
  rw [List.nil_append] at hLast
  exact hLast

variable [RustFmt]

theorem handleBackupImport_unplanned (h : ¬∃ events, LocalPlan profile backup events)
    (confirmDryRun : Option Bool) :
    ∃ error, handleBackupImport profile confirmDryRun (.ok backup) =
      (profile, .error (.error error)) := by
  unfold handleBackupImport
  split
  · exact ⟨_, rfl⟩
  · rw [← localBackupDryRun_ok_iff, Bool.not_eq_true] at h
    dsimp only
    rw [if_pos h]
    exact ⟨_, rfl⟩

/-- A planned import appends the events that the logbook does not have. -/
theorem handleBackupImport_planned (h : LocalPlan profile backup events) :
    handleBackupImport profile (some true) (.ok backup) =
      match HostedServer.appendBackupEvents profile.store
          (events.drop (profile.store.listEvents profile.logbookId).length) with
      | (later, .error error) => ({ profile with store := later }, .error (.error error.toString))
      | (later, .ok imported) =>
          (restoreSections backup { profile with store := later },
            localImportReply (restoreSections backup { profile with store := later }) imported
              (profile.store.listEvents profile.logbookId).length) := by
  have hDryRun : (localBackupDryRun profile backup).ok = true :=
    localBackupDryRun_ok_iff.mpr ⟨events, h⟩
  have hEvents := backupEvents_ok_iff.mpr ⟨h.decoded, h.unbroken⟩
  have hLength := h.begins.length_le
  have hMatch := matchExisting_iff.mpr h.begins
  unfold handleBackupImport
  rw [if_neg (by simp)]
  dsimp only
  rw [if_neg (by simp [hDryRun]), hEvents]
  dsimp only
  unfold importBackupEvents
  dsimp only
  rw [if_neg (by omega)]
  exact if_neg (by simp [hMatch])

/-- An import into an empty logbook stops at an event that is refused. -/
theorem import_refused (h : LocalPlan profile backup events)
    (hNothing : profile.store.listEvents profile.logbookId = [])
    {later : InMemoryLogbookEventStore} {error : StoreError}
    (hAppend : HostedServer.appendBackupEvents profile.store events = (later, .error error)) :
    handleBackupImport profile (some true) (.ok backup) =
      ({ profile with store := later }, .error (.error error.toString)) := by
  rw [handleBackupImport_planned h, hNothing, List.length_nil, List.drop_zero, hAppend]

theorem import_appended (h : LocalPlan profile backup events)
    (hNothing : profile.store.listEvents profile.logbookId = [])
    {later : InMemoryLogbookEventStore} {imported : Nat}
    (hAppend : HostedServer.appendBackupEvents profile.store events = (later, .ok imported)) :
    handleBackupImport profile (some true) (.ok backup) =
      (restoreSections backup { profile with store := later },
        localImportReply (restoreSections backup { profile with store := later }) imported 0) := by
  rw [handleBackupImport_planned h, hNothing, List.length_nil, List.drop_zero, hAppend]

/-- What a planned import of events of the logbook leaves: the backup in the
logbook, and the other logbooks as they were. -/
theorem planned_import {history : List CoreEventEnvelope}
    (hHistory : profile.store.Represents history)
    (h : LocalPlan profile backup events)
    (hOwn : ∀ event ∈ events.drop (profile.store.listEvents profile.logbookId).length,
      event.logbookId = profile.logbookId)
    (hAcceptable : ∀ event ∈ events.drop (profile.store.listEvents profile.logbookId).length,
      Acceptable profile.store event) :
    let run := handleBackupImport profile (some true) (.ok backup)
    ((∃ reply, run.2 = .ok reply) ↔ Projection.Rebuilds QsoCurrentStateProjection events) ∧
      run.1.store.listEvents profile.logbookId = events ∧
      ∀ other, other ≠ profile.logbookId →
        run.1.store.listEvents other = profile.store.listEvents other := by
  intro run
  obtain ⟨hSplit, hErrors⟩ := h.errors hHistory hOwn
  have hSeen : ofLogbook history profile.logbookId =
      profile.store.listEvents profile.logbookId := (hHistory.listEvents _).symm
  obtain ⟨imported, hImported⟩ :=
    (appendBackupEvents_ok_iff hHistory hSeen hErrors).mpr hAcceptable
  obtain ⟨_, later, hLater, hList⟩ := represents_appended hHistory hSeen hErrors hImported
  obtain ⟨more, hMore, hFrom⟩ := appendBackupEvents_represents hHistory
    (events.drop (profile.store.listEvents profile.logbookId).length)
  rw [← hSplit] at hList
  have hRun : run = handleBackupImport profile (some true) (.ok backup) := rfl
  rw [handleBackupImport_planned h] at hRun
  rcases hAppended : HostedServer.appendBackupEvents profile.store
      (events.drop (profile.store.listEvents profile.logbookId).length) with ⟨store, outcome⟩
  rw [hAppended] at hRun hLater hMore hImported
  obtain rfl : outcome = .ok imported := hImported
  rw [hRun]
  refine ⟨?_, ?_, ?_⟩
  · rw [← hList]
    exact localImportReply_ok_iff (restoreSections backup { profile with store := store })
      hLater _ _
  · exact (hLater.listEvents _).trans hList
  · intro other hOther
    have hOthers : ∀ event ∈ more, event.logbookId = profile.logbookId :=
      fun event hMem => hOwn event (hFrom event hMem)
    show store.listEvents other = _
    rw [hMore.listEvents, ofLogbook_append, ofLogbook_eq_nil hOthers hOther, List.append_nil,
      hHistory.listEvents]

/-- The dry run and the import of a backup agree, an import that succeeds puts
the backup into its logbook and leaves the others, and one that fails changes
nothing. -/
structure ImportsFaithfully (profile : LocalProfile Book Queue Layers)
    (backup : LocalBackup Book Queue Layers) : Prop where
  agrees : (localBackupDryRun profile backup).ok = true ↔
    ∃ reply, (handleBackupImport profile (some true) (.ok backup)).2 = .ok reply
  done : ∀ reply, (handleBackupImport profile (some true) (.ok backup)).2 = .ok reply →
    backup.officialEvents = .ok ((handleBackupImport profile (some true)
      (.ok backup)).1.store.listEvents profile.logbookId) ∧
    ∀ other, other ≠ profile.logbookId →
      (handleBackupImport profile (some true) (.ok backup)).1.store.listEvents other =
        profile.store.listEvents other
  undone : ∀ confirmDryRun error,
    (handleBackupImport profile confirmDryRun (.ok backup)).2 = .error error →
      (handleBackupImport profile confirmDryRun (.ok backup)).1 = profile

theorem importsFaithfully_iff (hStore : profile.store.Consistent) :
    ImportsFaithfully profile backup ↔
      ∀ events, LocalPlan profile backup events → LocalComplete profile events := by
  obtain ⟨history, hHistory⟩ := hStore
  constructor
  · intro h events hPlan
    obtain ⟨reply, hReply⟩ := h.agrees.mp (localBackupDryRun_ok_iff.mpr ⟨events, hPlan⟩)
    have hList := Except.ok.inj (hPlan.decoded.symm.trans (h.done reply hReply).1)
    rw [handleBackupImport_planned hPlan] at hReply hList
    obtain ⟨more, hMore, _⟩ := appendBackupEvents_represents hHistory
      (events.drop (profile.store.listEvents profile.logbookId).length)
    rcases hAppended : HostedServer.appendBackupEvents profile.store
        (events.drop (profile.store.listEvents profile.logbookId).length)
      with ⟨store, error | imported⟩
    · rw [hAppended] at hReply
      cases hReply
    rw [hAppended] at hReply hList hMore
    have hEvents : events = ofLogbook (history ++ more) profile.logbookId :=
      hList.trans (hMore.listEvents _)
    have hOwn : ∀ event ∈ events.drop (profile.store.listEvents profile.logbookId).length,
        event.logbookId = profile.logbookId := by
      intro event hMem
      have hAll := List.mem_of_mem_drop hMem
      rw [hEvents] at hAll
      exact (mem_ofLogbook.mp hAll).2
    obtain ⟨_, hErrors⟩ := hPlan.errors hHistory hOwn
    refine ⟨hOwn, ?_, ?_⟩
    · rw [← appendBackupEvents_ok_iff hHistory (hHistory.listEvents _).symm hErrors, hAppended]
      exact ⟨imported, rfl⟩
    · rw [hEvents]
      exact (localImportReply_ok_iff (restoreSections backup { profile with store := store })
        hMore _ _).mp ⟨reply, hReply⟩
  · intro h
    by_cases hPlanned : ∃ events, LocalPlan profile backup events
    · obtain ⟨events, hPlan⟩ := hPlanned
      obtain ⟨hOwn, hAcceptable, hRebuilds⟩ := h events hPlan
      obtain ⟨hOk, hList, hOthers⟩ := planned_import hHistory hPlan hOwn hAcceptable
      refine ⟨iff_of_true (localBackupDryRun_ok_iff.mpr ⟨events, hPlan⟩) (hOk.mpr hRebuilds),
        fun reply _ => ⟨?_, hOthers⟩, fun confirmDryRun error hError => ?_⟩
      · rw [hList]
        exact hPlan.decoded
      · by_cases hConfirmed : confirmDryRun = some true
        · obtain ⟨reply, hReply⟩ := hOk.mpr hRebuilds
          rw [hConfirmed, hReply] at hError
          cases hError
        · unfold handleBackupImport
          rw [if_pos hConfirmed]
    · refine ⟨iff_of_false (fun hOk => hPlanned (localBackupDryRun_ok_iff.mp hOk)) ?_, ?_, ?_⟩
      · rintro ⟨reply, hReply⟩
        obtain ⟨error, hRun⟩ := handleBackupImport_unplanned hPlanned (some true)
        rw [hRun] at hReply
        cases hReply
      · intro reply hReply
        obtain ⟨error, hRun⟩ := handleBackupImport_unplanned hPlanned (some true)
        rw [hRun] at hReply
        cases hReply
      · intro confirmDryRun _ _
        obtain ⟨error, hRun⟩ := handleBackupImport_unplanned hPlanned confirmDryRun
        rw [hRun]

end Checks

section Desktop
variable [UuidCrate] [RustFmt] [CanonicalJson] [Sha2Crate]

/-- What holds of every logbook that the desktop client built. -/
structure BuiltByDesktop (logbookId : Uuid) (store : InMemoryLogbookEventStore) : Prop where
  built : BuiltByProposals logbookId store
  events : ∀ event ∈ store.listEvents logbookId,
    event.schemaVersion = 1 ∧ event.eventType.isEmComm = false

variable {Book Queue Layers : Type} [BackupText Book Queue Layers]

/-- What the desktop client exports, an empty profile of the same logbook
imports. The answer is a success where the contacts can be rebuilt. -/
theorem desktop_export_imports {profile empty : LocalProfile Book Queue Layers}
    {backup : LocalBackup Book Queue Layers} (h : BuiltByDesktop profile.logbookId profile.store)
    (hExport : handleBackupExport profile = .ok backup) (hEmpty : empty.store = {})
    (hLogbook : empty.logbookId = profile.logbookId) :
    (handleBackupImport empty (some true) (.ok backup)).1.store.listEvents profile.logbookId =
        profile.store.listEvents profile.logbookId ∧
      ((∃ reply, (handleBackupImport empty (some true) (.ok backup)).2 = .ok reply) ↔
        Projection.Rebuilds QsoCurrentStateProjection
          (profile.store.listEvents profile.logbookId)) := by
  obtain ⟨⟨⟨history, hHistory⟩, ⟨hValid, hLinked⟩, hTypes⟩, hEvents⟩ := h
  have hNothing : empty.store.listEvents empty.logbookId = [] := by
    rw [hEmpty]
    exact InMemoryLogbookEventStore.represents_empty.listEvents _
  have hList := hHistory.listEvents profile.logbookId
  have hPlan : LocalPlan empty backup (profile.store.listEvents profile.logbookId) := by
    unfold handleBackupExport at hExport
    dsimp only at hExport
    split at hExport
    · cases hExport
    · obtain rfl := Except.ok.inj hExport
      refine ⟨by rw [hLogbook], rfl, ⟨?_, hValid, hLinked⟩, ?_⟩
      · rw [hList]
        exact hHistory.distinct.ofLogbook _
      · rw [hNothing]
        exact List.nil_prefix
  have hEmptyStore : empty.store.Represents [] := by
    rw [hEmpty]
    exact InMemoryLogbookEventStore.represents_empty
  have hOwn : ∀ event ∈ profile.store.listEvents profile.logbookId,
      event.logbookId = empty.logbookId := by
    intro event hMem
    rw [hList] at hMem
    rw [hLogbook]
    exact (mem_ofLogbook.mp hMem).2
  have hAcceptable : ∀ event ∈ profile.store.listEvents profile.logbookId,
      Acceptable empty.store event := by
    intro event hMem
    obtain ⟨hVersion, hType⟩ := hEvents event hMem
    refine ⟨hVersion, ?_, ?_⟩
    · rw [hTypes event hMem, hType]
      rfl
    · rw [hEmpty]
      rfl
  obtain ⟨hOk, hStored, _⟩ := planned_import hEmptyStore hPlan
    (fun event hMem => hOwn event (List.mem_of_mem_drop hMem))
    (fun event hMem => hAcceptable event (List.mem_of_mem_drop hMem))
  rw [hLogbook] at hStored
  exact ⟨hStored, hOk⟩

variable {B : Type} [EventBus B] [ChronoCrate]

/-- The proposals of the desktop client have version 1 and are not about
incidents. -/
def DesktopCall (_ : InMemoryLogbookEventStore × B) (call : SubmitCall) : Prop :=
  call.proposal.schemaVersion = 1 ∧ call.proposal.proposalType.isEmComm = false

/-- A submission of the desktop client keeps what it finds. -/
theorem BuiltByDesktop.step {logbookId : Uuid} {state next : InMemoryLogbookEventStore × B}
    {call : SubmitCall} (h : BuiltByDesktop logbookId state.1)
    (hStep : ((proposalSystem B).restrict DesktopCall).step state call next) :
    BuiltByDesktop logbookId next.1 := by
  obtain ⟨⟨hVersion, hType⟩, hSubmit⟩ := hStep
  refine ⟨h.built.step hSubmit, ?_⟩
  obtain ⟨_, hSame | ⟨newEvent, hAccepts, _, hNext⟩⟩ :=
    listEvents_step h.built.consistent hSubmit logbookId
  · rw [hSame]
    exact h.events
  · rw [hNext]
    intro event hMem
    rcases List.mem_append.mp hMem with hOld | hNew
    · exact h.events event hOld
    · have hOfficial := toOfficialEvent_ok hAccepts.official
      obtain ⟨creates, hOwn⟩ := hOfficial.eventType
      rw [List.mem_singleton.mp hNew]
      exact ⟨hOfficial.version.trans hVersion, (officialEventType_supported hOwn).2.trans hType⟩

end Desktop

namespace Crates

/-- No document has the test text in it. -/
scoped instance backupText : BackupText Unit Unit Unit where
  hasTestSecret _ := false

/-- A profile whose support sections do not matter. -/
def plainProfile (logbookId : Uuid) (store : InMemoryLogbookEventStore) :
    LocalProfile Unit Unit Unit where
  logbookId := logbookId
  store := store
  stationBook := ()
  uploadQueue := ()
  mapLayers := ()

/-- A document of a logbook that has nothing but events. -/
def localEventsBackup (logbookId : Uuid) (events : List CoreEventEnvelope) :
    LocalBackup Unit Unit Unit where
  manifest := some { formatVersion := some 1, logbookId := some logbookId }
  officialEvents := .ok events

end Crates

section
open Crates

theorem append_firstContact : HostedServer.appendBackupEvents {} [firstContact] =
    (InMemoryLogbookEventStore.insertEvent {} firstContact, .ok 1) := by
  have hContact : InMemoryLogbookEventStore.appendVerifiedRemoteEvent {} firstContact =
      (InMemoryLogbookEventStore.insertEvent {} firstContact, .ok firstContact) := by
    apply InMemoryLogbookEventStore.appendVerifiedRemoteEvent_new
    · exact (validateSupportedRemoteEvent_fromNew ..).mpr ⟨rfl, rfl⟩
    · rfl
    · rfl
  rw [HostedServer.appendBackupEvents, hContact]
  rfl

theorem listEvents_firstContact (logbookId : Uuid) :
    (InMemoryLogbookEventStore.insertEvent {} firstContact).listEvents logbookId =
      ofLogbook [firstContact] logbookId :=
  (InMemoryLogbookEventStore.represents_empty.insertEvent rfl).listEvents logbookId

end
end HamLogger
