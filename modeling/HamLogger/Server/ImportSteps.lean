import HamLogger.Server.BackupHandlers

/-! How far an import gets, and what it then puts in place. A section of a
backup is restored up to the first entry that cannot be read. -/
namespace HamLogger

open Program

/-- The entries before the first one that cannot be read. -/
def readable {Record : Type} : List (Except String Record) → List Record
  | [] => []
  | .error _ :: _ => []
  | .ok record :: rest => record :: readable rest

namespace HostedServer

section Sections
variable [UuidCrate] {Record View : Type} {view : ServerState → View} {invalid : String}
  {restore : Record → Handler Unit}

/-- Where a record is restored without a check, so is all of a section that
can be read. -/
theorem leads_restoreEntries {put : View → Record → View}
    (hRestore : ∀ before record, Leads view (restore record) before
      fun later outcome => later = put before record ∧ outcome = .ok ())
    (before : View) (entries : List (Except String Record)) :
    Leads view (restoreEntries invalid restore entries) before fun later outcome =>
      later = (readable entries).foldl put before ∧
        (outcome.isOk = entries.all Except.isOk) := by
  induction entries generalizing before with
  | nil => exact leads_pure ⟨rfl, rfl⟩
  | cons entry rest ih =>
      cases entry with
      | error message =>
          intro state hState
          exact ⟨hState, rfl⟩
      | ok record =>
          refine leads_bind (hRestore before record) ?_ ?_
          · intro later error hLater
            cases hLater.2
          · intro later _ hLater
            rw [hLater.1]
            exact ih (put before record)

/-- What every record keeps, a section keeps. -/
theorem keeps_restoreEntries (hRestore : ∀ record, Keeps view (restore record))
    (entries : List (Except String Record)) :
    Keeps view (restoreEntries invalid restore entries) := by
  induction entries with
  | nil => exact keeps_pure ()
  | cons entry rest ih =>
      cases entry with
      | error message => exact keeps_reject _
      | ok record => exact keeps_bind (hRestore record) fun _ => ih

theorem keeps_restoreSection {entries : Option (List (Except String Record))} {name : String}
    (hRestore : ∀ record, Keeps view (restore record)) :
    Keeps view (restoreSection entries name invalid restore) := by
  cases entries with
  | none => exact keeps_pure []
  | some entries => exact keeps_bind (keeps_restoreEntries hRestore entries) fun _ => keeps_pure _

theorem leads_restoreSection {entries : Option (List (Except String Record))} {name : String}
    {put : View → Record → View}
    (hRestore : ∀ before record, Leads view (restore record) before
      fun later outcome => later = put before record ∧ outcome = .ok ())
    (before : View) :
    Leads view (restoreSection entries name invalid restore) before fun later outcome =>
      later = (readable (entries.getD [])).foldl put before ∧
        outcome.isOk = (entries.getD []).all Except.isOk := by
  cases entries with
  | none => exact leads_pure ⟨rfl, rfl⟩
  | some entries =>
      refine leads_bind (leads_restoreEntries hRestore before entries) ?_ ?_
      · intro later error hLater
        exact hLater
      · intro later _ hLater
        exact leads_pure hLater

end Sections

section Events
variable [UuidCrate]

theorem leads_onServer {View α : Type} {view : ServerState → View} {handler : Handler α}
    {before : View} {Q : View → Except (Fault ApiError) α → Prop}
    (h : Leads view handler before Q) :
    Leads (fun state : HostedState => view state.server) (onServer handler) before Q :=
  fun state hState => h state.server hState

theorem keeps_storeOutcome [RustFmt] {View α : Type} {view : HostedState → View}
    (outcome : Outcome StoreError α) : Keeps view (storeOutcome outcome) := by
  match outcome with
  | .ok value => exact keeps_pure value
  | .error (.error _) => exact fun _ => rfl
  | .error .panic => exact keeps_throw _

theorem ensures_guard {β : Type} {test : Prop} [Decidable test] {error : ApiError}
    {next : Unit → EventHandler β} {state : HostedState}
    {Q : HostedState → Except (Fault ApiError) β → Prop}
    (hRejected : test → Q state (.error (.error error)))
    (hNext : ¬ test → Ensures (next ()) state Q) :
    Ensures (if test then onServer (reject error) >>= next else next ()) state Q := by
  by_cases h : test
  · rw [if_pos h]
    exact hRejected h
  · rw [if_neg h]
    exact hNext h

end Events

section Import
variable [UuidCrate] [Sha2Crate] [CanonicalJson] [RustFmt]

/-- An import whose events are appended. -/
structure ImportOpens (context : RequestContext) (input : BackupImportInput)
    (state : HostedState) (auth : AuthorizedLogbook) : Prop where
  confirmed : input.confirmDryRun = true
  authorized : ((requireLogbookRole context input.logbookId .admin).execute state.server).2 =
    .ok auth
  planned : (validateBackupPlan input.logbookId input.backup).ok = true
  onTarget : targetError (state.store.listEvents input.logbookId)
    (validateBackupPlan input.logbookId input.backup).events = none

/-- The events that an import appends. -/
def newBackupEvents (input : BackupImportInput) (store : InMemoryLogbookEventStore) :
    List CoreEventEnvelope :=
  (validateBackupPlan input.logbookId input.backup).events.drop
    (store.listEvents input.logbookId).length

/-- An import that gets as far as the records of the backup. -/
structure ImportReaches (context : RequestContext) (input : BackupImportInput)
    (state : HostedState) (auth : AuthorizedLogbook) : Prop
    extends ImportOpens context input state auth where
  appended : ∃ imported, (appendBackupEvents state.store (newBackupEvents input state.store)).2 =
    .ok imported

/-- What an import does to the metadata it does where it restores them. -/
theorem backupImport_view {View : Type} {view : ServerState → View} {Q : View → Prop}
    (context : RequestContext) (input : BackupImportInput) (state : HostedState)
    (hSame : Q (view state.server))
    (hRestore : ∀ auth, ImportReaches context input state auth →
      Leads view (restoreBackupSupportMetadata context.now auth.session.accountId input.logbookId
        input.backup) (view state.server) fun later _ => Q later) :
    Q (view ((backupImport context (.ok input)).execute state).1.server) := by
  show Ensures _ state fun later _ => Q (view later.server)
  refine Ensures.bind (R := fun later outcome => later = state ∧ outcome = .ok input)
    ⟨rfl, rfl⟩ (fun _ _ hLater => by cases hLater.2) ?_
  intro later _ hParsed
  obtain ⟨rfl, hInput⟩ := hParsed
  cases hInput
  apply ensures_guard
  · intro _
    exact hSame
  intro hConfirmed
  refine Ensures.bind (R := fun after outcome => view after.server = view later.server ∧
    after.store = later.store ∧
    outcome = ((requireLogbookRole context input.logbookId .admin).execute later.server).2)
    ⟨keeps_requireLogbookRole context input.logbookId .admin later.server, rfl, rfl⟩ ?_ ?_
  · intro after _ hAfter
    rw [hAfter.1]
    exact hSame
  intro after auth hAfter
  obtain ⟨hView, hStore, hAuth⟩ := hAfter
  apply ensures_guard
  · intro _
    rw [hView]
    exact hSame
  intro hPlan
  refine Ensures.bind (R := fun final outcome => final = after ∧ outcome = .ok after) ⟨rfl, rfl⟩
    (fun _ _ hLater => by cases hLater.2) ?_
  intro final _ hFinal
  obtain ⟨rfl, hState⟩ := hFinal
  cases hState
  rw [← hView] at hSame hRestore
  cases hTarget : targetError (final.store.listEvents input.logbookId)
      (validateBackupPlan input.logbookId input.backup).events with
  | some message =>
      dsimp only
      rw [hTarget]
      exact hSame
  | none =>
      dsimp only
      rw [hTarget]
      dsimp only
      rcases hRun : appendBackupEvents final.store
        ((validateBackupPlan input.logbookId input.backup).events.drop
          (final.store.listEvents input.logbookId).length) with ⟨store, appended⟩
      cases appended with
      | error error => exact hSame
      | ok imported =>
          have hReaches : ImportReaches context input later auth := by
            refine ⟨⟨?_, ?_, ?_, ?_⟩, ?_⟩
            · simpa using hConfirmed
            · exact hAuth.symm
            · simpa using hPlan
            · rw [← hStore]
              exact hTarget
            · refine ⟨imported, ?_⟩
              rw [newBackupEvents, ← hStore, hRun]
          have hRest := hRestore auth hReaches
          apply ensures_of_leads (fun state : HostedState => view state.server)
            (Q := fun seen _ => Q seen)
          apply leads_set_bind
          apply leads_of_keeps_bind (keeps_storeOutcome _) fun _ => hSame
          intro _
          apply leads_of_keeps_bind (keeps_storeOutcome _) fun _ => hSame
          intro _
          apply leads_of_keeps_bind (keeps_storeOutcome _) fun _ => hSame
          intro projection
          refine leads_bind (R := fun seen _ => Q seen) (leads_onServer ?_)
            (fun _ _ hLater => hLater) fun _ _ hLater => leads_pure hLater
          refine leads_bind hRest (fun _ _ hLater => hLater) fun _ _ hLater => ?_
          exact (keeps_bind (keeps_persistMetadata context) fun _ => keeps_pure _).leads
            fun _ => hLater

end Import
end HostedServer
end HamLogger
