import HamLogger.Server.LogbookIsolation
import HamLogger.Server.PushAgreement

/-! The same request to synchronise a logbook, sent to two servers that may
have different events in other logbooks. -/
namespace HamLogger

open Program
open InMemoryLogbookEventStore (Alike Undisturbed takePushed takeAppended)

/-- What the answer to a request that synchronises a logbook is decided by,
apart from events. -/
structure SyncView where
  accounts : Catalog UserAccount.accountId
  sessionsByToken : Catalog LoginSession.tokenHash
  devices : Catalog DeviceIdentity.deviceId
  memberships : List LogbookMembership
  rateLimits : Catalog RateLimitRecord.key
  limits : HostedLimitConfig

def ServerState.syncView [UuidCrate] (state : ServerState) : SyncView where
  accounts := state.accounts
  sessionsByToken := state.sessionsByToken
  devices := state.devices
  memberships := state.memberships
  rateLimits := state.rateLimits
  limits := state.hostingConfig.limits

theorem except_map_injective {Error α β : Type} {change : α → β}
    (h : Function.Injective change) :
    Function.Injective (Except.map change : Except Error α → Except Error β) := by
  intro first second hSame
  cases first with
  | error error =>
      cases second with
      | error other => exact congrArg Except.error (Except.error.inj hSame)
      | ok value => cases hSame
  | ok value =>
      cases second with
      | error error => cases hSame
      | ok other => exact congrArg Except.ok (h (Except.ok.inj hSame))

theorem PushProgress.eq_of_counts {first second : PushProgress}
    (hAccepted : first.acceptedCount = second.acceptedCount)
    (hIgnored : first.ignoredDuplicateCount = second.ignoredDuplicateCount)
    (hErrors : first.errors = second.errors) : first = second := by
  cases first
  cases second
  simp only [PushProgress.mk.injEq]
  exact ⟨hAccepted, hIgnored, hErrors⟩

section Views
variable [UuidCrate] {first second : ServerState}

/-- The states are seen alike. -/
def SeenAlike (first second : ServerState) : Prop := first.syncView = second.syncView

theorem matches_orReject (h : SeenAlike first second) {α : Type} (error : ApiError)
    (value : Option α) :
    Matches SeenAlike (orReject error value) (orReject error value) first second := by
  cases value with
  | none => exact ⟨h, rfl⟩
  | some found => exact ⟨h, rfl⟩

/-- What is done to records that are not seen. -/
theorem matches_modify (h : SeenAlike first second) {change : ServerState → ServerState}
    (hUnseen : ∀ state, (change state).syncView = state.syncView) :
    Matches SeenAlike (modify change : Handler Unit) (modify change) first second :=
  ⟨(hUnseen first).trans (h.trans (hUnseen second).symm), rfl⟩

theorem matches_restoreSection (h : SeenAlike first second) {Record : Type}
    {entries : Option (List (Except String Record))} {name invalid : String}
    {restore : Record → Handler Unit}
    (hRestore : ∀ {first second : ServerState} record, SeenAlike first second →
      Matches SeenAlike (restore record) (restore record) first second) :
    Matches SeenAlike (HostedServer.restoreSection entries name invalid restore)
      (HostedServer.restoreSection entries name invalid restore) first second := by
  cases entries with
  | none => exact ⟨h, rfl⟩
  | some entries =>
      refine matches_bind ?_ fun _ _ _ hLater _ => matches_pure hLater _
      induction entries generalizing first second with
      | nil => exact ⟨h, rfl⟩
      | cons entry rest ih =>
          cases entry with
          | error message => exact ⟨h, rfl⟩
          | ok record =>
              exact matches_bind (hRestore record h) fun _ _ _ hLater _ => ih hLater

theorem matches_restoreBackupSupportMetadata (h : SeenAlike first second) (now : DateTime)
    (accountId logbookId : Uuid) (backup : BackupDocument) :
    Matches SeenAlike (HostedServer.restoreBackupSupportMetadata now accountId logbookId backup)
      (HostedServer.restoreBackupSupportMetadata now accountId logbookId backup) first second := by
  refine matches_bind (matches_restoreSection h fun _ hSeen => matches_modify hSeen
    fun _ => rfl) fun _ _ _ h _ => ?_
  refine matches_bind (matches_restoreSection h fun _ hSeen => matches_modify hSeen
    fun _ => rfl) fun _ _ _ h _ => ?_
  refine matches_bind (matches_restoreSection h fun setting hSeen => ?_) fun _ _ _ h _ => ?_
  · refine matches_bind ?_ fun _ _ _ hLater _ => matches_modify hLater fun _ => rfl
    cases validateSecretFreeConfig setting.config with
    | ok _ => exact ⟨hSeen, rfl⟩
    | error error => exact ⟨hSeen, rfl⟩
  refine matches_bind (matches_restoreSection h fun _ hSeen => matches_modify hSeen
    fun _ => rfl) fun _ _ _ h _ => ?_
  refine matches_bind (matches_restoreSection h fun _ hSeen => matches_modify hSeen
    fun _ => rfl) fun _ _ _ h _ => ?_
  exact matches_pure h _

theorem matches_savingWith (h : SeenAlike first second) (failure : Option String) :
    Matches SeenAlike (savingWith failure) (savingWith failure) first second := by
  cases failure with
  | none => exact ⟨h, rfl⟩
  | some message => exact ⟨h, rfl⟩

variable [Sha2Crate]

theorem authorize_congr (h : SeenAlike first second) (context : RequestContext) :
    authorize context first = authorize context second := by
  have hAccounts : first.accounts = second.accounts := congrArg SyncView.accounts h
  have hSessions : first.sessionsByToken = second.sessionsByToken :=
    congrArg SyncView.sessionsByToken h
  have hDevices : first.devices = second.devices := congrArg SyncView.devices h
  unfold authorize
  rw [hAccounts, hSessions, hDevices]

namespace HostedServer

theorem matches_requireLogbookRole (h : SeenAlike first second) (context : RequestContext)
    (logbookId : Uuid) (access : LogbookAccess) :
    Matches SeenAlike (requireLogbookRole context logbookId access)
      (requireLogbookRole context logbookId access) first second := by
  refine matches_bind ?_ ?_
  · apply matches_get_bind
    rw [authorize_congr h context]
    cases authorize context second with
    | ok session => exact ⟨h, rfl⟩
    | error error => exact ⟨h, rfl⟩
  · intro firstLater secondLater session hLater _
    apply matches_get_bind
    have hMemberships : firstLater.memberships = secondLater.memberships :=
      congrArg SyncView.memberships hLater
    rw [hMemberships]
    refine matches_bind (matches_orReject hLater _ _) ?_
    intro _ _ membership hFinal _
    apply matches_ite
    · intro _
      exact ⟨hFinal, rfl⟩
    · intro _
      exact matches_pure hFinal _

theorem matches_enforceRateLimit (h : SeenAlike first second) (context : RequestContext)
    (key : String) (limit : Nat) :
    Matches SeenAlike (enforceRateLimit context key limit) (enforceRateLimit context key limit)
      first second := by
  have hRates : first.rateLimits = second.rateLimits := congrArg SyncView.rateLimits h
  have hLimits : first.hostingConfig.limits = second.hostingConfig.limits :=
    congrArg SyncView.limits h
  have hCounted : ∀ limits, SeenAlike { first with rateLimits := limits }
      { second with rateLimits := limits } := by
    intro limits
    show ({ first.syncView with rateLimits := limits } : SyncView) =
      { second.syncView with rateLimits := limits }
    rw [h]
  apply matches_ite
  · intro _
    exact ⟨h, rfl⟩
  · intro _
    apply matches_get_bind
    dsimp only
    rw [hRates, hLimits]
    apply matches_ite
    · intro _
      exact ⟨hCounted _, rfl⟩
    · intro _
      exact ⟨hCounted _, rfl⟩

theorem matches_authorizeSync (h : SeenAlike first second) (context : RequestContext)
    (logbookId : Uuid) (access : LogbookAccess) :
    Matches SeenAlike (authorizeSync context logbookId access)
      (authorizeSync context logbookId access) first second := by
  refine matches_bind (matches_requireLogbookRole h context logbookId access) ?_
  intro firstLater secondLater auth hLater _
  apply matches_get_bind
  have hLimits : firstLater.hostingConfig.limits = secondLater.hostingConfig.limits :=
    congrArg SyncView.limits hLater
  rw [hLimits]
  refine matches_bind (matches_enforceRateLimit hLater context _ _) ?_
  intro _ _ _ hFinal _
  exact matches_savingWith hFinal _

end HostedServer
end Views

/-! Requests. -/

section Requests
variable [UuidCrate]

/-- The same events in the logbook, and alike for what decides the request. -/
def SameFor (logbookId : Uuid) (first second : HostedState) : Prop :=
  SeenAlike first.server second.server ∧ Alike logbookId first.store second.store

inductive SyncRequest where
  | push (events : List CoreEventEnvelope)
  | pull (localHeadHash : Option String)
  | preview (localHeadHash : Option String)
  | importBackup (backup : BackupDocument) (confirmDryRun : Bool)

inductive SyncAnswer where
  | pushed (response : CloudPushEventsResponse)
  | pulled (response : CloudPullEventsResponse)
  | previewed (response : PreviewPullResponse)
  | imported (response : BackupImportResponse)

variable {logbookId : Uuid} {first second : HostedState}

/-- A part on the metadata leaves both stores. -/
theorem matches_onServer_bind {α β : Type} {handler : Handler α} {next other : α → EventHandler β}
    (h : SameFor logbookId first second)
    (hMatches : Matches SeenAlike handler handler first.server second.server)
    (hNext : ∀ firstServer secondServer value, SeenAlike firstServer secondServer →
      handler.execute first.server = (firstServer, .ok value) →
        Matches (SameFor logbookId) (next value) (other value) ⟨firstServer, first.store⟩
          ⟨secondServer, second.store⟩) :
    Matches (SameFor logbookId) (onServer handler >>= next) (onServer handler >>= other)
      first second := by
  unfold Matches at hMatches ⊢
  rw [execute_bind, execute_bind, execute_onServer, execute_onServer]
  rcases hLeft : handler.execute first.server with ⟨firstServer, outcome⟩
  rcases hRight : handler.execute second.server with ⟨secondServer, result⟩
  rw [hLeft, hRight] at hMatches
  obtain ⟨hSeen, rfl⟩ := hMatches
  cases outcome with
  | error error => exact ⟨⟨hSeen, h.2⟩, rfl⟩
  | ok value => exact hNext firstServer secondServer value hSeen hLeft

theorem execute_wrapped {α : Type} (program : EventHandler α) (wrap : α → SyncAnswer)
    (state : HostedState) :
    (do return wrap (← program) : EventHandler SyncAnswer).execute state =
      ((program.execute state).1, (program.execute state).2.map wrap) := by
  rw [execute_bind]
  rcases program.execute state with ⟨later, outcome⟩
  cases outcome <;> rfl

/-- The answer is wrapped. -/
theorem Matches.wrapped {α : Type} {program : EventHandler α} {wrap : α → SyncAnswer}
    (h : Matches (SameFor logbookId) program program first second) :
    Matches (SameFor logbookId) (do return wrap (← program)) (do return wrap (← program))
      first second :=
  matches_bind h fun _ _ _ hLater _ => matches_pure hLater _

theorem matches_storeOutcome [RustFmt] {α : Type} (h : SameFor logbookId first second)
    (outcome : Outcome StoreError α) :
    Matches (SameFor logbookId) (HostedServer.storeOutcome outcome)
      (HostedServer.storeOutcome outcome) first second := by
  match outcome with
  | .ok value => exact ⟨h, rfl⟩
  | .error (.error _) => exact ⟨h, rfl⟩
  | .error .panic => exact ⟨h, rfl⟩

variable [Sha2Crate] [CanonicalJson]

theorem logbookId_of_backupErrors {logbookId : Uuid} {seen events : List CoreEventEnvelope}
    (h : backupErrors logbookId seen events = []) {event : CoreEventEnvelope}
    (hMem : event ∈ events) : event.logbookId = logbookId := by
  induction events generalizing seen with
  | nil => cases hMem
  | cons first rest ih =>
      obtain ⟨hFirst, hRest⟩ := List.append_eq_nil_iff.mp h
      rcases List.mem_cons.mp hMem with hSame | hLater
      · rw [hSame]
        by_contra hOther
        simp [backupEventErrors, hOther] at hFirst
      · exact ih hRest hLater

theorem logbookId_of_planned {logbookId : Uuid} {backup : BackupDocument}
    (h : (validateBackupPlan logbookId backup).ok = true) {event : CoreEventEnvelope}
    (hMem : event ∈ (validateBackupPlan logbookId backup).events) :
    event.logbookId = logbookId := by
  unfold validateBackupPlan at h hMem
  cases hManifest : backup.manifest with
  | none =>
      rw [hManifest] at h
      cases h
  | some manifest =>
      cases hEvents : backup.officialEvents with
      | none =>
          rw [hManifest, hEvents] at h
          cases h
      | some events =>
          rw [hManifest, hEvents] at h hMem
          have hErrors := List.append_eq_nil_iff.mp (List.isEmpty_iff.mp h)
          exact logbookId_of_backupErrors hErrors.2 hMem

variable [RustFmt]

namespace SyncRequest
open HostedServer

def run (request : SyncRequest) (context : RequestContext) (logbookId : Uuid) :
    EventHandler SyncAnswer :=
  match request with
  | push events => do
      return .pushed (← syncPush context (.ok ⟨logbookId, events⟩))
  | pull localHeadHash => do
      return .pulled (← syncPull context (.ok ⟨logbookId, localHeadHash⟩))
  | preview localHeadHash => do
      return .previewed (← syncPreview context (.ok ⟨logbookId, localHeadHash⟩))
  | importBackup backup confirmDryRun => do
      return .imported (← backupImport context (.ok ⟨logbookId, backup, confirmDryRun⟩))

/-- Other logbooks do not matter for the events that the request brings, if it
gets as far as them. -/
def Unaffected (request : SyncRequest) (context : RequestContext) (logbookId : Uuid)
    (first second : HostedState) : Prop :=
  match request with
  | push events =>
      ((authorizeSync context logbookId .logQso).execute first.server).2 = .ok () →
        (∀ event ∈ events, event.logbookId = logbookId) →
          Undisturbed takePushed (fun _ => True) logbookId first.store second.store events
  | pull _ | preview _ => True
  | importBackup backup confirmDryRun =>
      let input : BackupImportInput := ⟨logbookId, backup, confirmDryRun⟩
      ∀ auth, ImportOpens context input first auth →
        Undisturbed takeAppended (fun event => validateSupportedRemoteEvent event = .ok ())
          logbookId first.store second.store (newBackupEvents input first.store)

/-- Both servers give the same response, and leave the same events in the
logbook. -/
def SameOutcome (request : SyncRequest) (context : RequestContext) (logbookId : Uuid)
    (first second : HostedState) : Prop :=
  ((request.run context logbookId).execute first).2 =
      ((request.run context logbookId).execute second).2 ∧
    ((request.run context logbookId).execute first).1.store.listEvents logbookId =
      ((request.run context logbookId).execute second).1.store.listEvents logbookId

variable {context : RequestContext}

theorem sameOutcome_of_matches {request : SyncRequest}
    (h : Matches (SameFor logbookId) (request.run context logbookId)
      (request.run context logbookId) first second) :
    request.SameOutcome context logbookId first second :=
  ⟨h.2, h.1.2.listEvents⟩

theorem sameOutcome_pull (h : SameFor logbookId first second) (localHeadHash : Option String) :
    (pull localHeadHash).SameOutcome context logbookId first second := by
  apply sameOutcome_of_matches
  apply Matches.wrapped
  refine matches_onServer_bind h ⟨h.1, rfl⟩ fun _ _ input hParsed hRun => ?_
  cases hRun
  refine matches_onServer_bind ⟨hParsed, h.2⟩
    (matches_authorizeSync hParsed context logbookId .read) fun _ _ _ hSeen _ => ?_
  apply matches_get_bind
  dsimp only
  rw [h.2.listEvents]
  exact matches_pure ⟨hSeen, h.2⟩ _

theorem sameOutcome_preview (h : SameFor logbookId first second)
    (localHeadHash : Option String) :
    (preview localHeadHash).SameOutcome context logbookId first second := by
  apply sameOutcome_of_matches
  apply Matches.wrapped
  refine matches_onServer_bind h ⟨h.1, rfl⟩ fun _ _ input hParsed hRun => ?_
  cases hRun
  refine matches_onServer_bind ⟨hParsed, h.2⟩
    (matches_authorizeSync hParsed context logbookId .read) fun _ _ _ hSeen _ => ?_
  apply matches_get_bind
  dsimp only
  rw [h.2.listEvents]
  exact matches_pure ⟨hSeen, h.2⟩ _

theorem sameOutcome_push (h : SameFor logbookId first second) (events : List CoreEventEnvelope) :
    (push events).SameOutcome context logbookId first second ↔
      (push events).Unaffected context logbookId first second := by
  have hAuth := matches_authorizeSync h.1 context logbookId .logQso
  by_cases hReached : ((authorizeSync context logbookId .logQso).execute first.server).2 = .ok () ∧
      ∀ event ∈ events, event.logbookId = logbookId
  · obtain ⟨hAllowed, hOwn⟩ := hReached
    have hOther : ((authorizeSync context logbookId .logQso).execute second.server).2 = .ok () :=
      hAuth.2.symm.trans hAllowed
    have hFirst : (syncPush context (.ok ⟨logbookId, events⟩)).execute first = _ :=
      syncPush_eq (Prod.ext rfl hAllowed) hOwn
    have hSecond : (syncPush context (.ok ⟨logbookId, events⟩)).execute second = _ :=
      syncPush_eq (Prod.ext rfl hOther) hOwn
    obtain ⟨hSame, hOnly⟩ := syncPushLoop_same h.2 hOwn {}
    unfold SameOutcome Unaffected run
    dsimp only
    rw [execute_bind, execute_bind, hFirst, hSecond]
    constructor
    · intro hOutcome _ _
      apply hOnly
      have hResponse := SyncAnswer.pushed.inj (Except.ok.inj hOutcome.1)
      have hAccepted := congrArg CloudPushEventsResponse.acceptedCount hResponse
      have hIgnored := congrArg CloudPushEventsResponse.ignoredDuplicateCount hResponse
      have hErrors := congrArg CloudPushEventsResponse.errors hResponse
      exact PushProgress.eq_of_counts hAccepted hIgnored hErrors
    · intro hUndisturbed
      obtain ⟨hProgress, hAlike⟩ := hSame (hUndisturbed hAllowed hOwn)
      refine ⟨?_, hAlike.listEvents⟩
      show Except.ok (SyncAnswer.pushed _) = Except.ok (SyncAnswer.pushed _)
      rw [hProgress, hAlike.getHead]
  · refine ⟨fun _ hAllowed hOwn => absurd ⟨hAllowed, hOwn⟩ hReached, fun _ => ?_⟩
    apply sameOutcome_of_matches
    apply Matches.wrapped
    refine matches_onServer_bind h ⟨h.1, rfl⟩ fun _ _ input hParsed hRun => ?_
    cases hRun
    refine matches_onServer_bind ⟨hParsed, h.2⟩
      (matches_authorizeSync hParsed context logbookId .logQso) fun _ _ _ hSeen hRun => ?_
    have hAllowed : ((authorizeSync context logbookId .logQso).execute first.server).2 = .ok () :=
      congrArg Prod.snd hRun
    have hForeign : events.any (fun event => event.logbookId ≠ logbookId) = true := by
      by_contra hNone
      refine hReached ⟨hAllowed, fun event hEvent => ?_⟩
      by_contra hOther
      exact hNone (List.any_eq_true.mpr ⟨event, hEvent, by simpa using hOther⟩)
    rw [if_pos hForeign]
    exact ⟨⟨hSeen, h.2⟩, rfl⟩

/-- Where an import appends its events, it leaves them in the store whatever
comes of it, and an error of the store is its answer. -/
theorem backupImport_opened {input : BackupImportInput} {state : HostedState}
    {auth : AuthorizedLogbook} (h : ImportOpens context input state auth) :
    ((backupImport context (.ok input)).execute state).1.store =
        (appendBackupEvents state.store (newBackupEvents input state.store)).1 ∧
      ∀ error, (appendBackupEvents state.store (newBackupEvents input state.store)).2 =
          .error error →
        ((backupImport context (.ok input)).execute state).2 =
          .error (.error (.store error.toString)) := by
  show Ensures (backupImport context (.ok input)) state
    fun later (outcome : Except (Fault ApiError) BackupImportResponse) =>
    later.store = (appendBackupEvents state.store (newBackupEvents input state.store)).1 ∧
      ∀ error, (appendBackupEvents state.store (newBackupEvents input state.store)).2 =
        .error error → outcome = .error (.error (.store error.toString))
  refine Ensures.bind (R := fun later outcome => later = state ∧ outcome = .ok input)
    ⟨rfl, rfl⟩ (fun _ _ hLater => by cases hLater.2) ?_
  intro later _ hParsed
  obtain ⟨rfl, hInput⟩ := hParsed
  cases hInput
  apply ensures_guard
  · intro hUnconfirmed
    exact absurd h.confirmed (by simpa using hUnconfirmed)
  intro _
  refine Ensures.bind (R := fun after outcome => after.store = later.store ∧ outcome = .ok auth)
    ⟨rfl, h.authorized⟩ (fun _ _ hLater => by cases hLater.2) ?_
  intro after _ hAfter
  obtain ⟨hStore, hAuth⟩ := hAfter
  cases hAuth
  apply ensures_guard
  · intro hUnplanned
    exact absurd h.planned (by simpa using hUnplanned)
  intro _
  refine Ensures.bind (R := fun final outcome => final = after ∧ outcome = .ok after) ⟨rfl, rfl⟩
    (fun _ _ hLater => by cases hLater.2) ?_
  intro final _ hFinal
  obtain ⟨rfl, hState⟩ := hFinal
  cases hState
  have hTarget := h.onTarget
  rw [newBackupEvents, ← hStore]
  rw [← hStore] at hTarget
  dsimp only
  rw [hTarget]
  dsimp only
  rcases appendBackupEvents final.store
    ((validateBackupPlan input.logbookId input.backup).events.drop
      (final.store.listEvents input.logbookId).length) with ⟨store, appended⟩
  cases appended with
  | error error =>
      refine ⟨rfl, fun other hOther => ?_⟩
      cases hOther
      rfl
  | ok imported =>
      refine Ensures.mono (Q := fun later _ => later.store = store) ?_
        fun _ _ hLater => ⟨hLater, fun _ hError => by cases hError⟩
      apply ensures_of_leads HostedState.store (Q := fun seen _ => seen = store)
      apply leads_set_bind
      apply Keeps.leads ?_ fun _ => rfl
      apply keeps_bind (keeps_storeOutcome _)
      intro _
      apply keeps_bind (keeps_storeOutcome _)
      intro _
      apply keeps_bind (keeps_storeOutcome _)
      intro _
      apply keeps_bind fun _ => rfl
      intro _
      exact keeps_pure _

theorem sameOutcome_importBackup (h : SameFor logbookId first second) (backup : BackupDocument)
    (confirmDryRun : Bool) :
    (importBackup backup confirmDryRun).SameOutcome context logbookId first second ↔
      (importBackup backup confirmDryRun).Unaffected context logbookId first second := by
  constructor
  · intro hOutcome auth hOpens
    by_contra hDisturbed
    have hPlan : (validateBackupPlan logbookId backup).ok = true := hOpens.planned
    have hOther : ImportOpens context ⟨logbookId, backup, confirmDryRun⟩ second auth := by
      constructor
      · exact hOpens.confirmed
      · exact (matches_requireLogbookRole h.1 context logbookId .admin).2.symm.trans
          hOpens.authorized
      · exact hPlan
      · have hTarget := hOpens.onTarget
        dsimp only at hTarget ⊢
        rw [← h.2.listEvents]
        exact hTarget
    have hNew : newBackupEvents ⟨logbookId, backup, confirmDryRun⟩ second.store =
        newBackupEvents ⟨logbookId, backup, confirmDryRun⟩ first.store := by
      simp only [newBackupEvents, h.2.listEvents]
    obtain ⟨hFirstStore, hFirstError⟩ := backupImport_opened hOpens
    obtain ⟨hSecondStore, hSecondError⟩ := backupImport_opened hOther
    rw [hNew] at hSecondStore hSecondError
    have hOwn : ∀ event ∈ newBackupEvents ⟨logbookId, backup, confirmDryRun⟩ first.store,
        event.logbookId = logbookId := fun event hEvent =>
      logbookId_of_planned hPlan (List.mem_of_mem_drop hEvent)
    obtain ⟨hAnswers, hLists⟩ := hOutcome
    unfold run at hAnswers hLists
    dsimp only at hAnswers hLists
    rw [execute_wrapped, execute_wrapped] at hAnswers hLists
    dsimp only at hAnswers hLists
    rw [hFirstStore, hSecondStore] at hLists
    rcases (appendBackupEvents_same h.2 hOwn).2 hDisturbed with
      hApart | ⟨error, other, hError, hOtherError, hTexts⟩
    · exact hApart hLists
    · rw [hFirstError error hError, hSecondError other hOtherError] at hAnswers
      have hStore := Fault.error.inj (Except.error.inj hAnswers)
      exact hTexts (ApiError.store.inj hStore)
  · intro hUnaffected
    apply sameOutcome_of_matches
    apply Matches.wrapped
    unfold backupImport
    refine matches_onServer_bind h ⟨h.1, rfl⟩ fun _ _ input hParsed hRun => ?_
    cases hRun
    apply matches_ite
    · intro _
      exact ⟨⟨hParsed, h.2⟩, rfl⟩
    intro hConfirmed
    refine matches_onServer_bind ⟨hParsed, h.2⟩
      (matches_requireLogbookRole hParsed context logbookId .admin)
      fun firstServer secondServer auth hSeen hRun => ?_
    apply matches_ite
    · intro _
      exact ⟨⟨hSeen, h.2⟩, rfl⟩
    intro hPlan
    apply matches_get_bind
    have hList := h.2.listEvents
    have hPlanned : (validateBackupPlan logbookId backup).ok = true := by simpa using hPlan
    dsimp only
    rw [← hList]
    cases hTarget : targetError (first.store.listEvents logbookId)
        (validateBackupPlan logbookId backup).events with
    | some message => exact ⟨⟨hSeen, h.2⟩, rfl⟩
    | none =>
        have hOpens : ImportOpens context ⟨logbookId, backup, confirmDryRun⟩ first auth := by
          constructor
          · simpa using hConfirmed
          · exact congrArg Prod.snd hRun
          · exact hPlanned
          · exact hTarget
        have hOwn : ∀ event ∈ newBackupEvents ⟨logbookId, backup, confirmDryRun⟩ first.store,
            event.logbookId = logbookId := fun event hEvent =>
          logbookId_of_planned hPlanned (List.mem_of_mem_drop hEvent)
        obtain ⟨hAppended, hAlike⟩ := (appendBackupEvents_same h.2 hOwn).1
          (hUnaffected auth hOpens)
        unfold newBackupEvents at hAppended hAlike
        dsimp only at hAppended hAlike ⊢
        have hProjections : (appendBackupEvents first.store
            ((validateBackupPlan logbookId backup).events.drop
              (first.store.listEvents logbookId).length)).1.rebuildProjections logbookId =
            (appendBackupEvents second.store ((validateBackupPlan logbookId backup).events.drop
              (first.store.listEvents logbookId).length)).1.rebuildProjections logbookId := by
          unfold InMemoryLogbookEventStore.rebuildProjections
          rw [hAlike.listEvents]
        rw [hAppended, hAlike.verifyChain, hAlike.getHead, hProjections]
        have hFinal : ∀ final other : InMemoryLogbookEventStore, Alike logbookId final other →
            SameFor logbookId ⟨firstServer, final⟩ ⟨secondServer, other⟩ :=
          fun _ _ hStores => ⟨hSeen, hStores⟩
        apply matches_set_bind
        refine matches_bind (matches_storeOutcome (hFinal _ _ hAlike) _) fun _ _ _ hLater _ => ?_
        refine matches_bind (matches_storeOutcome hLater _) fun _ _ _ hLater _ => ?_
        refine matches_bind (matches_storeOutcome hLater _) fun _ _ _ hLater _ => ?_
        refine matches_onServer_bind hLater ?_ fun _ _ _ hRestored _ => ?_
        · refine matches_bind (matches_restoreBackupSupportMetadata hLater.1 _ _ _ _)
            fun _ _ _ hRestored _ => ?_
          refine matches_bind (matches_savingWith hRestored _) fun _ _ _ hSaved _ => ?_
          exact matches_pure hSaved _
        · exact matches_pure ⟨hRestored, hLater.2⟩ _

end SyncRequest

/-- Servers with the same events in a logbook, that are alike for what decides
the request, end a request on it the same exactly where no identifier that it
brings is taken in another logbook of one of them only. -/
theorem same_outcome_iff (request : SyncRequest) (context : RequestContext) (logbookId : Uuid)
    (first second : HostedState) (hFirst : first.store.Consistent)
    (hSecond : second.store.Consistent) (hSeen : SeenAlike first.server second.server)
    (hEvents : first.store.listEvents logbookId = second.store.listEvents logbookId) :
    request.SameOutcome context logbookId first second ↔
      request.Unaffected context logbookId first second := by
  have hSame : SameFor logbookId first second :=
    ⟨hSeen, InMemoryLogbookEventStore.alike_of_listEvents hFirst hSecond hEvents⟩
  cases request with
  | push events => exact SyncRequest.sameOutcome_push hSame events
  | pull localHeadHash =>
      exact iff_of_true (SyncRequest.sameOutcome_pull hSame localHeadHash) trivial
  | preview localHeadHash =>
      exact iff_of_true (SyncRequest.sameOutcome_preview hSame localHeadHash) trivial
  | importBackup backup confirmDryRun =>
      exact SyncRequest.sameOutcome_importBackup hSame backup confirmDryRun

end Requests

section
open Crates

/-- An event of another logbook, with the identifier of the first contact. -/
def neighbourContact : CoreEventEnvelope :=
  CoreEventEnvelope.fromNew (sampleEvent .qsoCreated 103 (some 7) .null) none (sampleStamp 8)

def neighbourStore : InMemoryLogbookEventStore :=
  InMemoryLogbookEventStore.insertEvent {} neighbourContact

theorem consistent_neighbourStore : neighbourStore.Consistent :=
  ⟨_, InMemoryLogbookEventStore.represents_empty.insertEvent rfl⟩

theorem listEvents_neighbourStore :
    InMemoryLogbookEventStore.listEvents {} 102 = neighbourStore.listEvents 102 := by
  decide +kernel

theorem same_outcome_iff_pull :
    (SyncRequest.pull none).SameOutcome administratorRequest 102 (hostedWith {})
      (hostedWith neighbourStore) :=
  (same_outcome_iff (.pull none) administratorRequest 102 (hostedWith {})
    (hostedWith neighbourStore) ⟨_, InMemoryLogbookEventStore.represents_empty⟩
    consistent_neighbourStore rfl listEvents_neighbourStore).mpr trivial

/-- A contact is accepted, or refused because another logbook has an event
under its identifier. -/
theorem contact_blocked_by_neighbour :
    SeenAlike (hostedWith {}).server (hostedWith neighbourStore).server ∧
    (hostedWith {}).store.listEvents 102 = (hostedWith neighbourStore).store.listEvents 102 ∧
    ((HostedServer.syncPush administratorRequest (.ok ⟨102, [firstContact]⟩)).execute
        (hostedWith {})).2.toOption.map CloudPushEventsResponse.acceptedCount = some 1 ∧
    ((HostedServer.syncPush administratorRequest (.ok ⟨102, [firstContact]⟩)).execute
        (hostedWith neighbourStore)).2.toOption.map CloudPushEventsResponse.acceptedCount =
      some 0 ∧
    ¬ (SyncRequest.push [firstContact]).SameOutcome administratorRequest 102 (hostedWith {})
      (hostedWith neighbourStore) := by
  have hAccepted : ((HostedServer.syncPush administratorRequest (.ok ⟨102, [firstContact]⟩)).execute
      (hostedWith {})).2.toOption.map CloudPushEventsResponse.acceptedCount = some 1 := by
    decide +kernel
  have hBlocked : ((HostedServer.syncPush administratorRequest (.ok ⟨102, [firstContact]⟩)).execute
      (hostedWith neighbourStore)).2.toOption.map CloudPushEventsResponse.acceptedCount =
        some 0 := by
    decide +kernel
  refine ⟨rfl, listEvents_neighbourStore, hAccepted, hBlocked, fun h => ?_⟩
  have hAnswers := h.1
  unfold SyncRequest.run at hAnswers
  dsimp only at hAnswers
  rw [execute_wrapped, execute_wrapped] at hAnswers
  have hSame := except_map_injective (fun _ _ => SyncAnswer.pushed.inj) hAnswers
  rw [hSame, hBlocked] at hAccepted
  exact absurd hAccepted (by decide)

end
end HamLogger
