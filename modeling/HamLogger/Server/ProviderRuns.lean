import HamLogger.Core.AdifCrates
import HamLogger.Library.Transition
import HamLogger.Server.ImportSteps
import HamLogger.Server.ProviderSettings

/-! Runs of the requests about provider settings: for whom the credential
store is asked for the reference that a member of a logbook stored. -/
namespace HamLogger

open Program
open Transition (Run System)

/-! What was done with references. -/

namespace ProviderAccess

def storedAt (key : String) : ProviderAccess → Option (Uuid × String)
  | stored accountId other reference => if other = key then some (accountId, reference) else none
  | resolved .. => none

/-- The reference put last under a key, with the account that did. -/
def lastStored (journal : List ProviderAccess) (key : String) : Option (Uuid × String) :=
  journal.findSome? (storedAt key)

/-- A reference that was asked for is the one stored last under its key, by the
account that it was asked for. -/
def ResolvedByOwner (journal : List ProviderAccess) : Prop :=
  ∀ later earlier accountId key reference,
    journal = later ++ resolved accountId key reference :: earlier →
      lastStored earlier key = some (accountId, reference)

variable {journal : List ProviderAccess} {accountId : Uuid} {key reference : String}

theorem lastStored_stored (other : String) :
    lastStored (stored accountId key reference :: journal) other =
      if key = other then some (accountId, reference) else lastStored journal other := by
  unfold lastStored
  rw [List.findSome?_cons, storedAt]
  by_cases h : key = other
  · rw [if_pos h, if_pos h]
  · rw [if_neg h, if_neg h]

theorem resolvedByOwner_nil : ResolvedByOwner [] := by
  intro later earlier accountId key reference h
  simp at h

theorem ResolvedByOwner.stored (h : ResolvedByOwner journal) :
    ResolvedByOwner (stored accountId key reference :: journal) := by
  intro later earlier owner asked text hSplit
  cases later with
  | nil => simp at hSplit
  | cons first rest =>
      have hTail := (List.cons.inj hSplit).2
      exact h rest earlier owner asked text hTail

theorem ResolvedByOwner.resolved (h : ResolvedByOwner journal)
    (hLast : lastStored journal key = some (accountId, reference)) :
    ResolvedByOwner (resolved accountId key reference :: journal) := by
  intro later earlier owner asked text hSplit
  cases later with
  | nil =>
      simp only [List.nil_append, List.cons.injEq, ProviderAccess.resolved.injEq] at hSplit
      obtain ⟨⟨rfl, rfl, rfl⟩, rfl⟩ := hSplit
      exact hLast
  | cons first rest =>
      have hTail := (List.cons.inj hSplit).2
      exact h rest earlier owner asked text hTail

end ProviderAccess

open ProviderAccess

/-- Every setting holds a reference that its owner stored. -/
structure ReferencesOwned (seen : (String → Option (Uuid × String)) × List ProviderAccess) :
    Prop where
  held : ∀ key owner, seen.1 key = some owner → lastStored seen.2 key = some owner
  resolved : ResolvedByOwner seen.2

/-- References that were there before. -/
def Below (before later : String → Option (Uuid × String)) : Prop :=
  ∀ key owner, later key = some owner → before key = some owner

theorem below_refl (references : String → Option (Uuid × String)) :
    Below references references :=
  fun _ _ h => h

theorem Below.trans {first second third : String → Option (Uuid × String)}
    (h : Below first second) (hNext : Below second third) : Below first third :=
  fun key owner hOwner => h key owner (hNext key owner hOwner)

theorem ReferencesOwned.below {references later : String → Option (Uuid × String)}
    {journal : List ProviderAccess} (h : ReferencesOwned (references, journal))
    (hBelow : Below references later) : ReferencesOwned (later, journal) where
  held key owner hOwner := h.held key owner (hBelow key owner hOwner)
  resolved := h.resolved

section Settings
variable [UuidCrate]

/-- The owner of a setting and the reference it holds, if that is an identifier. -/
def HostedProviderSetting.reference (setting : HostedProviderSetting) : Option (Uuid × String) :=
  (setting.credentialId.filter fun text => (UuidCrate.parseStr text).isSome).map
    fun text => (setting.accountId, text)

def ServerState.references (state : ServerState) (key : String) : Option (Uuid × String) :=
  (state.providerSettings.lookup key).bind HostedProviderSetting.reference

/-- What an upload reads of the metadata. -/
def ServerState.uploadView (state : ServerState) :
    (String → Option (Uuid × String)) × Catalog HostedUploadJob.uploadId :=
  (state.references, state.uploadJobs)

/-- The references that the settings hold, and what was done with references. -/
def ProviderHost.seen (host : ProviderHost) :
    (String → Option (Uuid × String)) × List ProviderAccess :=
  (host.hosted.server.references, host.journal)

theorem ServerState.references_insert (state : ServerState) (setting : HostedProviderSetting)
    (key : String) :
    ({ state with
        providerSettings := state.providerSettings.insert setting } : ServerState).references key =
      if key = setting.key then setting.reference else state.references key := by
  unfold references
  rw [Catalog.lookup_insert]
  split <;> rfl

namespace HostedServer

theorem keeps_recordExecution (context : RequestContext) (key : String)
    (execution : ProviderExecution) :
    Keeps ServerState.references (recordExecution context key execution) := by
  apply keeps_modify
  intro state
  funext other
  have hLookup := Catalog.lookup_modify state.providerSettings key other
    (fun setting => setting.recording execution context.now) fun _ => rfl
  show Option.bind _ HostedProviderSetting.reference = _
  rw [hLookup]
  split
  · next hKey =>
      subst hKey
      show _ = (state.providerSettings.lookup other).bind _
      cases state.providerSettings.lookup other <;> rfl
  · rfl

theorem keeps_recordOwned (context : RequestContext) (setting : Option HostedProviderSetting)
    (execution : ProviderExecution) :
    Keeps ServerState.references (recordOwned context setting execution) := by
  cases setting with
  | none => exact keeps_pure _
  | some setting =>
      exact keeps_bind (keeps_recordExecution _ _ _) fun _ => keeps_persistMetadata _

theorem keeps_insertUpload (job : HostedUploadJob) :
    Keeps ServerState.references (modify fun state =>
      { state with uploadJobs := state.uploadJobs.insert job } : Handler Unit) :=
  keeps_modify fun _ => rfl

theorem keeps_keepUpload (context : RequestContext) (job : HostedUploadJob)
    (execution : ProviderExecution) :
    Keeps ServerState.references (keepUpload context job execution) := by
  apply keeps_bind (keeps_recordExecution _ _ _)
  intro _
  apply keeps_bind (keeps_insertUpload job)
  intro _
  exact keeps_persistMetadata context

theorem keeps_onHost {α : Type} {handler : Handler α}
    (h : Keeps ServerState.references handler) : Keeps ProviderHost.seen (onHost handler) :=
  fun host => Prod.ext (h host.hosted.server) rfl

theorem keeps_requireProvider {View : Type} {view : ServerState → View} (calls : ProviderCalls)
    (providerId : String) : Keeps view (requireProvider calls providerId) := by
  unfold requireProvider
  split
  · exact keeps_pure _
  · exact keeps_reject _

variable [Sha2Crate]

section Views
variable {View : Type} {view : ServerState → View}

theorem leads_enforceRateLimit
    (hView : ∀ state limits, view { state with rateLimits := limits } = view state)
    (context : RequestContext) (key : String) (limit : Nat) (before : View) :
    Leads view (enforceRateLimit context key limit) before fun later _ => later = before := by
  unfold enforceRateLimit
  apply leads_guard
  · intro _
    rfl
  · intro _
    apply leads_get_bind
    intro state hState
    apply leads_ite
    · intro _
      apply leads_set_bind
      exact (keeps_reject _).leads fun _ => (hView state _).trans hState
    · intro _ _ _
      exact (hView state _).trans hState

theorem keeps_enforceProviderOperationLimit
    (hView : ∀ state limits, view { state with rateLimits := limits } = view state)
    (context : RequestContext) (session : LoginSession) :
    Keeps view (enforceProviderOperationLimit context session) := by
  apply keeps_get_bind
  intro state
  apply keeps_bind
  · intro found
    exact leads_enforceRateLimit hView context _ _ _ found rfl
  · intro _
    exact keeps_savingWith _

theorem keeps_openRequest {context : RequestContext} {logbookId : Uuid} {access : LogbookAccess}
    {checks : LoginSession → Handler Unit}
    (h : ∀ session, Keeps view (checks session)) :
    Keeps view (openRequest context logbookId access checks) := by
  apply keeps_bind (keeps_requireLogbookRole context logbookId access)
  intro auth
  exact keeps_bind (h auth.session) fun _ => keeps_pure _

/-- The account of a session that may change what belongs to the logbook. -/
def Administers (context : RequestContext) (state : ServerState) (logbookId accountId : Uuid) :
    Prop :=
  ∃ auth, ((requireLogbookRole context logbookId .admin).execute state).2 = .ok auth ∧
    auth.session.accountId = accountId

/-- Only a session with the role comes through the first part of a request. -/
theorem ensures_openRequest {context : RequestContext} {logbookId : Uuid}
    {checks : LoginSession → Handler Unit} (h : ∀ session, Keeps view (checks session))
    (host : ProviderHost) :
    Ensures (onHost (openRequest context logbookId .admin checks)) host fun later outcome =>
      view later.hosted.server = view host.hosted.server ∧
        later.hosted.store = host.hosted.store ∧ later.journal = host.journal ∧
          ∀ session, outcome = .ok session →
            Administers context host.hosted.server logbookId session.accountId := by
  refine ⟨keeps_openRequest h host.hosted.server, rfl, rfl, ?_⟩
  intro session hOutcome
  have hRun : ((openRequest context logbookId .admin checks).execute host.hosted.server).2 =
      .ok session := hOutcome
  unfold openRequest at hRun
  rw [execute_bind] at hRun
  rcases hRole : (requireLogbookRole context logbookId .admin).execute host.hosted.server with
    ⟨state, outcome⟩
  rw [hRole] at hRun
  cases outcome with
  | error error => cases hRun
  | ok auth =>
      dsimp only at hRun
      rw [execute_bind] at hRun
      rcases hChecks : (checks auth.session).execute state with ⟨last, checked⟩
      rw [hChecks] at hRun
      cases checked with
      | error error => cases hRun
      | ok _ =>
          cases hRun
          exact ⟨auth, congrArg Prod.snd hRole, rfl⟩

end Views

end HostedServer

open HostedServer

/-! One request. -/

section Requests
variable {host : ProviderHost}

/-- The program ends where every setting holds a reference its owner stored. -/
def EndsOwned {α : Type} (program : ProviderHandler α) (host : ProviderHost) : Prop :=
  Ensures program host fun later _ => ReferencesOwned later.seen

theorem endsOwned_of_keeps {α : Type} {program : ProviderHandler α}
    (h : Keeps ProviderHost.seen program) (hOwned : ReferencesOwned host.seen) :
    EndsOwned program host := by
  show ReferencesOwned (program.execute host).1.seen
  rw [h host]
  exact hOwned

theorem EndsOwned.bind {α β : Type} {first : ProviderHandler α} {next : α → ProviderHandler β}
    (hFirst : EndsOwned first host)
    (hNext : ∀ later value, ReferencesOwned later.seen → EndsOwned (next value) later) :
    EndsOwned (first >>= next) host :=
  Ensures.bind hFirst (fun _ _ h => h) hNext

/-- A program goes on with the value of a part that changes nothing. -/
theorem endsOwned_bind_ok {α β : Type} {first : ProviderHandler α} {next : α → ProviderHandler β}
    {value : α} (hFirst : first.execute host = (host, .ok value))
    (hNext : EndsOwned (next value) host) : EndsOwned (first >>= next) host := by
  unfold EndsOwned Ensures
  rw [execute_bind, hFirst]
  exact hNext

/-- A program goes on from a part that is not seen. -/
theorem endsOwned_keeps_bind {α β : Type} {first : ProviderHandler α}
    {next : α → ProviderHandler β} (hFirst : Keeps ProviderHost.seen first)
    (hOwned : ReferencesOwned host.seen)
    (hNext : ∀ later value, later.seen = host.seen → EndsOwned (next value) later) :
    EndsOwned (first >>= next) host := by
  have hSeen : Ensures first host fun later _ => later.seen = host.seen := hFirst host
  refine hSeen.bind ?_ hNext
  intro later _ hSeen
  show ReferencesOwned later.seen
  rw [hSeen]
  exact hOwned

/-- The store is asked for a reference that the account owns. -/
theorem endsOwned_resolve (hOwned : ReferencesOwned host.seen) (calls : ProviderCalls)
    {accountId : Uuid} {setting : Option HostedProviderSetting} (live : Bool)
    (hStored : ∀ found, setting = some found →
      host.hosted.server.providerSettings.lookup found.key = some found)
    (hOwner : ∀ found, setting = some found → ∀ owner, found.reference = some owner →
      owner.1 = accountId) :
    EndsOwned (resolveProviderCredential calls accountId setting live) host := by
  cases setting with
  | none => exact hOwned
  | some found =>
      unfold resolveProviderCredential
      cases hText : found.credentialId with
      | none =>
          dsimp only
          rw [hText]
          exact hOwned
      | some text =>
          dsimp only
          rw [hText]
          dsimp only
          cases hParsed : UuidCrate.parseStr text with
          | none => exact hOwned
          | some credentialId =>
              have hReference : found.reference = some (found.accountId, text) := by
                simp [HostedProviderSetting.reference, hText, hParsed]
              have hAccount : found.accountId = accountId :=
                hOwner found rfl _ hReference
              have hHeld : host.seen.1 found.key = some (accountId, text) := by
                show (host.hosted.server.providerSettings.lookup found.key).bind _ = _
                rw [hStored found rfl, ← hAccount]
                exact hReference
              have hLast := hOwned.held found.key _ hHeld
              exact ⟨hOwned.held, hOwned.resolved.resolved hLast⟩

/-- A setting of the account that a test or a lookup takes. -/
theorem endsOwned_resolve_own (hOwned : ReferencesOwned host.seen) (calls : ProviderCalls)
    (accountId : Uuid) (key : String) (live : Bool) :
    EndsOwned (resolveProviderCredential calls accountId
      ((host.hosted.server.providerSettings.lookup key).filter
        fun setting => setting.accountId = accountId) live) host := by
  have hFound : ∀ found, (host.hosted.server.providerSettings.lookup key).filter
      (fun setting => decide (setting.accountId = accountId)) = some found →
        host.hosted.server.providerSettings.lookup key = some found ∧
          found.accountId = accountId := by
    intro found h
    simpa using Option.filter_eq_some_iff.mp h
  apply endsOwned_resolve hOwned
  · intro found h
    have hLookup := (hFound found h).1
    rw [Catalog.keyOf_of_lookup hLookup]
    exact hLookup
  · intro found h owner hOwner
    unfold HostedProviderSetting.reference at hOwner
    obtain ⟨text, _, rfl⟩ := Option.map_eq_some_iff.mp hOwner
    exact (hFound found h).2

theorem below_restoreProviderSetting (now : DateTime) (accountId logbookId : Uuid)
    (setting : HostedProviderSetting) (before : String → Option (Uuid × String)) :
    Leads ServerState.references (restoreProviderSetting now accountId logbookId setting) before
      fun later _ => Below before later := by
  apply leads_ofExcept_bind
  · intro _ _
    exact below_refl before
  · intro _ _ state hState key owner hOwner
    have hRestored := (ServerState.references_insert state _ key).symm.trans hOwner
    split at hRestored
    · cases hRestored
    · rw [← hState]
      exact hRestored

/-- What each record of a section does to the references, the section does. -/
theorem below_restoreSection {Record : Type} {invalid name : String}
    {restore : Record → Handler Unit}
    (hRestore : ∀ record before, Leads ServerState.references (restore record) before
      fun later _ => Below before later)
    (entries : Option (List (Except String Record)))
    (before : String → Option (Uuid × String)) :
    Leads ServerState.references (restoreSection entries name invalid restore) before
      fun later _ => Below before later := by
  have hEntries : ∀ (entries : List (Except String Record)) before,
      Leads ServerState.references (restoreEntries invalid restore entries) before
        fun later _ => Below before later := by
    intro entries
    induction entries with
    | nil => exact fun before => leads_pure (below_refl before)
    | cons entry rest ih =>
        intro before
        cases entry with
        | error message => exact (keeps_reject _).leads fun _ => below_refl before
        | ok record =>
            apply leads_bind (hRestore record before) fun _ _ h => h
            intro later _ hLater
            exact (ih later).mono fun last _ hLast => hLater.trans hLast
  cases entries with
  | none => exact leads_pure (below_refl before)
  | some entries =>
      apply leads_bind (hEntries entries before) fun _ _ h => h
      intro later _ hLater
      exact leads_pure hLater

theorem below_restoreBackupSupportMetadata (now : DateTime) (accountId logbookId : Uuid)
    (backup : BackupDocument) (before : String → Option (Uuid × String)) :
    Leads ServerState.references (restoreBackupSupportMetadata now accountId logbookId backup)
      before fun later _ => Below before later := by
  apply leads_of_keeps_bind (keeps_restoreSection fun _ _ => rfl)
    fun _ => below_refl before
  intro _
  apply leads_of_keeps_bind (keeps_restoreSection fun _ _ => rfl)
    fun _ => below_refl before
  intro _
  apply leads_bind (below_restoreSection (below_restoreProviderSetting now accountId logbookId)
    _ before) fun _ _ h => h
  intro later _ hLater
  apply leads_of_keeps_bind (keeps_restoreSection fun _ _ => rfl)
    fun _ => hLater
  intro _
  apply leads_of_keeps_bind (keeps_restoreSection fun _ _ => rfl)
    fun _ => hLater
  intro _
  exact leads_pure hLater

variable (calls : ProviderCalls) (context : RequestContext)

theorem endsOwned_executeHostedUploadJob (hOwned : ReferencesOwned host.seen)
    (accountId claim : Uuid) (job : HostedUploadJob) (forceFail : Bool)
    {keep : HostedUploadJob → Handler Unit}
    (hKeep : ∀ job, Keeps ServerState.references (keep job))
    (hOwner : ∀ owner, host.hosted.server.references
      (providerSettingKey job.logbookId job.providerId) = some owner → owner.1 = accountId) :
    EndsOwned (executeHostedUploadJob calls context accountId claim job forceFail keep) host := by
  apply Ensures.get_bind
  refine (endsOwned_resolve hOwned calls _ ?_ ?_).bind ?_
  · intro found hFound
    rw [Catalog.keyOf_of_lookup hFound]
    exact hFound
  · intro found hFound owner hReference
    apply hOwner owner
    show Option.bind _ _ = _
    rw [hFound]
    exact hReference
  · intro asked credential hAsked
    apply endsOwned_of_keeps _ hAsked
    apply keeps_bind (keeps_onHost (hKeep _))
    intro _
    apply keeps_bind (keeps_onHost (keeps_ofExcept _))
    intro _
    exact keeps_pure _

/-- What a patch puts in place. -/
theorem ensures_insert (setting : HostedProviderSetting) (host : ProviderHost) :
    Ensures (onHost (do
      modify fun state =>
        { state with providerSettings := state.providerSettings.insert setting }
      persistMetadata context)) host fun later _ =>
        later.seen = (fun key => if key = setting.key then setting.reference
          else host.hosted.server.references key, host.journal) := by
  have hPut : Leads ServerState.references (do
      modify fun state =>
        { state with providerSettings := state.providerSettings.insert setting }
      persistMetadata context) host.hosted.server.references fun later _ =>
        later = fun key => if key = setting.key then setting.reference
          else host.hosted.server.references key := by
    apply leads_modify_bind
    intro state hState
    apply (keeps_persistMetadata context).leads
    intro _
    funext key
    rw [ServerState.references_insert, hState]
  exact Prod.ext (hPut host.hosted.server rfl) rfl

theorem endsOwned_insert {setting : HostedProviderSetting}
    (h : ReferencesOwned (fun key => if key = setting.key then setting.reference
      else host.hosted.server.references key, host.journal)) :
    EndsOwned (do
      onHost do
        modify fun state =>
          { state with providerSettings := state.providerSettings.insert setting }
        persistMetadata context
      return setting) host := by
  have hEnds : EndsOwned (onHost (do
      modify fun state =>
        { state with providerSettings := state.providerSettings.insert setting }
      persistMetadata context)) host := by
    apply (ensures_insert context setting host).mono
    intro later _ hLater
    rw [hLater]
    exact h
  apply hEnds.bind
  intro later _ hLater
  exact hLater

theorem HostedProviderSetting.reference_patched {setting : HostedProviderSetting}
    {input : ProviderPatchRequest} {accountId : Uuid} {now : DateTime}
    (h : input.credentialId = none)
    (hOwner : ∀ owner, setting.reference = some owner → owner.1 = accountId) :
    (setting.patched input accountId now).reference = setting.reference := by
  unfold reference at hOwner ⊢
  unfold patched
  rw [h]
  dsimp only
  cases hText : setting.credentialId.filter fun text => (UuidCrate.parseStr text).isSome with
  | none => rfl
  | some text =>
      rw [hText] at hOwner
      have hSame : setting.accountId = accountId := hOwner _ rfl
      rw [hSame]

theorem HostedProviderSetting.reference_patched_some {setting : HostedProviderSetting}
    {input : ProviderPatchRequest} {accountId : Uuid} {now : DateTime} {text : String}
    (h : input.credentialId = some text) {owner : Uuid × String}
    (hReference : (setting.patched input accountId now).reference = some owner) :
    (trim text).isEmpty = false ∧ owner = (accountId, text) := by
  unfold reference patched at hReference
  rw [h] at hReference
  dsimp only at hReference
  cases hBlank : (trim text).isEmpty with
  | true =>
      rw [hBlank] at hReference
      cases hReference
  | false =>
      rw [hBlank] at hReference
      obtain ⟨found, hFound, rfl⟩ := Option.map_eq_some_iff.mp hReference
      have hText := (Option.filter_eq_some_iff.mp hFound).1
      cases hText
      exact ⟨rfl, rfl⟩

variable [Sha2Crate]

/-- What a request that needs the role finds once it is let through. -/
theorem endsOwned_open {α : Type} {logbookId : Uuid} {checks : LoginSession → Handler Unit}
    {next : LoginSession → ProviderHandler α} (hOwned : ReferencesOwned host.seen)
    (hChecks : ∀ session, Keeps ServerState.uploadView (checks session))
    (hNext : ∀ later session, later.seen = host.seen →
      later.hosted.server.uploadJobs = host.hosted.server.uploadJobs →
        later.hosted.store = host.hosted.store →
          Administers context host.hosted.server logbookId session.accountId →
            EndsOwned (next session) later) :
    EndsOwned (onHost (openRequest context logbookId .admin checks) >>= next) host := by
  apply (ensures_openRequest hChecks host).bind
  · intro later _ hLater
    obtain ⟨hView, _, hJournal, _⟩ := hLater
    have hReferences : later.hosted.server.references = host.hosted.server.references :=
      congrArg Prod.fst hView
    have hSeen : later.seen = host.seen := Prod.ext hReferences hJournal
    show ReferencesOwned later.seen
    rw [hSeen]
    exact hOwned
  · intro later session hLater
    obtain ⟨hView, hStore, hJournal, hAdministers⟩ := hLater
    have hReferences : later.hosted.server.references = host.hosted.server.references :=
      congrArg Prod.fst hView
    exact hNext later session (Prod.ext hReferences hJournal) (congrArg Prod.snd hView) hStore
      (hAdministers session rfl)

theorem endsOwned_testProvider (hOwned : ReferencesOwned host.seen) (providerId : String)
    (body : Except String ProviderTestRequest) :
    EndsOwned (testProvider calls context providerId body) host := by
  apply endsOwned_keeps_bind (keeps_onHost (keeps_parseJson _)) hOwned
  intro parsed input hParsed
  rw [← hParsed] at hOwned
  have hChecks : ∀ session, Keeps ServerState.references (do
      enforceProviderOperationLimit context session
      requireProvider calls providerId) := fun session =>
    keeps_bind (keeps_enforceProviderOperationLimit (fun _ _ => rfl) _ _) fun _ =>
      keeps_requireProvider _ _
  apply endsOwned_keeps_bind (keeps_onHost (keeps_openRequest hChecks)) hOwned
  intro later session hLater
  rw [← hLater] at hOwned
  apply Ensures.get_bind
  apply (endsOwned_resolve_own hOwned calls _ _ _).bind
  intro asked credential hAsked
  apply endsOwned_keeps_bind (keeps_onHost (keeps_ofExcept _)) hAsked
  intro tried execution hTried
  rw [← hTried] at hAsked
  apply endsOwned_of_keeps _ hAsked
  exact keeps_bind (keeps_onHost (keeps_recordOwned _ _ _)) fun _ => keeps_pure _

theorem endsOwned_lookupProvider (hOwned : ReferencesOwned host.seen) (providerId : String)
    (body : Except String ProviderLookupRequest) :
    EndsOwned (lookupProvider calls context providerId body) host := by
  apply endsOwned_keeps_bind (keeps_onHost (keeps_parseJson _)) hOwned
  intro parsed input hParsed
  rw [← hParsed] at hOwned
  apply endsOwned_keeps_bind (keeps_onHost (keeps_openRequest ?_)) hOwned
  · intro later session hLater
    rw [← hLater] at hOwned
    apply Ensures.get_bind
    apply (endsOwned_resolve_own hOwned calls _ _ _).bind
    intro asked credential hAsked
    apply endsOwned_keeps_bind (keeps_onHost (keeps_ofExcept _)) hAsked
    intro tried execution hTried
    rw [← hTried] at hAsked
    apply endsOwned_of_keeps _ hAsked
    exact keeps_bind (keeps_onHost (keeps_recordOwned _ _ _)) fun _ => keeps_pure _
  · intro session
    apply keeps_bind (keeps_enforceProviderOperationLimit (fun _ _ => rfl) _ _)
    intro _
    apply keeps_guard
    apply keeps_bind (keeps_requireProvider _ _)
    intro _
    split
    · exact keeps_reject _
    · exact keeps_pure _

/-- The reference under a key belongs to the account, where that is the one
that the request comes from. -/
def OwnedBy (state : ServerState) (logbookId : Uuid) (key : String) (accountId : Uuid) : Prop :=
  Administers context state logbookId accountId →
    ∀ owner, state.references key = some owner → owner.1 = accountId

/-- A patch keeps the owner of a reference, or puts its own in the place of it. -/
theorem endsOwned_patchProvider (hOwned : ReferencesOwned host.seen) (providerId : String)
    (body : Except String ProviderPatchRequest)
    (hOwner : ∀ input, body = .ok input → input.credentialId = none → ∀ accountId,
      OwnedBy context host.hosted.server input.logbookId
        (providerSettingKey input.logbookId providerId) accountId) :
    EndsOwned (patchProvider calls context providerId body) host := by
  cases body with
  | error message => exact hOwned
  | ok input =>
      have hChecks : ∀ session : LoginSession, Keeps ServerState.uploadView (do
          requireProvider calls providerId
          ofExcept (validateSecretFreeConfig input.config)) := fun _ =>
        keeps_bind (keeps_requireProvider _ _) fun _ => keeps_ofExcept _
      refine endsOwned_bind_ok rfl ?_
      apply endsOwned_open context hOwned hChecks
      intro opened session hSeen _ _ hAdministers
      have hReferences : opened.hosted.server.references = host.hosted.server.references :=
        congrArg Prod.fst hSeen
      rw [← hSeen] at hOwned
      apply Ensures.get_bind
      dsimp only
      generalize hFound : (opened.hosted.server.providerSettings.lookup
        (providerSettingKey input.logbookId providerId)).getD _ = found
      have hKey : found.key = providerSettingKey input.logbookId providerId := by
        cases hLookup : opened.hosted.server.providerSettings.lookup
            (providerSettingKey input.logbookId providerId) with
        | none =>
            rw [hLookup] at hFound
            rw [← hFound]
            rfl
        | some setting =>
            rw [hLookup] at hFound
            rw [← hFound]
            exact Catalog.keyOf_of_lookup hLookup
      have hHeld : ∀ owner, found.reference = some owner →
          opened.hosted.server.references (providerSettingKey input.logbookId providerId) =
            some owner := by
        intro owner hOwns
        show Option.bind _ _ = _
        cases hLookup : opened.hosted.server.providerSettings.lookup
            (providerSettingKey input.logbookId providerId) with
        | none =>
            rw [hLookup] at hFound
            rw [← hFound] at hOwns
            cases hOwns
        | some setting =>
            rw [hLookup] at hFound
            rw [← hFound] at hOwns
            exact hOwns
      have hPatchedKey : (found.patched input session.accountId context.now).key =
          providerSettingKey input.logbookId providerId := hKey
      cases hText : input.credentialId with
      | none =>
          apply endsOwned_insert
          apply hOwned.below
          intro key owner hOwns
          dsimp only at hOwns
          split at hOwns
          · next hSame =>
              rw [hSame, hPatchedKey]
              apply hHeld
              rw [← hOwns, HostedProviderSetting.reference_patched hText]
              intro old hOld
              apply hOwner input rfl hText session.accountId hAdministers
              rw [← hReferences]
              exact hHeld old hOld
          · exact hOwns
      | some text =>
          dsimp only
          split
          · apply Ensures.modify_bind
            apply endsOwned_insert
            refine ⟨fun key owner hOwns => ?_, hOwned.resolved.stored⟩
            rw [lastStored_stored]
            dsimp only at hOwns
            split at hOwns
            · next hSame =>
                have hText := (HostedProviderSetting.reference_patched_some hText hOwns).2
                rw [if_pos (hPatchedKey.symm.trans hSame.symm), hText]
            · next hOther =>
                rw [if_neg fun hSame => hOther (hSame.symm.trans hPatchedKey.symm)]
                exact hOwned.held key owner hOwns
          · next hBlank =>
              apply endsOwned_insert
              apply hOwned.below
              intro key owner hOwns
              dsimp only at hOwns
              split at hOwns
              · have hText := (HostedProviderSetting.reference_patched_some hText hOwns).1
                simp [hText] at hBlank
              · exact hOwns

section Uploads
variable [ChronoCrate] [ChronoFormat] [FloatText] [RustFmt]

/-- An upload of the account is run, as no job of the same contacts is there. -/
def RunsUpload (host : ProviderHost) (accountId : Uuid) (input : UploadRunRequest) : Prop :=
  ∃ projection, host.hosted.store.rebuildProjections input.logbookId = .ok projection ∧
    host.hosted.server.uploadJobs.values.find? (duplicatedBy accountId input
      (uploadIdempotencyKey input.providerId input.logbookId (input.selected projection))) = none

theorem endsOwned_runUpload (hOwned : ReferencesOwned host.seen) (uploadId claim : Uuid)
    (body : Except String UploadRunRequest)
    (hOwner : ∀ input, body = .ok input → ∀ accountId, RunsUpload host accountId input →
      OwnedBy context host.hosted.server input.logbookId
        (providerSettingKey input.logbookId input.providerId) accountId) :
    EndsOwned (runUpload calls context uploadId claim body) host := by
  cases body with
  | error message => exact hOwned
  | ok input =>
      have hChecks : ∀ session : LoginSession, Keeps ServerState.uploadView (do
          enforceProviderOperationLimit context session
          requireProvider calls input.providerId) := by
        intro session
        apply keeps_bind (keeps_enforceProviderOperationLimit (fun _ _ => rfl) _ _)
        intro _
        exact keeps_requireProvider _ _
      refine endsOwned_bind_ok rfl ?_
      apply endsOwned_open context hOwned hChecks
      intro opened session hSeen hJobs hStored hAdministers
      have hReferences : opened.hosted.server.references = host.hosted.server.references :=
        congrArg Prod.fst hSeen
      rw [← hSeen] at hOwned
      apply Ensures.get_bind
      match hProjection : opened.hosted.store.rebuildProjections input.logbookId with
      | .error (.error _) => exact hOwned
      | .error .panic => exact hOwned
      | .ok projection =>
          refine endsOwned_bind_ok rfl ?_
          apply Ensures.get_bind
          dsimp only
          split
          · exact hOwned
          · next hNew =>
              have hRuns : RunsUpload host session.accountId input := by
                rw [hStored] at hProjection
                rw [hJobs] at hNew
                exact ⟨projection, hProjection, hNew⟩
              refine (endsOwned_executeHostedUploadJob calls context hOwned _ _ _ _
                (fun _ => keeps_pure _) ?_).bind ?_
              · rw [hReferences]
                exact hOwner input rfl session.accountId hRuns hAdministers
              · intro done outcome hDone
                apply endsOwned_of_keeps _ hDone
                exact keeps_bind (keeps_onHost (keeps_keepUpload _ _ _)) fun _ => keeps_pure _

end Uploads

/-- A retry runs with the setting of the logbook that its job belongs to. -/
theorem endsOwned_retryUpload (hOwned : ReferencesOwned host.seen) (claim : Uuid)
    (uploadId : String) (body : Except String QsoActionRequest)
    (hOwner : ∀ input id job, body = .ok input → UuidCrate.parseStr uploadId = some id →
      host.hosted.server.uploadJobs.lookup id = some job → job.logbookId = input.logbookId →
        job.status ≠ .succeeded → OwnedBy context host.hosted.server input.logbookId
          (providerSettingKey job.logbookId job.providerId) job.accountId) :
    EndsOwned (HostedServer.retryUpload calls context claim uploadId body) host := by
  cases hId : UuidCrate.parseStr uploadId with
  | none =>
      unfold HostedServer.retryUpload HostedServer.parseUuid
      rw [hId]
      exact hOwned
  | some id =>
      have hParse : (onHost (HostedServer.parseUuid uploadId)).execute host = (host, .ok id) := by
        unfold HostedServer.parseUuid
        rw [hId]
        rfl
      refine endsOwned_bind_ok hParse ?_
      cases body with
      | error message => exact hOwned
      | ok input =>
          refine endsOwned_bind_ok rfl ?_
          apply endsOwned_open context hOwned fun session =>
            keeps_enforceProviderOperationLimit (fun _ _ => rfl) _ _
          intro opened session hSeen hJobs _ hAdministers
          have hReferences : opened.hosted.server.references = host.hosted.server.references :=
            congrArg Prod.fst hSeen
          rw [← hSeen] at hOwned
          apply Ensures.get_bind
          cases hJob : (opened.hosted.server.uploadJobs.lookup id).filter fun job =>
              job.accountId = session.accountId && job.logbookId = input.logbookId with
          | none => exact hOwned
          | some job =>
              obtain ⟨hLookup, hMine⟩ := Option.filter_eq_some_iff.mp hJob
              rw [hJobs] at hLookup
              obtain ⟨hAccount, hLogbook⟩ : job.accountId = session.accountId ∧
                  job.logbookId = input.logbookId := by simpa using hMine
              refine endsOwned_bind_ok rfl ?_
              dsimp only
              split
              · exact hOwned
              · next hOpen =>
                  refine (endsOwned_executeHostedUploadJob calls context hOwned _ _ _ _
                    keeps_insertUpload ?_).bind ?_
                  · intro owner hOwner'
                    rw [hReferences] at hOwner'
                    rw [← hAccount]
                    rw [← hAccount] at hAdministers
                    exact hOwner input id job rfl hId hLookup hLogbook hOpen hAdministers owner
                      hOwner'
                  · intro done outcome hDone
                    apply endsOwned_of_keeps _ hDone
                    exact keeps_bind (keeps_onHost (keeps_keepUpload _ _ _)) fun _ => keeps_pure _

theorem endsOwned_backupImport [CanonicalJson] [RustFmt] (hOwned : ReferencesOwned host.seen)
    (body : Except String BackupImportInput) :
    EndsOwned (onHosted (backupImport context body)) host := by
  cases body with
  | error message => exact hOwned
  | ok input =>
      apply @backupImport_view _ _ _ _ _ ServerState.references
        (fun references => ReferencesOwned (references, host.journal)) context input host.hosted
        hOwned
      intro auth _
      apply (below_restoreBackupSupportMetadata _ _ _ _ _).mono
      intro later _ hLater
      exact hOwned.below hLater

end Requests

/-! Runs. -/

/-- The setting that a request runs with, or that it changes without storing a
reference of its own, holds no reference of another account. -/
def ProviderRequest.LeavesOwner [Sha2Crate] (context : RequestContext) (host : ProviderHost) :
    ProviderRequest → Prop
  | patch providerId body => ∀ input, body = .ok input → input.credentialId = none →
      ∀ accountId, OwnedBy context host.hosted.server input.logbookId
        (providerSettingKey input.logbookId providerId) accountId
  | runUpload _ _ body => ∀ input, body = .ok input → ∀ accountId,
      RunsUpload host accountId input → OwnedBy context host.hosted.server input.logbookId
        (providerSettingKey input.logbookId input.providerId) accountId
  | retryUpload _ uploadId body => ∀ input id job, body = .ok input →
      UuidCrate.parseStr uploadId = some id →
        host.hosted.server.uploadJobs.lookup id = some job → job.logbookId = input.logbookId →
          job.status ≠ .succeeded → OwnedBy context host.hosted.server input.logbookId
            (providerSettingKey job.logbookId job.providerId) job.accountId
  | test .. | lookup .. | importBackup .. => True

/-- A step of the server: a request about providers, or something else that
leaves the references alone. -/
inductive ProviderLabel where
  | request (calls : ProviderCalls) (context : RequestContext) (request : ProviderRequest)
  | other

variable [Sha2Crate] [ChronoCrate] [ChronoFormat] [FloatText] [CanonicalJson] [RustFmt]

def providerSystem : System ProviderHost ProviderLabel where
  step host label later :=
    match label with
    | .request calls context request => later = request.after calls context host
    | .other => later.seen = host.seen

def ProviderLabel.LeavesOwner (host : ProviderHost) : ProviderLabel → Prop
  | .request _ context asked => asked.LeavesOwner context host
  | .other => True

theorem ReferencesOwned.after {host : ProviderHost} (h : ReferencesOwned host.seen)
    (calls : ProviderCalls) (context : RequestContext) (request : ProviderRequest)
    (hOwner : request.LeavesOwner context host) :
    ReferencesOwned (request.after calls context host).seen := by
  cases request with
  | patch providerId body => exact endsOwned_patchProvider calls context h providerId body hOwner
  | test providerId body => exact endsOwned_testProvider calls context h providerId body
  | lookup providerId body => exact endsOwned_lookupProvider calls context h providerId body
  | runUpload uploadId claim body =>
      exact endsOwned_runUpload calls context h uploadId claim body hOwner
  | retryUpload claim uploadId body =>
      exact endsOwned_retryUpload calls context h claim uploadId body hOwner
  | importBackup body => exact endsOwned_backupImport context h body

/-- Where no request changes or runs with a reference of another account, the
store is asked for references of the account that asks only. -/
theorem references_resolved_by_owner {start host : ProviderHost} {labels : List ProviderLabel}
    (hSettings : start.hosted.server.providerSettings = ∅) (hJournal : start.journal = [])
    (run : Run (providerSystem.restrict fun host label => label.LeavesOwner host)
      start labels host) :
    ResolvedByOwner host.journal := by
  have hStart : ReferencesOwned start.seen := by
    constructor
    · intro key owner hOwner
      have hLookup : (start.hosted.server.providerSettings.lookup key).bind
          HostedProviderSetting.reference = some owner := hOwner
      rw [hSettings] at hLookup
      cases hLookup
    · show ResolvedByOwner start.journal
      rw [hJournal]
      exact resolvedByOwner_nil
  refine (run.invariant (P := fun host => ReferencesOwned host.seen) ?_ hStart).resolved
  intro state label later hOwned hStep
  obtain ⟨hOwner, hLater⟩ := hStep
  cases label with
  | request calls context request =>
      rw [show later = request.after calls context state from hLater]
      exact hOwned.after calls context request hOwner
  | other =>
      rw [show later.seen = state.seen from hLater]
      exact hOwned

end Settings

section
open Crates

/-- The first administrator and another account that administers its logbook. -/
def twoMembers : ServerState :=
  { afterBootstrap with
    accounts := afterBootstrap.accounts.insertAll (afterBootstrap.accounts.values.map
      fun account => { account with accountId := 200, userId := 201 })
    sessionsByToken := afterBootstrap.sessionsByToken.insertAll
      (afterBootstrap.sessionsByToken.values.map fun session =>
        { session with
          tokenHash := sessionTokenHash "member", accountId := 200, userId := 201 })
    memberships := afterBootstrap.memberships ++ afterBootstrap.memberships.map
      fun membership => { membership with userId := 201 } }

def memberRequest : RequestContext :=
  { sampleRequest 400 with bearer := some "member" }

/-- A registry that knows every provider, a store with every secret, and
adapters that succeed. -/
def sampleProviders : ProviderCalls where
  providerMetadata _ := true
  retrieveSecret _ := some "secret"
  testCredential _ := some true
  testTierOneProvider _ := .ok sampleExecution
  executeTierOneLookup _ := .ok sampleExecution
  executeTierOneUpload _ := .ok sampleExecution
where
  sampleExecution : ProviderExecution :=
    { status := .succeeded, retryable := false, failureReason := none, redactedError := none,
      providerCorrelationId := none, recorded := [], cleared := [] }

/-- The administrator stores a reference to a credential of its own. -/
def storesReference : ProviderRequest :=
  .patch "eqsl" (.ok
    { logbookId := 102, enabled := some true, credentialId := some (UuidCrate.display 500) })

/-- An upload of the contacts of the logbook. -/
def uploadsContacts : ProviderRequest :=
  .runUpload 600 601 (.ok
    { logbookId := 102, providerId := "eqsl", qsoIds := none, forceFail := none })

def sharedHost : ProviderHost := { hosted := { server := twoMembers } }

def afterStoring : ProviderHost :=
  storesReference.after sampleProviders administratorRequest sharedHost

def afterUploading : ProviderHost :=
  uploadsContacts.after sampleProviders memberRequest afterStoring

/-- The administrator tests the provider with its own reference. -/
def testsProvider : ProviderRequest := .test "eqsl" (.ok ⟨102⟩)

theorem references_resolved_by_owner_tested :
    ResolvedByOwner
      (testsProvider.after sampleProviders administratorRequest afterStoring).journal := by
  have hStores : storesReference.LeavesOwner administratorRequest sharedHost := by
    intro input hInput hNone
    cases hInput
    cases hNone
  have hStored : Run (providerSystem.restrict fun host label => label.LeavesOwner host)
      sharedHost [.request sampleProviders administratorRequest storesReference] afterStoring :=
    Run.single ⟨hStores, rfl⟩
  have hTested : (providerSystem.restrict fun host label => label.LeavesOwner host).step
      afterStoring (.request sampleProviders administratorRequest testsProvider)
      (testsProvider.after sampleProviders administratorRequest afterStoring) :=
    ⟨trivial, rfl⟩
  exact references_resolved_by_owner rfl rfl (hStored.snoc hTested)

theorem journal_afterUploading : afterUploading.journal =
    [.resolved 200 (providerSettingKey 102 "eqsl") (UuidCrate.display 500),
      .stored 100 (providerSettingKey 102 "eqsl") (UuidCrate.display 500)] := by
  decide +kernel

/-- An upload of another member uses the reference of the administrator. -/
theorem upload_uses_reference_of_administrator :
    sharedHost.hosted.server.providerSettings = ∅ ∧ sharedHost.journal = [] ∧
      ∃ labels host, Run providerSystem sharedHost labels host ∧
        ¬ ResolvedByOwner host.journal := by
  have hStored : providerSystem.step sharedHost
      (.request sampleProviders administratorRequest storesReference) afterStoring := rfl
  have hUploaded : providerSystem.step afterStoring
      (.request sampleProviders memberRequest uploadsContacts) afterUploading := rfl
  have hRun := (Run.single hStored).snoc hUploaded
  refine ⟨rfl, rfl, _, _, hRun, fun hOwner => ?_⟩
  have hLast := hOwner [] _ _ _ _ journal_afterUploading
  rw [lastStored_stored, if_pos rfl] at hLast
  exact absurd (congrArg Prod.fst (Option.some.inj hLast)) (by decide)

end
end HamLogger
