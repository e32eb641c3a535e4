import HamLogger.Core.Crates
import HamLogger.Server.AccountHandlers
import HamLogger.Server.MetadataStore

/-! A save of the hosted server that is interrupted between two of its writes:
which state the next load returns, and whether it opens the bootstrap of the
first administrator again. -/
namespace HamLogger

open HostedTable (recordId)
open TableStore (DistinctRecords Record perform)
open SurrealHostedMetadataStore (load save saveWrites loadedSession loadedToken loadedInvite
  hashFor)

/-- The states have the same configuration and the same records. The index of
the accounts by mail address is a function of them. -/
def ServerState.SameRecords [UuidCrate] (first second : ServerState) : Prop :=
  ∀ table payload, payload ∈ first.records table ↔ payload ∈ second.records table

theorem HostedTable.mem_all (table : HostedTable) : table ∈ HostedTable.all := by
  cases table <;> decide

theorem mem_take_all_iff {table : HostedTable} (done : Nat) :
    table ∈ HostedTable.all.take done ↔ table ∉ HostedTable.all.drop done := by
  have hApart : HostedTable.all.Nodup := by decide
  rw [← List.take_append_drop done HostedTable.all, List.nodup_append] at hApart
  constructor
  · intro hTake hDrop
    exact hApart.2.2 table hTake table hDrop rfl
  · intro hDrop
    have hMem := table.mem_all
    rw [← List.take_append_drop done HostedTable.all, List.mem_append] at hMem
    exact hMem.resolve_right hDrop

section Records
variable [UuidCrate] {state : ServerState}

theorem mem_allRecords {table : HostedTable} {payload : table.Payload} :
    (⟨table, payload⟩ : Record HostedTable.Payload) ∈ state.allRecords ↔
      payload ∈ state.records table := by
  constructor
  · intro h
    obtain ⟨other, _, hMem⟩ := List.mem_flatMap.mp h
    obtain ⟨found, hFound, hSame⟩ := List.mem_map.mp hMem
    cases hSame
    exact hFound
  · intro h
    exact List.mem_flatMap.mpr ⟨table, table.mem_all, List.mem_map_of_mem h⟩

theorem nodup_recordIds (hDisplay : DisplaysIdentifiers) (h : state.DistinctRows)
    (table : HostedTable) : ((state.records table).map (recordId table)).Nodup := by
  have hShown := hDisplay.injective
  cases table with
  | hostingConfig => exact List.nodup_singleton _
  | serverAdmins => exact Catalog.nodup_identified state.serverAdminUserIds hShown
  | users => exact Catalog.nodup_identified state.accounts hShown
  | loginSessions =>
      rw [ServerState.records, List.map_map]
      exact Catalog.nodup_identified state.sessionsByToken Function.injective_id
  | devices => exact Catalog.nodup_identified state.devices hShown
  | logbooks => exact Catalog.nodup_identified state.logbooks hShown
  | logbookMemberships =>
      have hPairs : Function.Injective fun pair : Uuid × Uuid =>
          UuidCrate.display pair.1 ++ "-" ++ UuidCrate.display pair.2 := by
        intro first second hSame
        obtain ⟨hLogbook, hUser⟩ := hDisplay.append_inj hSame
        exact Prod.ext hLogbook (hShown hUser)
      have hRows := h.memberships.map hPairs
      rw [List.map_map] at hRows
      exact hRows
  | apiTokens =>
      rw [ServerState.records, List.map_map]
      exact Catalog.nodup_identified state.apiTokens hShown
  | serverInvites =>
      rw [ServerState.records, List.map_map]
      exact Catalog.nodup_identified state.invites hShown
  | emailVerifications => exact Catalog.nodup_identified state.emailVerifications hShown
  | recoveryTokens => exact Catalog.nodup_identified state.recoveryTokens hShown
  | rateLimits => exact Catalog.nodup_identified state.rateLimits Function.injective_id
  | turnstileReplayTokens =>
      exact Catalog.nodup_identified state.turnstileTokenHashes Function.injective_id
  | auditLog =>
      have hRows := h.audits.map hShown
      rw [List.map_map] at hRows
      exact hRows
  | stationProfiles => exact Catalog.nodup_identified state.stationProfiles hShown
  | equipmentProfiles => exact Catalog.nodup_identified state.equipmentProfiles hShown
  | providerSettings => exact Catalog.nodup_identified state.providerSettings Function.injective_id
  | uploadQueueHistory => exact Catalog.nodup_identified state.uploadJobs hShown
  | mapSettings => exact Catalog.nodup_identified state.mapSettings hShown
  | backupRecords => exact Catalog.nodup_identified state.backups hShown
  | divergenceReports => exact Catalog.nodup_identified state.divergenceReports hShown

/-- A state is saved as records with identifiers of their own. -/
theorem distinctRecords (hDisplay : DisplaysIdentifiers) (h : state.DistinctRows) :
    DistinctRecords recordId state.allRecords := by
  unfold DistinctRecords ServerState.allRecords
  rw [List.map_flatMap, List.nodup_flatMap]
  constructor
  · intro table _
    have hTable := (nodup_recordIds hDisplay h table).map (Prod.mk_right_injective table)
    rw [List.map_map] at hTable ⊢
    exact hTable
  · have hApart : HostedTable.all.Nodup := by decide
    refine hApart.imp fun {first second} hNe => ?_
    show List.Disjoint _ _
    intro key hFirst hSecond
    simp only [List.map_map, List.mem_map, Function.comp_apply] at hFirst hSecond
    obtain ⟨_, _, hKey⟩ := hFirst
    obtain ⟨_, _, hOther⟩ := hSecond
    exact hNe (congrArg Prod.fst (hKey.trans hOther.symm))

end Records

/-- A list without repetitions is all in one of its beginnings only where that
is all of it. -/
theorem length_le_of_mem_take {Row : Type} {rows : List Row} (h : rows.Nodup) {count : Nat}
    (hTake : ∀ row ∈ rows, row ∈ rows.take count) : rows.length ≤ count := by
  by_contra hShort
  have hLast := hTake rows[count] (List.getElem_mem (by omega))
  have hApart := h
  rw [← List.take_append_drop count rows, List.nodup_append] at hApart
  have hDrop : rows[count] ∈ rows.drop count := by
    rw [List.drop_eq_getElem_cons (by omega)]
    exact List.mem_cons_self
  exact hApart.2.2 _ hLast _ hDrop rfl

/-- A list of one row only begins with it. -/
theorem head?_of_mem_iff {Row : Type} {rows : List Row} {row : Row}
    (h : ∀ other, other ∈ rows ↔ other = row) : rows.head? = some row := by
  cases rows with
  | nil => exact absurd ((h row).mpr rfl) (by simp)
  | cons first rest => rw [List.head?_cons, (h first).mp (List.mem_cons_self)]

/-- A list that a function leaves alone is the list it is mapped to. -/
theorem map_eq_self {Value : Type} {change : Value → Value} {values : List Value}
    (h : ∀ value ∈ values, change value = value) : values.map change = values := by
  rw [List.map_congr_left h, List.map_id']

section Cleared
variable [Sha2Crate]

theorem hashFor_cleared (tokenHash : String) : hashFor tokenHash "" = tokenHash :=
  if_neg fun h => by simp at h

theorem loadedSession_cleared {session : LoginSession} (h : session.stored = session) :
    loadedSession session = session := by
  rw [← h]
  simp [loadedSession, LoginSession.stored, hashFor_cleared]

theorem loadedToken_cleared {token : ApiToken} (h : token.stored = token) :
    loadedToken token = token := by
  rw [← h]
  simp [loadedToken, ApiToken.stored, hashFor_cleared]

theorem loadedInvite_cleared {invite : ServerInvite} (h : invite.stored = invite) :
    loadedInvite invite = invite := by
  rw [← h]
  simp [loadedInvite, ServerInvite.stored, hashFor_cleared]

end Cleared

section Load
variable [UuidCrate] [Sha2Crate]

/-- No row of the database has a plaintext token. -/
structure ClearedTokens (database : HostedDatabase) : Prop where
  sessions : ∀ session ∈ (database .loginSessions).values, session.stored = session
  tokens : ∀ token ∈ (database .apiTokens).values, token.stored = token
  invites : ∀ invite ∈ (database .serverInvites).values, invite.stored = invite

variable {database : HostedDatabase} {fromEnv : HostingConfig}

/-- Every table but the one of the configuration is loaded as it is. -/
theorem mem_records_load (h : ClearedTokens database) {table : HostedTable}
    (hTable : table ≠ .hostingConfig) (payload : table.Payload) :
    payload ∈ (load fromEnv database).records table ↔ payload ∈ (database table).values := by
  cases table with
  | hostingConfig => exact absurd rfl hTable
  | serverAdmins => exact (database .serverAdmins).mem_insertAll UuidCrate.display fun _ => rfl
  | users => exact (database .users).mem_insertAll UuidCrate.display fun _ => rfl
  | loginSessions =>
      have hRows := map_eq_self fun row hRow => loadedSession_cleared (h.sessions row hRow)
      have hMem : ∀ row, row ∈ (load fromEnv database).sessionsByToken.values ↔
          row ∈ (database .loginSessions).values := fun row => by
        rw [load, hRows]
        exact (database .loginSessions).mem_insertAll id fun _ => rfl
      rw [ServerState.records, map_eq_self fun row hRow => h.sessions row ((hMem row).mp hRow)]
      exact hMem payload
  | devices => exact (database .devices).mem_insertAll UuidCrate.display fun _ => rfl
  | logbooks => exact (database .logbooks).mem_insertAll UuidCrate.display fun _ => rfl
  | logbookMemberships => exact Iff.rfl
  | apiTokens =>
      have hRows := map_eq_self fun row hRow => loadedToken_cleared (h.tokens row hRow)
      have hMem : ∀ row, row ∈ (load fromEnv database).apiTokens.values ↔
          row ∈ (database .apiTokens).values := fun row => by
        rw [load, hRows]
        exact (database .apiTokens).mem_insertAll UuidCrate.display fun _ => rfl
      rw [ServerState.records, map_eq_self fun row hRow => h.tokens row ((hMem row).mp hRow)]
      exact hMem payload
  | serverInvites =>
      have hRows := map_eq_self fun row hRow => loadedInvite_cleared (h.invites row hRow)
      have hMem : ∀ row, row ∈ (load fromEnv database).invites.values ↔
          row ∈ (database .serverInvites).values := fun row => by
        rw [load, hRows]
        exact (database .serverInvites).mem_insertAll UuidCrate.display fun _ => rfl
      rw [ServerState.records, map_eq_self fun row hRow => h.invites row ((hMem row).mp hRow)]
      exact hMem payload
  | emailVerifications =>
      exact (database .emailVerifications).mem_insertAll UuidCrate.display fun _ => rfl
  | recoveryTokens => exact (database .recoveryTokens).mem_insertAll UuidCrate.display fun _ => rfl
  | rateLimits => exact (database .rateLimits).mem_insertAll id fun _ => rfl
  | turnstileReplayTokens =>
      exact (database .turnstileReplayTokens).mem_insertAll id fun _ => rfl
  | auditLog => exact Iff.rfl
  | stationProfiles =>
      exact (database .stationProfiles).mem_insertAll UuidCrate.display fun _ => rfl
  | equipmentProfiles =>
      exact (database .equipmentProfiles).mem_insertAll UuidCrate.display fun _ => rfl
  | providerSettings => exact (database .providerSettings).mem_insertAll id fun _ => rfl
  | uploadQueueHistory =>
      exact (database .uploadQueueHistory).mem_insertAll UuidCrate.display fun _ => rfl
  | mapSettings => exact (database .mapSettings).mem_insertAll UuidCrate.display fun _ => rfl
  | backupRecords => exact (database .backupRecords).mem_insertAll UuidCrate.display fun _ => rfl
  | divergenceReports =>
      exact (database .divergenceReports).mem_insertAll UuidCrate.display fun _ => rfl

end Load

/-! Interrupting a save. -/

section Cut
variable [UuidCrate] {old new : ServerState} {done : Nat}

/-- The records in the tables after the first writes of a save: among the
deletions what is left of the old state, and then what is written of the new
one. -/
def recordsAfterCut (old new : ServerState) (done : Nat) : List (Record HostedTable.Payload) :=
  if done ≤ HostedTable.all.length then
    (HostedTable.all.drop done).flatMap fun table => (old.records table).map (Sigma.mk table)
  else new.allRecords.take (done - HostedTable.all.length)

theorem mem_recordsAfterCut_deleting (h : done ≤ HostedTable.all.length) {table : HostedTable}
    {payload : table.Payload} :
    (⟨table, payload⟩ : Record HostedTable.Payload) ∈ recordsAfterCut old new done ↔
      table ∈ HostedTable.all.drop done ∧ payload ∈ old.records table := by
  rw [recordsAfterCut, if_pos h]
  constructor
  · intro hMem
    obtain ⟨other, hOther, hFound⟩ := List.mem_flatMap.mp hMem
    obtain ⟨found, hRecord, hSame⟩ := List.mem_map.mp hFound
    cases hSame
    exact ⟨hOther, hRecord⟩
  · intro hMem
    exact List.mem_flatMap.mpr ⟨table, hMem.1, List.mem_map_of_mem hMem.2⟩

theorem mem_save (hDisplay : DisplaysIdentifiers) (h : old.DistinctRows)
    (before : HostedDatabase) (table : HostedTable) (payload : table.Payload) :
    payload ∈ (save old before table).values ↔ payload ∈ old.records table := by
  have hLong : HostedTable.all.length ≤ (saveWrites old).length := by
    rw [saveWrites, TableStore.replaceAll, List.length_append, List.length_map]
    omega
  have hAll := TableStore.mem_perform_take_creating HostedTable.mem_all
    (distinctRecords hDisplay h) hLong before table payload
  have hTake : (TableStore.replaceAll HostedTable.all old.allRecords).take (saveWrites old).length =
      saveWrites old := List.take_length
  have hLength : (saveWrites old).length - HostedTable.all.length = old.allRecords.length := by
    rw [saveWrites, TableStore.replaceAll, List.length_append, List.length_map, List.length_map]
    omega
  rw [hTake, hLength, List.take_length, mem_allRecords] at hAll
  exact hAll

/-- What the tables hold after an interrupted save. -/
theorem mem_interrupted (hDisplay : DisplaysIdentifiers) (hOld : old.DistinctRows)
    (hNew : new.DistinctRows) (before : HostedDatabase) (done : Nat) (table : HostedTable)
    (payload : table.Payload) :
    payload ∈ (perform ((saveWrites new).take done) (save old before) table).values ↔
      (⟨table, payload⟩ : Record HostedTable.Payload) ∈ recordsAfterCut old new done := by
  by_cases hDeleting : done ≤ HostedTable.all.length
  · rw [mem_recordsAfterCut_deleting hDeleting, saveWrites,
      TableStore.perform_take_deleting hDeleting]
    by_cases hLeft : table ∈ HostedTable.all.drop done
    · have hKept : table ∉ HostedTable.all.take done := fun hTake =>
        (mem_take_all_iff done).mp hTake hLeft
      rw [if_neg hKept, mem_save hDisplay hOld]
      exact (and_iff_right hLeft).symm
    · rw [if_pos ((mem_take_all_iff done).mpr hLeft)]
      constructor
      · intro hMem
        cases hMem
      · intro hMem
        exact absurd hMem.1 hLeft
  · rw [recordsAfterCut, if_neg hDeleting]
    exact TableStore.mem_perform_take_creating HostedTable.mem_all
      (distinctRecords hDisplay hNew) (Nat.le_of_not_le hDeleting) (save old before) table payload

theorem mem_recordsAfterCut {record : Record HostedTable.Payload}
    (h : record ∈ recordsAfterCut old new done) :
    record ∈ old.allRecords ∨ record ∈ new.allRecords := by
  unfold recordsAfterCut at h
  split at h
  · obtain ⟨table, hTable, hMem⟩ := List.mem_flatMap.mp h
    exact Or.inl (List.mem_flatMap.mpr ⟨table, table.mem_all, hMem⟩)
  · exact Or.inr (List.mem_of_mem_take h)

theorem stored_of_mem_records (state : ServerState) :
    (∀ session ∈ state.records .loginSessions, LoginSession.stored session = session) ∧
      (∀ token ∈ state.records .apiTokens, ApiToken.stored token = token) ∧
      (∀ invite ∈ state.records .serverInvites, ServerInvite.stored invite = invite) := by
  refine ⟨?_, ?_, ?_⟩
  · intro session h
    obtain ⟨kept, _, hStored⟩ := List.mem_map.mp h
    rw [← hStored]
    rfl
  · intro token h
    obtain ⟨kept, _, hStored⟩ := List.mem_map.mp h
    rw [← hStored]
    rfl
  · intro invite h
    obtain ⟨kept, _, hStored⟩ := List.mem_map.mp h
    rw [← hStored]
    rfl

theorem clearedTokens_interrupted (hDisplay : DisplaysIdentifiers) (hOld : old.DistinctRows)
    (hNew : new.DistinctRows) (before : HostedDatabase) (done : Nat) :
    ClearedTokens (perform ((saveWrites new).take done) (save old before)) := by
  have hRows : ∀ table payload,
      payload ∈ (perform ((saveWrites new).take done) (save old before) table).values →
        payload ∈ old.records table ∨ payload ∈ new.records table := by
    intro table payload h
    have hMem := mem_recordsAfterCut ((mem_interrupted hDisplay hOld hNew before _ _ _).mp h)
    rw [mem_allRecords, mem_allRecords] at hMem
    exact hMem
  obtain ⟨hOldSessions, hOldTokens, hOldInvites⟩ := stored_of_mem_records old
  obtain ⟨hNewSessions, hNewTokens, hNewInvites⟩ := stored_of_mem_records new
  constructor
  · intro session h
    exact (hRows _ _ h).elim (hOldSessions session) (hNewSessions session)
  · intro token h
    exact (hRows _ _ h).elim (hOldTokens token) (hNewTokens token)
  · intro invite h
    exact (hRows _ _ h).elim (hOldInvites invite) (hNewInvites invite)

/-- The records a load finds after an interrupted save. While there is no
configuration in the tables, the one of the environment stands in. -/
def recordsLoaded (fromEnv : HostingConfig) (old new : ServerState) (done : Nat) :
    List (Record HostedTable.Payload) :=
  if 0 < done ∧ done ≤ HostedTable.all.length then
    ⟨.hostingConfig, fromEnv⟩ :: recordsAfterCut old new done
  else recordsAfterCut old new done

variable {fromEnv : HostingConfig}

theorem config_not_left (old new : ServerState) (h : 0 < done)
    (hDone : done ≤ HostedTable.all.length)
    (config : HostingConfig) :
    (⟨.hostingConfig, config⟩ : Record HostedTable.Payload) ∉ recordsAfterCut old new done := by
  intro hMem
  have hDrop := ((mem_recordsAfterCut_deleting hDone).mp hMem).1
  have hTail := (List.drop_sublist_drop_left HostedTable.all h).subset hDrop
  exact absurd hTail (by decide)

theorem config_left_iff (old new : ServerState) (h : 0 < done → HostedTable.all.length < done) :
    ∃ config, (config = old.hostingConfig ∨ config = new.hostingConfig) ∧
      ∀ other, (⟨.hostingConfig, other⟩ : Record HostedTable.Payload) ∈
        recordsAfterCut old new done ↔ other = config := by
  by_cases hDone : 0 < done
  · refine ⟨new.hostingConfig, Or.inr rfl, fun other => ?_⟩
    have hLong := h hDone
    rw [recordsAfterCut, if_neg (by omega)]
    obtain ⟨count, hCount⟩ : ∃ count, done - HostedTable.all.length = count + 1 :=
      ⟨done - HostedTable.all.length - 1, by omega⟩
    rw [hCount]
    constructor
    · intro hMem
      have hRecord := mem_allRecords.mp (List.mem_of_mem_take hMem)
      exact List.mem_singleton.mp hRecord
    · intro hSame
      rw [hSame]
      exact List.mem_cons_self
  · refine ⟨old.hostingConfig, Or.inl rfl, fun other => ?_⟩
    obtain rfl : done = 0 := by omega
    rw [recordsAfterCut, if_pos (Nat.zero_le _)]
    exact mem_allRecords.trans List.mem_singleton

variable [Sha2Crate]

/-- What the next load returns. -/
theorem mem_records_interrupted (hDisplay : DisplaysIdentifiers) (hOld : old.DistinctRows)
    (hNew : new.DistinctRows) (before : HostedDatabase) (fromEnv : HostingConfig) (done : Nat)
    (table : HostedTable)
    (payload : table.Payload) :
    payload ∈ (load fromEnv
        (perform ((saveWrites new).take done) (save old before))).records table ↔
      (⟨table, payload⟩ : Record HostedTable.Payload) ∈ recordsLoaded fromEnv old new done := by
  have hRows := mem_interrupted hDisplay hOld hNew before done
  by_cases hTable : table = .hostingConfig
  · subst hTable
    have hConfig : payload ∈ (load fromEnv
        (perform ((saveWrites new).take done) (save old before))).records .hostingConfig ↔
        payload = ((perform ((saveWrites new).take done) (save old before)
          .hostingConfig).values.head?).getD fromEnv := List.mem_singleton
    rw [hConfig]
    by_cases hGone : 0 < done ∧ done ≤ HostedTable.all.length
    · have hNone : (perform ((saveWrites new).take done) (save old before)
          .hostingConfig).values = [] := by
        apply List.eq_nil_iff_forall_not_mem.mpr
        intro config hMem
        exact config_not_left old new hGone.1 hGone.2 config ((hRows .hostingConfig config).mp hMem)
      rw [hNone, recordsLoaded, if_pos hGone, List.mem_cons]
      constructor
      · intro hSame
        rw [hSame]
        exact Or.inl rfl
      · intro hMem
        rcases hMem with hSame | hLeft
        · cases hSame
          rfl
        · exact absurd hLeft (config_not_left old new hGone.1 hGone.2 payload)
    · obtain ⟨config, _, hOnly⟩ := config_left_iff old new
        (show 0 < done → HostedTable.all.length < done by omega)
      have hHead := head?_of_mem_iff fun other => (hRows .hostingConfig other).trans (hOnly other)
      rw [hHead, recordsLoaded, if_neg hGone, hOnly, Option.getD_some]
  · rw [mem_records_load (clearedTokens_interrupted hDisplay hOld hNew before done) hTable, hRows,
      recordsLoaded]
    split
    · rw [List.mem_cons]
      constructor
      · exact Or.inr
      · intro hMem
        rcases hMem with hSame | hLeft
        · cases hSame
          exact absurd rfl hTable
        · exact hLeft
    · exact Iff.rfl

end Cut

/-! The bootstrap of the first administrator. -/

/-- The bootstrap is still open: there is no administrator and no account. -/
structure ServerState.BootstrapOpen [UuidCrate] (state : ServerState) : Prop where
  config : state.hostingConfig.bootstrapAdminCompleted = false
  admins : state.serverAdminUserIds.values = []
  accounts : state.accounts.values = []

theorem bootstrapOpen_iff [UuidCrate] {state : ServerState} :
    state.BootstrapOpen ↔
    ¬ (state.hostingConfig.bootstrapAdminCompleted = true ∨
      ¬ state.serverAdminUserIds.isEmpty = true ∨ ¬ state.accounts.isEmpty = true) := by
  rw [not_or, not_or, not_not, not_not, Catalog.isEmpty_iff, Catalog.isEmpty_iff,
    Bool.not_eq_true]
  exact ⟨fun h => ⟨h.config, h.admins, h.accounts⟩, fun h => ⟨h.1, h.2.1, h.2.2⟩⟩

section Bootstrap
variable [UuidCrate] [Sha2Crate] {state later : ServerState} {context : RequestContext}
  {input : BootstrapAdminRequest} {response : LoginResponse}

/-- The bootstrap was done, and there are accounts since. -/
structure ServerState.Bootstrapped (state : ServerState) : Prop where
  config : state.hostingConfig.bootstrapAdminCompleted = true
  accounts : state.accounts.values ≠ []

/-- The server can serve a bootstrap: the address is one, its lifetimes give
instants, and the state is saved. -/
structure Bootstrappable (config : HostingConfig) (context : RequestContext)
    (input : BootstrapAdminRequest) : Prop where
  email : (normalizedEmail input.email).isSome
  session : (context.now.addSeconds config.sessionTtlSeconds).isSome
  refresh : (context.now.addSeconds config.refreshTtlSeconds).isSome
  saved : context.saveFails = none

theorem createFirstAdmin_ok {email : String}
    (h : (HostedServer.createFirstAdmin context email input).execute state =
      (later, .ok response)) :
    (context.now.addSeconds state.hostingConfig.sessionTtlSeconds).isSome ∧
      (context.now.addSeconds state.hostingConfig.refreshTtlSeconds).isSome ∧
      context.saveFails = none ∧ later.Bootstrapped := by
  simp only [HostedServer.createFirstAdmin, HostedServer.modifyConfig, Program.execute_bind_ok,
    createAccountWithLogbook_ok, modify_ok, pure_ok, issueSessionResponse_ok, sessionDevice_new_ok,
    pushAudit_ok, persistMetadata, savingWith_ok] at h
  obtain ⟨_, ⟨account, logbook⟩, ⟨_, _, _, rfl⟩, _, _, rfl, _, _, rfl, _, _,
    ⟨_, device, _, _, ⟨_, rfl⟩, hSession, hRefresh, rfl, _⟩, _, _, rfl, _, _, ⟨rfl, hSave⟩,
    rfl, _⟩ := h
  refine ⟨Option.isSome_iff_exists.mpr ⟨_, hSession⟩, Option.isSome_iff_exists.mpr ⟨_, hRefresh⟩,
    hSave, rfl, ?_⟩
  exact List.ne_nil_of_mem (Catalog.mem_values_insert.mpr (Or.inl rfl))

theorem createFirstAdmin_served {email : String} (hIndex : state.usersByEmail.lookup email = none)
    (hServed : Bootstrappable state.hostingConfig context input) :
    ∃ later response, (HostedServer.createFirstAdmin context email input).execute state =
      (later, .ok response) := by
  obtain ⟨expiresAt, hSession⟩ := Option.isSome_iff_exists.mp hServed.session
  obtain ⟨refreshExpiresAt, hRefresh⟩ := Option.isSome_iff_exists.mp hServed.refresh
  simp only [HostedServer.createFirstAdmin, HostedServer.modifyConfig, Program.execute_bind_ok,
    createAccountWithLogbook_ok, modify_ok, pure_ok, issueSessionResponse_ok, sessionDevice_new_ok,
    pushAudit_ok, persistMetadata, savingWith_ok]
  let account := newAccount context email input.displayName (some context.now)
  exact ⟨_, _, _, (account, defaultLogbook context account), ⟨hIndex, rfl, rfl, rfl⟩, _, ⟨⟩, rfl,
    _, ⟨⟩, rfl, _, _,
    ⟨_, _, expiresAt, refreshExpiresAt, ⟨rfl, rfl⟩, hSession, hRefresh, rfl, rfl⟩, _, ⟨⟩, rfl,
    _, ⟨⟩, ⟨rfl, hServed.saved⟩, rfl, rfl⟩

/-- A bootstrap succeeds where it is open and can be served, and closes it. -/
theorem bootstrapAdmin_ok
    (h : (HostedServer.bootstrapAdmin context (.ok input)).execute state =
      (later, .ok response)) :
    state.BootstrapOpen ∧ Bootstrappable state.hostingConfig context input ∧
      later.Bootstrapped := by
  simp only [HostedServer.bootstrapAdmin, parseJson, normalizeEmail, Program.execute_bind_ok,
    pure_ok, orReject_ok, get_ok, Program.execute_ite] at h
  obtain ⟨_, _, ⟨rfl, rfl⟩, _, email, ⟨rfl, hEmail⟩, _, _, ⟨rfl, rfl⟩, h⟩ := h
  split at h
  · obtain ⟨_, _, _, h⟩ := Program.execute_bind_ok.mp h
    obtain ⟨_, _, _, h⟩ := Program.execute_bind_ok.mp h
    exact ((reject_ok _).mp h).elim
  · next hOpen =>
      obtain ⟨hSession, hRefresh, hSave, hLater⟩ := createFirstAdmin_ok h
      have hAddress := Option.isSome_iff_exists.mpr ⟨email, hEmail⟩
      exact ⟨bootstrapOpen_iff.mpr hOpen, ⟨hAddress, hSession, hRefresh, hSave⟩, hLater⟩

/-- A bootstrap that is open is served. -/
theorem bootstrapAdmin_served (hOpen : state.BootstrapOpen)
    (hServed : Bootstrappable state.hostingConfig context input)
    (hIndex : ∀ email, state.usersByEmail.lookup email = none) :
    ∃ later response, (HostedServer.bootstrapAdmin context (.ok input)).execute state =
      (later, .ok response) := by
  obtain ⟨email, hEmail⟩ := Option.isSome_iff_exists.mp hServed.email
  obtain ⟨later, response, hCreated⟩ := createFirstAdmin_served (hIndex email) hServed
  refine ⟨later, response, ?_⟩
  simp only [HostedServer.bootstrapAdmin, parseJson, normalizeEmail, Program.execute_bind_ok,
    pure_ok, orReject_ok, get_ok, Program.execute_ite]
  refine ⟨_, _, ⟨rfl, rfl⟩, _, email, ⟨rfl, hEmail⟩, _, _, ⟨rfl, rfl⟩, ?_⟩
  rw [if_neg (bootstrapOpen_iff.mp hOpen)]
  exact hCreated

end Bootstrap

/-! What an interrupted save leads to. -/

section Interruption
variable [UuidCrate] {old new : ServerState} {fromEnv : HostingConfig} {done : Nat}

/-- The interruption leaves a whole state: nothing is deleted yet, or only what
the old state does not have, or all of the new state is written. The rest are
states that happen to be what the tables then hold. -/
inductive LeavesWholeState (fromEnv : HostingConfig) (old new : ServerState) (done : Nat) : Prop
  | untouched (h : done = 0)
  | emptyDeleted (hDeleting : 0 < done ∧ done ≤ HostedTable.all.length)
      (hConfig : old.hostingConfig = fromEnv)
      (hEmpty : ∀ table ∈ HostedTable.all.take done, table ≠ .hostingConfig →
        old.records table = [])
  | newIsLeft (hDeleting : 0 < done ∧ done ≤ HostedTable.all.length)
      (hConfig : new.hostingConfig = fromEnv)
      (hLeft : ∀ table, table ≠ .hostingConfig → ∀ payload, payload ∈ new.records table ↔
        table ∈ HostedTable.all.drop done ∧ payload ∈ old.records table)
  | allWritten (hCreating : HostedTable.all.length < done)
      (hWritten : HostedTable.all.length + new.allRecords.length ≤ done)
  | oldIsWritten (hCreating : HostedTable.all.length < done)
      (hWritten : ∀ record, record ∈ old.allRecords ↔
        record ∈ new.allRecords.take (done - HostedTable.all.length))

/-- Among the deletions, a load returns a state where that has the
configuration of the environment and just the records that are left. -/
theorem loaded_deleting_iff (hDeleting : 0 < done ∧ done ≤ HostedTable.all.length)
    (state : ServerState) :
    (∀ record, record ∈ recordsLoaded fromEnv old new done ↔ record ∈ state.allRecords) ↔
      state.hostingConfig = fromEnv ∧ ∀ table, table ≠ .hostingConfig →
        ∀ payload, payload ∈ state.records table ↔
          table ∈ HostedTable.all.drop done ∧ payload ∈ old.records table := by
  rw [recordsLoaded, if_pos hDeleting]
  constructor
  · intro h
    constructor
    · have hConfig := (h ⟨.hostingConfig, fromEnv⟩).mp List.mem_cons_self
      exact (List.mem_singleton.mp (mem_allRecords.mp hConfig)).symm
    · intro table hTable payload
      rw [← mem_allRecords, ← h, List.mem_cons, ← mem_recordsAfterCut_deleting hDeleting.2]
      constructor
      · intro hMem
        rcases hMem with hSame | hLeft
        · cases hSame
          exact absurd rfl hTable
        · exact hLeft
      · exact Or.inr
  · intro h record
    obtain ⟨table, payload⟩ := record
    rw [List.mem_cons, mem_allRecords]
    by_cases hTable : table = .hostingConfig
    · subst hTable
      have hNone := config_not_left old new hDeleting.1 hDeleting.2 payload
      have hOnly : payload ∈ state.records .hostingConfig ↔ payload = state.hostingConfig :=
        List.mem_singleton
      rw [hOnly, h.1]
      constructor
      · intro hMem
        cases hMem.resolve_right hNone
        rfl
      · intro hSame
        rw [hSame]
        exact Or.inl rfl
    · rw [h.2 table hTable, mem_recordsAfterCut_deleting hDeleting.2]
      constructor
      · intro hMem
        rcases hMem with hSame | hLeft
        · cases hSame
          exact absurd rfl hTable
        · exact hLeft
      · exact Or.inr

/-- The interruptions after which a load returns one of the two states. -/
theorem loadsWhole_iff (hNew : new.allRecords.Nodup) :
    ((∀ record, record ∈ recordsLoaded fromEnv old new done ↔ record ∈ old.allRecords) ∨
      (∀ record, record ∈ recordsLoaded fromEnv old new done ↔ record ∈ new.allRecords)) ↔
      LeavesWholeState fromEnv old new done := by
  by_cases hDeleting : 0 < done ∧ done ≤ HostedTable.all.length
  · rw [loaded_deleting_iff hDeleting, loaded_deleting_iff hDeleting]
    constructor
    · intro h
      rcases h with hOld | hLeft
      · refine .emptyDeleted hDeleting hOld.1 fun table hTake hTable => ?_
        apply List.eq_nil_iff_forall_not_mem.mpr
        intro payload hMem
        exact (mem_take_all_iff done).mp hTake ((hOld.2 table hTable payload).mp hMem).1
      · exact .newIsLeft hDeleting hLeft.1 hLeft.2
    · intro h
      cases h with
      | untouched h => omega
      | emptyDeleted _ hConfig hEmpty =>
          refine Or.inl ⟨hConfig, fun table hTable payload => ?_⟩
          constructor
          · intro hMem
            refine ⟨?_, hMem⟩
            by_contra hGone
            rw [hEmpty table ((mem_take_all_iff done).mpr hGone) hTable] at hMem
            cases hMem
          · exact And.right
      | newIsLeft _ hConfig hLeft => exact Or.inr ⟨hConfig, hLeft⟩
      | allWritten hCreating _ => omega
      | oldIsWritten hCreating _ => omega
  · rw [recordsLoaded, if_neg hDeleting]
    by_cases hStart : done = 0
    · subst hStart
      constructor
      · intro _
        exact .untouched rfl
      · intro _
        exact Or.inl fun record => Iff.rfl
    · have hCreating : HostedTable.all.length < done := by omega
      rw [recordsAfterCut, if_neg (by omega)]
      constructor
      · intro h
        rcases h with hOld | hWritten
        · exact .oldIsWritten hCreating fun record => (hOld record).symm
        · refine .allWritten hCreating ?_
          have hLength := length_le_of_mem_take hNew fun record hMem => (hWritten record).mpr hMem
          omega
      · intro h
        cases h with
        | untouched h => exact absurd h hStart
        | emptyDeleted h _ _ => exact absurd h hDeleting
        | newIsLeft h _ _ => exact absurd h hDeleting
        | allWritten _ hWritten =>
            refine Or.inr fun record => ?_
            rw [List.take_of_length_le (by omega)]
        | oldIsWritten _ hWritten => exact Or.inl fun record => (hWritten record).symm

/-- After an interruption the bootstrap is open just where the configuration,
the administrators and the accounts are deleted and none of them is written. -/
theorem bootstrapOpen_loaded_iff {loaded : ServerState}
    (hLoaded : ∀ table payload, payload ∈ loaded.records table ↔
      (⟨table, payload⟩ : Record HostedTable.Payload) ∈ recordsLoaded fromEnv old new done)
    (hEnv : fromEnv.bootstrapAdminCompleted = false) (hOld : old.Bootstrapped)
    (hNew : new.Bootstrapped) :
    loaded.BootstrapOpen ↔ 3 ≤ done ∧ done ≤ HostedTable.all.length := by
  have hConfig : ∀ config, (⟨.hostingConfig, config⟩ : Record HostedTable.Payload) ∈
      recordsLoaded fromEnv old new done → config = loaded.hostingConfig := by
    intro config hMem
    exact List.mem_singleton.mp ((hLoaded .hostingConfig config).mpr hMem)
  by_cases hDeleting : 0 < done ∧ done ≤ HostedTable.all.length
  · have hLeft : ∀ table, table ≠ .hostingConfig → ∀ payload,
        payload ∈ loaded.records table ↔
          table ∈ HostedTable.all.drop done ∧ payload ∈ old.records table := by
      intro table hTable payload
      rw [hLoaded, recordsLoaded, if_pos hDeleting, List.mem_cons,
        mem_recordsAfterCut_deleting hDeleting.2]
      constructor
      · intro hMem
        rcases hMem with hSame | hLeft
        · cases hSame
          exact absurd rfl hTable
        · exact hLeft
      · exact Or.inr
    constructor
    · intro hOpen
      refine ⟨?_, hDeleting.2⟩
      by_contra hEarly
      -- the accounts are not deleted yet
      obtain ⟨account, hAccount⟩ := List.exists_mem_of_ne_nil _ hOld.accounts
      have hUsers : HostedTable.users ∈ HostedTable.all.drop done :=
        List.drop_subset_drop_left HostedTable.all (show done ≤ 2 by omega) (by decide)
      have hMem := (hLeft .users (by decide) account).mpr ⟨hUsers, hAccount⟩
      rw [show loaded.records .users = [] from hOpen.accounts] at hMem
      cases hMem
    · intro hCut
      have hEmpty : ∀ table, table ≠ .hostingConfig → table ∉ HostedTable.all.drop 3 →
          loaded.records table = [] := by
        intro table hTable hGone
        apply List.eq_nil_iff_forall_not_mem.mpr
        intro payload hMem
        have hDrop := ((hLeft table hTable payload).mp hMem).1
        exact hGone (List.drop_subset_drop_left HostedTable.all hCut.1 hDrop)
      refine ⟨?_, hEmpty .serverAdmins (by decide) (by decide),
        hEmpty .users (by decide) (by decide)⟩
      have hStart : (⟨.hostingConfig, fromEnv⟩ : Record HostedTable.Payload) ∈
          recordsLoaded fromEnv old new done := by
        rw [recordsLoaded, if_pos hDeleting]
        exact List.mem_cons_self
      rw [← hConfig fromEnv hStart]
      exact hEnv
  · obtain ⟨config, hWhich, hOnly⟩ := config_left_iff old new
      (show 0 < done → HostedTable.all.length < done by omega)
    have hMem := (hOnly config).mpr rfl
    have hSame := hConfig config (by rw [recordsLoaded, if_neg hDeleting]; exact hMem)
    have hCompleted : loaded.hostingConfig.bootstrapAdminCompleted = true := by
      rw [← hSame]
      rcases hWhich with hOldConfig | hNewConfig
      · rw [hOldConfig]
        exact hOld.config
      · rw [hNewConfig]
        exact hNew.config
    constructor
    · intro hOpen
      rw [hOpen.config] at hCompleted
      cases hCompleted
    · intro hCut
      omega

variable [Sha2Crate]

/-- A load after an interrupted save returns the old state or the new one just
where the interruption leaves a whole state. After a bootstrap, a second one
succeeds just where the interruption comes after the accounts are deleted and
before the configuration is written. -/
theorem save_interrupted (hDisplay : DisplaysIdentifiers) (hOld : old.DistinctRows)
    (hNew : new.DistinctRows) (before : HostedDatabase) (var : String → Option String)
    (restart : DateTime) :
    let config := HostingConfig.fromEnv var restart
    let loaded := load config (perform ((saveWrites new).take done) (save old before))
    (loaded.SameRecords old ∨ loaded.SameRecords new ↔ LeavesWholeState config old new done) ∧
      (old.Bootstrapped → new.Bootstrapped → ∀ context input,
        (∃ later response, (HostedServer.bootstrapAdmin context (.ok input)).execute loaded =
          (later, .ok response)) ↔
        3 ≤ done ∧ done ≤ HostedTable.all.length ∧ Bootstrappable config context input) := by
  intro config loaded
  have hLoaded := mem_records_interrupted hDisplay hOld hNew before config done
  constructor
  · have hSame : ∀ state : ServerState, loaded.SameRecords state ↔
        ∀ record, record ∈ recordsLoaded config old new done ↔ record ∈ state.allRecords := by
      intro state
      constructor
      · intro h record
        obtain ⟨table, payload⟩ := record
        rw [← hLoaded table payload, mem_allRecords]
        exact h table payload
      · intro h table payload
        rw [hLoaded table payload, h, mem_allRecords]
    rw [hSame, hSame]
    exact loadsWhole_iff ((distinctRecords hDisplay hNew).of_map _)
  · intro hOldBooted hNewBooted context input
    have hOpen := bootstrapOpen_loaded_iff hLoaded rfl hOldBooted hNewBooted
    have hConfig : loaded.BootstrapOpen → loaded.hostingConfig = config := by
      intro h
      have hCut := hOpen.mp h
      have hStart : (⟨.hostingConfig, config⟩ : Record HostedTable.Payload) ∈
          recordsLoaded config old new done := by
        rw [recordsLoaded, if_pos ⟨by omega, hCut.2⟩]
        exact List.mem_cons_self
      exact (List.mem_singleton.mp ((hLoaded .hostingConfig config).mpr hStart)).symm
    constructor
    · intro h
      obtain ⟨later, response, hServed⟩ := h
      obtain ⟨hStill, hCan, _⟩ := bootstrapAdmin_ok hServed
      rw [hConfig hStill] at hCan
      have hCut := hOpen.mp hStill
      exact ⟨hCut.1, hCut.2, hCan⟩
    · intro h
      have hStill := hOpen.mpr ⟨h.1, h.2.1⟩
      refine bootstrapAdmin_served hStill ?_ ?_
      · rw [hConfig hStill]
        exact h.2.2
      · intro email
        have hCleared := clearedTokens_interrupted hDisplay hOld hNew before done
        have hRows :
            (perform ((saveWrites new).take done) (save old before) .users).values = [] := by
          apply List.eq_nil_iff_forall_not_mem.mpr
          intro account hMem
          have hTable : HostedTable.users ≠ .hostingConfig := by decide
          have hAccount : account ∈ loaded.records .users :=
            (mem_records_load hCleared hTable account).mpr hMem
          rw [show loaded.records .users = [] from hStill.accounts] at hAccount
          cases hAccount
        have hIndex : loaded.usersByEmail = ∅ := by
          show List.foldl _ ∅ (perform _ _ HostedTable.users).values = ∅
          rw [hRows]
          rfl
        rw [hIndex]
        rfl

end Interruption

section
open Crates

/-- The administrator has logged in as well. -/
def afterLogin : ServerState :=
  ((HostedServer.login (sampleRequest 200)
    (.ok { email := "admin@example.test", displayName := none, deviceName := none })).execute
    afterBootstrap).1

theorem afterBootstrap_rows : afterBootstrap.DistinctRows ∧ afterBootstrap.Bootstrapped :=
  ⟨⟨by decide +kernel, by decide +kernel⟩, by decide +kernel, by decide +kernel⟩

theorem afterLogin_rows : afterLogin.DistinctRows ∧ afterLogin.Bootstrapped :=
  ⟨⟨by decide +kernel, by decide +kernel⟩, by decide +kernel, by decide +kernel⟩

/-- Cut off once the accounts are deleted, the save of a login lets another
administrator in. -/
theorem save_interrupted_login :
    3 ≤ 5 ∧ 5 ≤ HostedTable.all.length ∧
      ∃ later response, (HostedServer.bootstrapAdmin (sampleRequest 300)
        (.ok (sampleBootstrap "other@example.test"))).execute
          (load (HostingConfig.fromEnv (fun _ => none) epoch)
            (perform ((saveWrites afterLogin).take 5)
              (save afterBootstrap TableStore.emptyDatabase))) = (later, .ok response) := by
  have hCut : 3 ≤ 5 ∧ 5 ≤ HostedTable.all.length := by decide
  refine ⟨hCut.1, hCut.2, ?_⟩
  refine ((save_interrupted displaysIdentifiers afterBootstrap_rows.1 afterLogin_rows.1
    TableStore.emptyDatabase (fun _ => none) epoch).2 afterBootstrap_rows.2 afterLogin_rows.2
    (sampleRequest 300) (sampleBootstrap "other@example.test")).mpr ⟨hCut.1, hCut.2, ?_⟩
  exact ⟨by decide +kernel, by decide +kernel, by decide +kernel, rfl⟩

/-- What a restart finds after that. -/
def afterInterruption : ServerState :=
  load (HostingConfig.fromEnv (fun _ => none) epoch)
    (perform ((saveWrites afterLogin).take 5) (save afterBootstrap TableStore.emptyDatabase))

theorem interrupted_save_reopens_bootstrap :
    ¬ afterInterruption.SameRecords afterBootstrap ∧ ¬ afterInterruption.SameRecords afterLogin ∧
      ∃ later response, (HostedServer.bootstrapAdmin (sampleRequest 300)
        (.ok (sampleBootstrap "other@example.test"))).execute afterInterruption =
          (later, .ok response) := by
  have hNone : afterInterruption.accounts.values = [] := by decide +kernel
  have hLost : ∀ state : ServerState, state.accounts.values ≠ [] →
      ¬ afterInterruption.SameRecords state := by
    intro state hAccounts hSame
    obtain ⟨account, hMem⟩ := List.exists_mem_of_ne_nil _ hAccounts
    have hFound := (hSame .users account).mpr hMem
    rw [show afterInterruption.records .users = [] from hNone] at hFound
    cases hFound
  refine ⟨hLost _ (by decide +kernel), hLost _ (by decide +kernel), ?_⟩
  apply bootstrapAdmin_served
  · exact ⟨by decide +kernel, by decide +kernel, hNone⟩
  · exact ⟨by decide +kernel, by decide +kernel, by decide +kernel, rfl⟩
  · intro email
    have hEntries : afterInterruption.usersByEmail.entries = [] := by decide +kernel
    rw [AList.ext (t := ∅) hEntries]
    rfl

end

end HamLogger
