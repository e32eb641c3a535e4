import HamLogger.Core.EventLines
import HamLogger.Sync.CloudRuns
import HamLogger.Sync.CloudService

/-! The durable cloud sync server and the server in memory, fed with the same
requests. They answer alike as long as no device is paired again after it was
revoked, no pairing asks twice for a logbook, and logbooks are listed by
sessions that have all the logbooks of their account. -/
namespace HamLogger

open Transition (Run System)

/-- The record identifier of an access row. -/
def accessKey [UuidCrate] (accountId : String) (logbookId : Uuid) : String :=
  accountId ++ "-" ++ UuidCrate.display logbookId

theorem accessKey_inj [UuidCrate] (hDisplay : DisplaysIdentifiers) {first second : String}
    {left right : Uuid} (h : accessKey first left = accessKey second right) :
    first = second ∧ left = right := by
  have hText := congrArg String.toList h
  simp only [accessKey, String.toList_append] at hText
  obtain ⟨hStart, hEnd⟩ := List.append_inj' hText (hDisplay.toList_length left right)
  obtain ⟨hAccount, _⟩ := List.append_inj' hStart rfl
  exact ⟨String.toList_injective hAccount, hDisplay.injective (String.toList_injective hEnd)⟩

namespace CloudTables

/-- The session that the tables hold under a token, if its device is not
revoked. -/
def live [Sha2Crate] (tables : CloudTables) (token : String) : Option CloudSession :=
  (tables.sessions.lookup (syncTokenHash token)).bind fun row =>
    if row.payload.syncToken = token ∧
        (tables.devices.lookup row.payload.deviceId).any (fun device => !device.revoked) then
      some row.payload
    else none

/-- Revoking a device ends its sessions. -/
theorem live_mergeRevoked [Sha2Crate] (tables : CloudTables) (target : Uuid) (token : String) :
    (mergeRevoked target tables).live token =
      (tables.live token).filter fun session => session.deviceId ≠ target := by
  unfold live
  have hSessions : (mergeRevoked target tables).sessions = tables.sessions := rfl
  rw [hSessions]
  cases tables.sessions.lookup (syncTokenHash token) with
  | none => rfl
  | some row =>
      rw [Option.bind_some, Option.bind_some, lookup_mergeRevoked]
      by_cases hToken : row.payload.syncToken = token
      · cases tables.devices.lookup row.payload.deviceId with
        | none => simp
        | some device =>
            by_cases hTarget : row.payload.deviceId = target
            · cases hFlag : device.revoked <;> simp [Option.filter_some, hToken, hTarget, hFlag]
            · cases hFlag : device.revoked <;> simp [Option.filter_some, hToken, hTarget, hFlag]
      · simp [hToken]

/-- The rows of a table are found under their own identifiers. -/
structure Keyed [UuidCrate] [Sha2Crate] (tables : CloudTables) : Prop where
  sessions : ∀ key row, tables.sessions.lookup key = some row →
    syncTokenHash row.payload.syncToken = key
  devices : ∀ deviceId device, tables.devices.lookup deviceId = some device →
    device.deviceId = deviceId ∧ device.payload.deviceId = deviceId
  paired : ∀ key row, tables.sessions.lookup key = some row →
    ∃ device, tables.devices.lookup row.payload.deviceId = some device
  access : ∀ key row, tables.logbookAccess.lookup key = some row →
    accessKey row.accountId row.logbookId = key

section Access
variable [UuidCrate]

/-- The access rows after the logbooks of a session were added. -/
def accessAfter (session : CloudSession) (logbooks : List Uuid)
    (rows : KeyMap String SyncLogbookAccessRow) : KeyMap String SyncLogbookAccessRow :=
  logbooks.foldl (fun rows logbookId => rows.insert (accessKey session.accountId logbookId)
    { accountId := session.accountId, logbookId := logbookId }) rows

theorem logbookAccess_saveSession [Sha2Crate] (tables : CloudTables) (session : CloudSession) :
    (tables.saveSession session none).1.logbookAccess =
      accessAfter session session.authorizedLogbooks tables.logbookAccess := by
  have hFold : ∀ (logbooks : List Uuid) (tables : CloudTables),
      ((logbooks.map (putAccess session)).foldl (fun tables write => write tables)
        tables).logbookAccess = accessAfter session logbooks tables.logbookAccess := by
    intro logbooks
    induction logbooks with
    | nil => exact fun tables => rfl
    | cons logbookId rest ih => exact fun tables => ih (putAccess session logbookId tables)
  exact hFold _ _

theorem accessAfter_keyed (session : CloudSession) (logbooks : List Uuid)
    {rows : KeyMap String SyncLogbookAccessRow}
    (h : ∀ key row, rows.lookup key = some row → accessKey row.accountId row.logbookId = key) :
    ∀ key row, (accessAfter session logbooks rows).lookup key = some row →
      accessKey row.accountId row.logbookId = key := by
  induction logbooks generalizing rows with
  | nil => exact h
  | cons logbookId rest ih =>
      refine ih fun key row hRow => ?_
      rw [KeyMap.lookup_insert_eq_ite] at hRow
      split at hRow
      · next hKey =>
          rw [hKey, ← Option.some.inj hRow]
      · exact h key row hRow

theorem lookup_accessAfter (hDisplay : DisplaysIdentifiers) (session : CloudSession)
    (logbooks : List Uuid) (rows : KeyMap String SyncLogbookAccessRow) (accountId : String)
    (logbookId : Uuid) :
    (accessAfter session logbooks rows).lookup (accessKey accountId logbookId) =
      if accountId = session.accountId ∧ logbookId ∈ logbooks then some ⟨accountId, logbookId⟩
      else rows.lookup (accessKey accountId logbookId) := by
  induction logbooks generalizing rows with
  | nil => simp [accessAfter]
  | cons added rest ih =>
      refine (ih _).trans ?_
      rw [KeyMap.lookup_insert_eq_ite]
      by_cases hAdded : accessKey accountId logbookId = accessKey session.accountId added
      · obtain ⟨rfl, rfl⟩ := accessKey_inj hDisplay hAdded
        simp
      · have hOther : ¬ (accountId = session.accountId ∧ logbookId = added) := by
          intro hBoth
          exact hAdded (by rw [hBoth.1, hBoth.2])
        rw [if_neg hAdded]
        by_cases hAccount : accountId = session.accountId
        · have hApart : logbookId ≠ added := fun hSame => hOther ⟨hAccount, hSame⟩
          simp [hAccount, hApart]
        · simp [hAccount]

/-- The logbooks of an account are those with an access row. -/
theorem mem_accountLogbooks [Sha2Crate] {tables : CloudTables} (h : tables.Keyed)
    (accountId : String) (logbookId : Uuid) : logbookId ∈ tables.accountLogbooks accountId ↔
      tables.logbookAccess.lookup (accessKey accountId logbookId) =
        some ⟨accountId, logbookId⟩ := by
  rw [accountLogbooks, List.mem_dedup, List.mem_map]
  constructor
  · intro hRow
    obtain ⟨row, hMem, rfl⟩ := hRow
    obtain ⟨hValue, hAccount⟩ := List.mem_filter.mp hMem
    obtain ⟨key, hKey⟩ := KeyMap.mem_values.mp hValue
    obtain rfl := of_decide_eq_true hAccount
    rw [h.access key row hKey]
    exact hKey
  · intro hRow
    exact ⟨_, List.mem_filter.mpr ⟨KeyMap.mem_values.mpr ⟨_, hRow⟩, by simp⟩, rfl⟩

end Access

section Steps
variable [UuidCrate] [Sha2Crate] {tables : CloudTables}

/-- A new session keeps the rows under their identifiers. -/
theorem Keyed.saveSession (h : tables.Keyed) (session : CloudSession) :
    (tables.saveSession session none).1.Keyed where
  sessions key row hRow := by
    rw [lookup_sessions_saveSession] at hRow
    split at hRow
    · next hNew => rw [hNew.2, ← Option.some.inj hRow]
    · exact h.sessions key row hRow
  devices deviceId device hDevice := by
    rw [lookup_devices_saveSession] at hDevice
    split at hDevice
    · next hNew =>
        rw [hNew.2, ← Option.some.inj hDevice]
        exact ⟨rfl, rfl⟩
    · exact h.devices deviceId device hDevice
  paired key row hRow := by
    rw [lookup_devices_saveSession]
    split
    · exact ⟨_, rfl⟩
    · next hOther =>
        rw [lookup_sessions_saveSession] at hRow
        split at hRow
        · next hNew =>
            rw [← Option.some.inj hRow] at hOther
            exact absurd ⟨rfl, rfl⟩ hOther
        · exact h.paired key row hRow
  access := by
    rw [logbookAccess_saveSession]
    exact accessAfter_keyed session _ h.access

theorem Keyed.mergeRevoked (h : tables.Keyed) (target : Uuid) :
    (mergeRevoked target tables).Keyed where
  sessions := h.sessions
  devices deviceId device hDevice := by
    rw [lookup_mergeRevoked] at hDevice
    obtain ⟨old, hOld, rfl⟩ := Option.map_eq_some_iff.mp hDevice
    have hSame := h.devices deviceId old hOld
    split <;> exact hSame
  paired key row hRow := by
    obtain ⟨device, hDevice⟩ := h.paired key row hRow
    rw [lookup_mergeRevoked, hDevice]
    exact ⟨_, rfl⟩
  access := h.access

/-- A session with a new token, for a device that is not revoked, is the only
one that becomes live. -/
theorem live_saveSession (h : tables.Keyed) {session : CloudSession}
    (hFresh : tables.sessions.lookup (syncTokenHash session.syncToken) = none)
    (hDevice : ∀ device, tables.devices.lookup session.deviceId = some device →
      device.revoked = false) (token : String) :
    (tables.saveSession session none).1.live token =
      if token = session.syncToken then some session else tables.live token := by
  unfold live
  rw [lookup_sessions_saveSession]
  by_cases hHash : syncTokenHash token = syncTokenHash session.syncToken
  · rw [if_pos ⟨rfl, hHash⟩, hHash, hFresh, Option.bind_some]
    by_cases hToken : token = session.syncToken
    · rw [if_pos hToken, if_pos]
      exact ⟨hToken.symm, by rw [lookup_devices_saveSession, if_pos ⟨rfl, rfl⟩]; rfl⟩
    · rw [if_neg hToken, if_neg fun hBoth => hToken hBoth.1.symm]
      rfl
  · have hToken : token ≠ session.syncToken := fun hSame => hHash (by rw [hSame])
    rw [if_neg fun hBoth => hHash hBoth.2, if_neg hToken]
    cases hRow : tables.sessions.lookup (syncTokenHash token) with
    | none => rfl
    | some row =>
        have hAny : ((tables.saveSession session none).1.devices.lookup
            row.payload.deviceId).any (fun device => !device.revoked) =
              (tables.devices.lookup row.payload.deviceId).any fun device => !device.revoked := by
          rw [lookup_devices_saveSession]
          by_cases hSame : row.payload.deviceId = session.deviceId
          · obtain ⟨device, hFound⟩ := h.paired _ row hRow
            have hKept := hDevice device (hSame ▸ hFound)
            rw [if_pos ⟨rfl, hSame⟩, hFound]
            simp [hKept]
          · rw [if_neg fun hBoth => hSame hBoth.2]
        rw [Option.bind_some, Option.bind_some, hAny]

/-- What the check of a token finds: the live session, unless it expired. -/
theorem session_eq_live (h : tables.Keyed) {auth : CloudAuth} (hApart : ∀ row,
      tables.sessions.lookup (syncTokenHash auth.syncToken) = some row →
        row.payload.syncToken = auth.syncToken) (now : DateTime) :
    tables.session auth now = match tables.live auth.syncToken with
      | none => .error .unauthenticated
      | some session =>
          if cloudSessionIsExpired session now then .error .unauthenticated else .ok session := by
  have hSession := KeyMap.find?_values (fun row : SyncSessionRow =>
    syncTokenHash row.payload.syncToken) h.sessions (syncTokenHash auth.syncToken)
  unfold session live
  rw [hSession]
  cases hRow : tables.sessions.lookup (syncTokenHash auth.syncToken) with
  | none => rfl
  | some row =>
      obtain ⟨device, hDevice⟩ := h.paired _ row hRow
      have hPayload := KeyMap.find?_values (fun device : SyncDeviceRow => device.payload.deviceId)
        (fun id device hFound => (h.devices id device hFound).2) row.payload.deviceId
      have hRevoked := KeyMap.find?_values SyncDeviceRow.deviceId
        (fun id device hFound => (h.devices id device hFound).1) row.payload.deviceId
      rw [hDevice] at hPayload hRevoked
      have hSame := (h.devices _ device hDevice).2
      cases hExpired : cloudSessionIsExpired row.payload now <;>
        cases hFlag : device.revoked <;>
          simp [hApart row hRow, hDevice, hPayload, hRevoked, hSame, hExpired, hFlag]

end Steps
end CloudTables

/-! The two event stores. -/

section Push
variable [UuidCrate] [RustFmt] [CanonicalJson] [Sha2Crate]

/-- Pushing into a file store does to its memory what pushing into a store in
memory does. -/
theorem pushLoop_jsonl [EventJson] (store : JsonlLogbookEventStore) (progress : PushProgress)
    (events : List CoreEventEnvelope) :
    let written := pushLoop (fun store : JsonlLogbookEventStore => store.memory.getEvent)
      (fun store event => store.appendVerifiedRemoteEvent event .completes) store progress events
    let kept := pushLoop InMemoryLogbookEventStore.getEvent
      InMemoryLogbookEventStore.appendVerifiedRemoteEvent store.memory progress events
    written.1.memory = kept.1 ∧ written.2 = kept.2 := by
  induction events generalizing store progress with
  | nil => exact ⟨rfl, rfl⟩
  | cons event rest ih =>
      simp only [pushLoop]
      cases validateSupportedRemoteEvent event with
      | error error => exact ⟨rfl, rfl⟩
      | ok _ =>
          cases hFound : store.memory.getEvent event.eventId with
          | some existing =>
              by_cases hSame : existing = event
              · simp only [hSame, if_true]
                exact ih store _
              · simp [hSame]
          | none =>
              -- the file store looks for the event once more before it appends
              have hAppend : store.appendVerifiedRemoteEvent event .completes =
                  store.persistOutcome .completes
                    (store.memory.appendVerifiedRemoteEvent event) := by
                rw [JsonlLogbookEventStore.appendVerifiedRemoteEvent, hFound, if_neg nofun]
              simp only [hAppend, JsonlLogbookEventStore.persistOutcome, persistEvent]
              obtain ⟨later, result⟩ := store.memory.appendVerifiedRemoteEvent event
              cases result with
              | error error => exact ⟨rfl, rfl⟩
              | ok appended => exact ih { file := _, memory := later } _

theorem pushLoop_consistent {store : InMemoryLogbookEventStore} (h : store.Consistent)
    (progress : PushProgress) (events : List CoreEventEnvelope) :
    (pushLoop InMemoryLogbookEventStore.getEvent
      InMemoryLogbookEventStore.appendVerifiedRemoteEvent store progress events).1.Consistent := by
  induction events generalizing store progress with
  | nil => exact h
  | cons event rest ih =>
      simp only [pushLoop]
      cases validateSupportedRemoteEvent event with
      | error error => exact h
      | ok _ =>
          cases hFound : store.getEvent event.eventId with
          | some existing =>
              by_cases hSame : existing = event
              · simp only [hSame, if_true]
                exact ih h _
              · simp only [hSame, if_false]
                exact h
          | none =>
              obtain ⟨history, hHistory⟩ := h
              rcases store.appendVerifiedRemoteEvent_cases event with ⟨error, hError⟩ |
                ⟨_, _, hOk⟩ | ⟨_, hNone, _, hOk⟩
              · simp only [hError]
                exact ⟨history, hHistory⟩
              · simp only [hOk]
                exact ih ⟨history, hHistory⟩ _
              · simp only [hOk]
                exact ih ⟨_, hHistory.insertEvent hNone⟩ _

end Push

theorem mapM_eq_ok {ε α β : Type} {f : α → Except ε β} {g : α → β} {elements : List α}
    (h : ∀ element ∈ elements, f element = .ok (g element)) :
    elements.mapM f = .ok (elements.map g) := by
  induction elements with
  | nil => rfl
  | cons element rest ih =>
      rw [List.mapM_cons, h element List.mem_cons_self,
        ih fun other hOther => h other (List.mem_cons_of_mem _ hOther)]
      rfl

/-! Both servers. -/

/-- One request that both servers were sent at one time, and their answers.
The identifiers that they draw for a token are the same. -/
structure CloudExchange where
  request : CloudRequest
  now : DateTime
  random : Uuid
  durable : CloudAnswer
  memory : CloudAnswer

/-- Two answers are the same up to the order of the logbooks in them. -/
def CloudAnswer.Similar : CloudAnswer → CloudAnswer → Prop
  | .logbooks (.ok first), .logbooks (.ok second) => first.Perm second
  | .status (.ok first), .status (.ok second) =>
      first.accessibleLogbooks.Perm second.accessibleLogbooks ∧
        { first with accessibleLogbooks := [] } = { second with accessibleLogbooks := [] }
  | first, second => first = second

section Agreement
variable [UuidCrate] [Sha2Crate]

/-- Both servers, serving the same requests one after the other. -/
def bothServers [RustFmt] [CanonicalJson] [EventJson] (config : CloudServerConfig) :
    System (DurableCloudState × InMemoryCloudState) CloudExchange where
  step state exchange next :=
    (next.1, exchange.durable) = DurableCloudSyncServer.answer config state.1 exchange.now
      exchange.random exchange.request ∧
    (next.2, exchange.memory) = InMemoryCloudSyncServer.answer config state.2 exchange.now
      exchange.random exchange.request

/-- No other token of the run has the hash of this one. -/
def TokenApart (tables : CloudTables) (auth : CloudAuth) : Prop :=
  ∀ row, tables.sessions.lookup (CloudTables.syncTokenHash auth.syncToken) = some row →
    row.payload.syncToken = auth.syncToken

/-- Tokens are told apart by their hashes, and a new one is new. -/
def TokensApart (config : CloudServerConfig) (state : DurableCloudState × InMemoryCloudState)
    (exchange : CloudExchange) : Prop :=
  match exchange.request with
  | .pairDevice request =>
      ∀ session, newCloudSession config request exchange.now exchange.random = some session →
        state.1.tables.sessions.lookup (CloudTables.syncTokenHash session.syncToken) = none
  | .pushEvents auth _ _ | .listLogbooks auth | .getHead auth _ | .status (some auth) =>
      TokenApart state.1.tables auth
  | .revokeDevice _ | .status none => True

/-- The session of a token has all the logbooks of its account. -/
def OwnsAccount (state : DurableCloudState × InMemoryCloudState) (auth : CloudAuth) : Prop :=
  ∀ session, state.2.auth.sessionsByToken.lookup auth.syncToken = some session →
    ∀ row ∈ state.1.tables.logbookAccess.values, row.accountId = session.accountId →
      row.logbookId ∈ session.authorizedLogbooks

/-- A device is paired while it is not revoked, for distinct logbooks, and
logbooks are listed for a session that has all those of its account. -/
def KeepsAgreement (config : CloudServerConfig) (state : DurableCloudState × InMemoryCloudState)
    (exchange : CloudExchange) : Prop :=
  match exchange.request with
  | .pairDevice request => request.pairingCode = config.pairingCode →
      request.requestedLogbooks.Nodup ∧
        ∀ device, state.1.tables.devices.lookup request.deviceId = some device →
          device.revoked = false
  | .listLogbooks auth | .status (some auth) => OwnsAccount state auth
  | .revokeDevice _ | .pushEvents _ _ _ | .getHead _ _ | .status none => True

/-- The states of the servers after the same requests. -/
structure Agree (durable : DurableCloudState) (memory : InMemoryCloudState) : Prop where
  keyed : durable.tables.Keyed
  sessions : ∀ token, memory.auth.sessionsByToken.lookup token = durable.tables.live token
  logbooks : ∀ token session, durable.tables.live token = some session →
    session.authorizedLogbooks.Nodup ∧ ∀ logbookId ∈ session.authorizedLogbooks,
      logbookId ∈ durable.tables.accountLogbooks session.accountId
  store : durable.store.memory = memory.store
  consistent : memory.store.Consistent

variable {config : CloudServerConfig} {durable : DurableCloudState} {memory : InMemoryCloudState}

theorem agree_empty : Agree {} {} where
  keyed := by constructor <;> exact fun _ _ h => by cases h
  sessions _ := rfl
  logbooks _ _ h := by cases h
  store := rfl
  consistent := ⟨[], InMemoryLogbookEventStore.represents_empty⟩

/-- Both servers find the same session for a token. -/
theorem Agree.session_eq (h : Agree durable memory) {auth : CloudAuth}
    (hApart : TokenApart durable.tables auth) (now : DateTime) :
    durable.tables.session auth now = InMemoryCloudSyncServer.authorize memory.auth auth now := by
  have hLive := h.sessions auth.syncToken
  rw [CloudTables.session_eq_live h.keyed hApart]
  unfold InMemoryCloudSyncServer.authorize
  cases hFound : durable.tables.live auth.syncToken with
  | none => simp only [hLive, hFound]
  | some session => simp only [hLive, hFound]

/-- Both servers show the same head of a logbook. -/
theorem Agree.summary_eq (h : Agree durable memory) (logbookId : Uuid) :
    { logbookId := logbookId,
      headHash := (durable.store.memory.listEvents logbookId).getLast?.map
        CoreEventEnvelope.eventHash,
      eventCount := some (durable.store.memory.listEvents logbookId).length } =
      memory.summary logbookId := by
  obtain ⟨history, hHistory⟩ := h.consistent
  rw [h.store, InMemoryCloudState.summary, hHistory.getHead, HashChain.Scheme.tip_none]
  rfl

theorem Agree.getHead_eq (h : Agree durable memory) {auth : CloudAuth}
    (hApart : TokenApart durable.tables auth) (logbookId : Uuid) (now : DateTime) :
    DurableCloudSyncServer.getHead durable auth logbookId now =
      InMemoryCloudSyncServer.getHead memory auth logbookId now := by
  rw [DurableCloudSyncServer.getHead, InMemoryCloudSyncServer.getHead, h.session_eq hApart]
  exact congrArg (Except.map · _) (funext fun _ => h.summary_eq logbookId)

/-- A session with all the logbooks of its account has those of the table. -/
theorem Agree.accountLogbooks_perm (h : Agree durable memory) {auth : CloudAuth}
    (hOwns : OwnsAccount (durable, memory) auth) {session : CloudSession}
    (hSession : memory.auth.sessionsByToken.lookup auth.syncToken = some session) :
    (durable.tables.accountLogbooks session.accountId).Perm session.authorizedLogbooks := by
  obtain ⟨hDistinct, hStored⟩ := h.logbooks auth.syncToken session (h.sessions _ ▸ hSession)
  refine (List.perm_ext_iff_of_nodup (List.nodup_dedup _) hDistinct).mpr fun logbookId => ?_
  constructor
  · intro hMem
    have hRow := (CloudTables.mem_accountLogbooks h.keyed _ _).mp hMem
    exact hOwns session hSession _ (KeyMap.mem_values.mpr ⟨_, hRow⟩) rfl
  · exact hStored logbookId

/-- A listing shows the logbooks of the session, with their heads. -/
theorem Agree.listLogbooks (h : Agree durable memory) {auth : CloudAuth}
    (hApart : TokenApart durable.tables auth) (hOwns : OwnsAccount (durable, memory) auth)
    {now : DateTime} {session : CloudSession}
    (hSession : InMemoryCloudSyncServer.authorize memory.auth auth now = .ok session) :
    ∃ logbooks, DurableCloudSyncServer.listLogbooks durable auth now = .ok logbooks ∧
      logbooks.Perm (session.authorizedLogbooks.map memory.summary) := by
  have hLookup : memory.auth.sessionsByToken.lookup auth.syncToken = some session := by
    unfold InMemoryCloudSyncServer.authorize at hSession
    split at hSession
    · cases hSession
    · next found hFound =>
        split at hSession
        · cases hSession
        · rw [hFound, Except.ok.inj hSession]
  have hPerm := h.accountLogbooks_perm hOwns hLookup
  have hHeads : (durable.tables.accountLogbooks session.accountId).mapM (fun logbookId =>
      DurableCloudSyncServer.getHead durable auth logbookId now) =
        .ok ((durable.tables.accountLogbooks session.accountId).map memory.summary) := by
    refine mapM_eq_ok fun logbookId hMem => ?_
    rw [h.getHead_eq hApart, InMemoryCloudSyncServer.getHead, hSession, authorizeLogbook,
      if_pos (hPerm.mem_iff.mp hMem)]
    rfl
  have hSorted : DurableCloudSyncServer.listLogbooks durable auth now =
      .ok (((durable.tables.accountLogbooks session.accountId).map memory.summary).mergeSort
        fun first second => first.logbookId ≤ second.logbookId) := by
    rw [DurableCloudSyncServer.listLogbooks, h.session_eq hApart, hSession]
    refine (except_bind_eq_ok_iff _ _ _).mpr ⟨session, rfl, ?_⟩
    exact (except_bind_eq_ok_iff _ _ _).mpr ⟨_, hHeads, rfl⟩
  exact ⟨_, hSorted, (List.mergeSort_perm _ _).trans (hPerm.map memory.summary)⟩

/-- A new session is added on both sides. -/
theorem Agree.pair (h : Agree durable memory) (hDisplay : DisplaysIdentifiers)
    {session : CloudSession} (hFresh : durable.tables.sessions.lookup
      (CloudTables.syncTokenHash session.syncToken) = none)
    (hDistinct : session.authorizedLogbooks.Nodup)
    (hDevice : ∀ device, durable.tables.devices.lookup session.deviceId = some device →
      device.revoked = false) :
    Agree { durable with tables := (durable.tables.saveSession session none).1 }
      { memory with auth := { memory.auth with
        sessionsByToken := memory.auth.sessionsByToken.insert session.syncToken session } } where
  keyed := h.keyed.saveSession session
  sessions token := by
    rw [KeyMap.lookup_insert_eq_ite, CloudTables.live_saveSession h.keyed hFresh hDevice,
      h.sessions token]
  logbooks token found hFound := by
    have hAccess : ∀ logbookId accountId, logbookId ∈
        (durable.tables.saveSession session none).1.accountLogbooks accountId ↔
          (accountId = session.accountId ∧ logbookId ∈ session.authorizedLogbooks) ∨
            logbookId ∈ durable.tables.accountLogbooks accountId := by
      intro logbookId accountId
      rw [CloudTables.mem_accountLogbooks (h.keyed.saveSession session),
        CloudTables.mem_accountLogbooks h.keyed, CloudTables.logbookAccess_saveSession,
        CloudTables.lookup_accessAfter hDisplay]
      split <;> simp_all
    rw [CloudTables.live_saveSession h.keyed hFresh hDevice] at hFound
    split at hFound
    · rw [← Option.some.inj hFound]
      exact ⟨hDistinct, fun logbookId hMem => (hAccess _ _).mpr (Or.inl ⟨rfl, hMem⟩)⟩
    · obtain ⟨hOld, hStored⟩ := h.logbooks token found hFound
      exact ⟨hOld, fun logbookId hMem => (hAccess _ _).mpr (Or.inr (hStored logbookId hMem))⟩
  store := h.store
  consistent := h.consistent

/-- The sessions of a device are ended on both sides. -/
theorem Agree.revoke (h : Agree durable memory) (target : Uuid) :
    Agree { durable with tables := CloudTables.mergeRevoked target durable.tables }
      { memory with auth := InMemoryCloudSyncServer.revokeDevice memory.auth target } where
  keyed := h.keyed.mergeRevoked target
  sessions token := by
    rw [InMemoryCloudSyncServer.revokeDevice, KeyMap.lookup_retain, h.sessions token,
      CloudTables.live_mergeRevoked]
  logbooks token session hLive := by
    rw [CloudTables.live_mergeRevoked] at hLive
    exact h.logbooks token session (Option.filter_eq_some_iff.mp hLive).1
  store := h.store
  consistent := h.consistent

/-- The status tells of a listing. -/
theorem Agree.status (h : Agree durable memory) {auth : CloudAuth}
    (hApart : TokenApart durable.tables auth) (hOwns : OwnsAccount (durable, memory) auth)
    {now : DateTime} {session : CloudSession}
    (hSession : InMemoryCloudSyncServer.authorize memory.auth auth now = .ok session) :
    ∃ logbooks, DurableCloudSyncServer.status config durable (some auth) now =
        .ok (connectedStatus config session logbooks) ∧
      logbooks.Perm (session.authorizedLogbooks.map memory.summary) := by
  obtain ⟨logbooks, hLogbooks, hPerm⟩ := h.listLogbooks hApart hOwns hSession
  refine ⟨logbooks, ?_, hPerm⟩
  rw [DurableCloudSyncServer.status, h.session_eq hApart, hSession]
  refine (except_bind_eq_ok_iff _ _ _).mpr ⟨session, rfl, ?_⟩
  exact (except_bind_eq_ok_iff _ _ _).mpr ⟨logbooks, hLogbooks, rfl⟩

theorem Agree.listLogbooks_similar (h : Agree durable memory) {auth : CloudAuth}
    (hApart : TokenApart durable.tables auth) (hOwns : OwnsAccount (durable, memory) auth)
    (now : DateTime) :
    (CloudAnswer.logbooks (DurableCloudSyncServer.listLogbooks durable auth now)).Similar
      (.logbooks (InMemoryCloudSyncServer.listLogbooks memory auth now)) := by
  rw [InMemoryCloudSyncServer.listLogbooks]
  cases hSession : InMemoryCloudSyncServer.authorize memory.auth auth now with
  | error error =>
      rw [DurableCloudSyncServer.listLogbooks, h.session_eq hApart, hSession]
      rfl
  | ok session =>
      obtain ⟨logbooks, hLogbooks, hPerm⟩ := h.listLogbooks hApart hOwns hSession
      rw [hLogbooks]
      exact hPerm

theorem Agree.status_similar (h : Agree durable memory) {auth : CloudAuth}
    (hApart : TokenApart durable.tables auth) (hOwns : OwnsAccount (durable, memory) auth)
    (now : DateTime) :
    (CloudAnswer.status (DurableCloudSyncServer.status config durable (some auth) now)).Similar
      (.status (InMemoryCloudSyncServer.status config memory (some auth) now)) := by
  rw [InMemoryCloudSyncServer.status, InMemoryCloudSyncServer.listLogbooks]
  cases hSession : InMemoryCloudSyncServer.authorize memory.auth auth now with
  | error error =>
      rw [DurableCloudSyncServer.status, h.session_eq hApart, hSession]
      rfl
  | ok session =>
      obtain ⟨logbooks, hStatus, hPerm⟩ := h.status hApart hOwns hSession
      rw [hStatus]
      exact ⟨hPerm, rfl⟩

/-- A pairing is answered alike. -/
theorem Agree.pairDevice (h : Agree durable memory) (hDisplay : DisplaysIdentifiers)
    {request : PairDeviceRequest} {now : DateTime} {random : Uuid}
    (hFresh : ∀ session, newCloudSession config request now random = some session →
      durable.tables.sessions.lookup (CloudTables.syncTokenHash session.syncToken) = none)
    (hKeeps : request.pairingCode = config.pairingCode → request.requestedLogbooks.Nodup ∧
      ∀ device, durable.tables.devices.lookup request.deviceId = some device →
        device.revoked = false) :
    let written := DurableCloudSyncServer.pairDevice config durable.tables request now random none
    let kept := InMemoryCloudSyncServer.pairDevice config memory.auth request now random
    Agree { durable with tables := written.1 } { memory with auth := kept.1 } ∧
      written.2 = kept.2 := by
  unfold DurableCloudSyncServer.pairDevice InMemoryCloudSyncServer.pairDevice
  by_cases hCode : request.pairingCode = config.pairingCode
  · obtain ⟨hDistinct, hDevice⟩ := hKeeps hCode
    cases hSession : newCloudSession config request now random with
    | none =>
        simp only [hCode, ne_eq, not_true_eq_false, if_false]
        exact ⟨h, trivial⟩
    | some session =>
        have hMade := hSession
        unfold newCloudSession at hMade
        obtain ⟨expiresAt, _, hRecord⟩ := Option.map_eq_some_iff.mp hMade
        have hSaved : durable.tables.saveSession session none =
            ((durable.tables.saveSession session none).1, .ok ()) := rfl
        simp only [hCode, ne_eq, not_true_eq_false, if_false]
        rw [hSaved]
        refine ⟨h.pair hDisplay (hFresh session hSession) ?_ ?_, rfl⟩
        · rw [← hRecord]
          exact hDistinct
        · rw [← hRecord]
          exact hDevice
  · simp only [hCode, ne_eq, not_false_eq_true, if_true]
    exact ⟨h, trivial⟩

variable [RustFmt] [CanonicalJson] [EventJson]

/-- Pushing is answered alike and stores the same events. -/
theorem Agree.push (h : Agree durable memory) {auth : CloudAuth}
    (hApart : TokenApart durable.tables auth) (logbookId : Uuid) (events : List CoreEventEnvelope)
    (now : DateTime) :
    Agree (DurableCloudSyncServer.pushEvents durable auth logbookId events now).1
        (InMemoryCloudSyncServer.pushEvents memory auth logbookId events now).1 ∧
      (DurableCloudSyncServer.pushEvents durable auth logbookId events now).2 =
        (InMemoryCloudSyncServer.pushEvents memory auth logbookId events now).2 := by
  unfold DurableCloudSyncServer.pushEvents InMemoryCloudSyncServer.pushEvents
  rw [h.session_eq hApart]
  cases authorizeLogbook (InMemoryCloudSyncServer.authorize memory.auth auth now) logbookId with
  | error error => exact ⟨h, rfl⟩
  | ok session =>
      dsimp only
      split
      · exact ⟨h, rfl⟩
      · obtain ⟨hStore, hProgress⟩ := pushLoop_jsonl durable.store {} events
        rw [h.store] at hStore hProgress
        refine ⟨⟨h.keyed, h.sessions, h.logbooks, hStore, ?_⟩, ?_⟩
        · exact pushLoop_consistent h.consistent _ _
        · rw [hStore, hProgress]

/-- One request leaves the servers in agreement and is answered alike. -/
theorem Agree.step (hDisplay : DisplaysIdentifiers)
    {state next : DurableCloudState × InMemoryCloudState} {exchange : CloudExchange}
    (h : Agree state.1 state.2) (hTokens : TokensApart config state exchange)
    (hKeeps : KeepsAgreement config state exchange)
    (hStep : (bothServers config).step state exchange next) :
    Agree next.1 next.2 ∧ exchange.durable.Similar exchange.memory := by
  obtain ⟨durable, memory⟩ := state
  obtain ⟨hDurable, hMemory⟩ := hStep
  obtain ⟨request, now, random, first, second⟩ := exchange
  cases request with
  | pairDevice request =>
      obtain ⟨hLater, hAnswer⟩ := Prod.mk.inj hDurable
      obtain ⟨hKept, hReply⟩ := Prod.mk.inj hMemory
      obtain ⟨hAgree, hSame⟩ := h.pairDevice hDisplay hTokens hKeeps
      rw [hLater, hKept, hAnswer, hReply]
      exact ⟨hAgree, congrArg CloudAnswer.paired hSame⟩
  | revokeDevice target =>
      obtain ⟨hLater, hAnswer⟩ := Prod.mk.inj hDurable
      obtain ⟨hKept, hReply⟩ := Prod.mk.inj hMemory
      rw [hLater, hKept, hAnswer, hReply]
      exact ⟨h.revoke target, rfl⟩
  | pushEvents auth logbookId events =>
      obtain ⟨hLater, hAnswer⟩ := Prod.mk.inj hDurable
      obtain ⟨hKept, hReply⟩ := Prod.mk.inj hMemory
      obtain ⟨hAgree, hSame⟩ := h.push hTokens logbookId events now
      rw [hLater, hKept, hAnswer, hReply]
      exact ⟨hAgree, congrArg CloudAnswer.pushed hSame⟩
  | getHead auth logbookId =>
      obtain ⟨hLater, hAnswer⟩ := Prod.mk.inj hDurable
      obtain ⟨hKept, hReply⟩ := Prod.mk.inj hMemory
      rw [hLater, hKept, hAnswer, hReply]
      exact ⟨h, congrArg CloudAnswer.head (h.getHead_eq hTokens logbookId now)⟩
  | listLogbooks auth =>
      obtain ⟨hLater, hAnswer⟩ := Prod.mk.inj hDurable
      obtain ⟨hKept, hReply⟩ := Prod.mk.inj hMemory
      rw [hLater, hKept, hAnswer, hReply]
      exact ⟨h, h.listLogbooks_similar hTokens hKeeps now⟩
  | status auth =>
      obtain ⟨hLater, hAnswer⟩ := Prod.mk.inj hDurable
      obtain ⟨hKept, hReply⟩ := Prod.mk.inj hMemory
      rw [hLater, hKept, hAnswer, hReply]
      refine ⟨h, ?_⟩
      cases auth with
      | none => exact ⟨List.Perm.refl _, rfl⟩
      | some auth => exact h.status_similar hTokens hKeeps now

/-- As long as their requests keep the servers in agreement, they answer all of
them alike, and every valid session lists its own logbooks with their heads. -/
theorem servers_answer_alike (config : CloudServerConfig) (hDisplay : DisplaysIdentifiers)
    {exchanges : List CloudExchange} {final : DurableCloudState × InMemoryCloudState}
    (run : Run ((bothServers config).restrict fun state exchange =>
      TokensApart config state exchange ∧ KeepsAgreement config state exchange) ({}, {})
      exchanges final) :
    (∀ exchange ∈ exchanges, exchange.durable.Similar exchange.memory) ∧
    ∀ auth now session, TokenApart final.1.tables auth → OwnsAccount final auth →
      InMemoryCloudSyncServer.authorize final.2.auth auth now = .ok session →
      (∃ logbooks, DurableCloudSyncServer.listLogbooks final.1 auth now = .ok logbooks ∧
        logbooks.Perm (session.authorizedLogbooks.map final.2.summary)) ∧
      ∃ logbooks, DurableCloudSyncServer.status config final.1 (some auth) now =
          .ok (connectedStatus config session logbooks) ∧
        logbooks.Perm (session.authorizedLogbooks.map final.2.summary) := by
  have hAgree : Agree final.1 final.2 ∧
      ∀ exchange ∈ exchanges, exchange.durable.Similar exchange.memory := by
    refine run.history (P := fun seen state => Agree state.1 state.2 ∧
      ∀ exchange ∈ seen, exchange.durable.Similar exchange.memory)
      ⟨agree_empty, fun _ h => absurd h List.not_mem_nil⟩ ?_
    intro seen state exchange next hSeen hStep
    obtain ⟨⟨hTokens, hKeeps⟩, hStep⟩ := hStep
    obtain ⟨hNext, hSimilar⟩ := hSeen.1.step hDisplay hTokens hKeeps hStep
    refine ⟨hNext, fun other hMem => ?_⟩
    rcases List.mem_append.mp hMem with hEarlier | hLast
    · exact hSeen.2 other hEarlier
    · rw [List.mem_singleton.mp hLast]
      exact hSimilar
  refine ⟨hAgree.2, fun auth now session hApart hOwns hSession => ?_⟩
  exact ⟨hAgree.1.listLogbooks hApart hOwns hSession, hAgree.1.status hApart hOwns hSession⟩

end Agreement

section
open Crates

/-- No event is read back from a file here. -/
local instance sampleEventJson : EventJson := eventJson []

/-- A request at the first instant, with what both servers answer to it. -/
def sampleExchange (state : DurableCloudState × InMemoryCloudState) (request : CloudRequest)
    (random : Uuid) : CloudExchange where
  request := request
  now := epoch
  random := random
  durable := (DurableCloudSyncServer.answer sampleConfig state.1 epoch random request).2
  memory := (InMemoryCloudSyncServer.answer sampleConfig state.2 epoch random request).2

def afterRequest (state : DurableCloudState × InMemoryCloudState) (request : CloudRequest)
    (random : Uuid) : DurableCloudState × InMemoryCloudState :=
  ((DurableCloudSyncServer.answer sampleConfig state.1 epoch random request).1,
    (InMemoryCloudSyncServer.answer sampleConfig state.2 epoch random request).1)

theorem sampleExchange_step (state : DurableCloudState × InMemoryCloudState)
    (request : CloudRequest) (random : Uuid) :
    (bothServers sampleConfig).step state (sampleExchange state request random)
      (afterRequest state request random) := ⟨rfl, rfl⟩

/-- Both servers after a first device was paired. -/
def pairedServers : DurableCloudState × InMemoryCloudState :=
  afterRequest ({}, {}) (.pairDevice samplePairing) 1

def sampleAuth : CloudAuth where
  syncToken := (sampleSession 1).syncToken

/-- Another device of the account, for another logbook. -/
def otherPairing : PairDeviceRequest :=
  { samplePairing with deviceId := 9, requestedLogbooks := [3] }

theorem servers_answer_alike_laptop :
    let pairing := sampleExchange ({}, {}) (.pairDevice samplePairing) 1
    let listing := sampleExchange pairedServers (.listLogbooks sampleAuth) 5
    ∀ exchange ∈ [pairing, listing], exchange.durable.Similar exchange.memory := by
  intro pairing listing
  have hSession : pairedServers.1.tables.sessions =
      AList.insert (CloudTables.syncTokenHash sampleAuth.syncToken) ⟨false, sampleSession 1⟩ ∅ :=
    rfl
  have hMemory : pairedServers.2.auth.sessionsByToken =
      AList.insert sampleAuth.syncToken (sampleSession 1) ∅ := rfl
  have hPair : TokensApart sampleConfig ({}, {}) pairing ∧
      KeepsAgreement sampleConfig ({}, {}) pairing := by
    refine ⟨fun _ _ => rfl, fun _ => ⟨by decide, fun device hDevice => ?_⟩⟩
    cases hDevice
  have hList : TokensApart sampleConfig pairedServers listing ∧
      KeepsAgreement sampleConfig pairedServers listing := by
    constructor
    · intro row hRow
      rw [hSession, AList.lookup_insert] at hRow
      rw [← Option.some.inj hRow]
      rfl
    · intro session hFound row hRow _
      rw [hMemory, AList.lookup_insert] at hFound
      have hRows : pairedServers.1.tables.logbookAccess.values = [⟨"account", 2⟩] := rfl
      rw [hRows, List.mem_singleton] at hRow
      rw [hRow, ← Option.some.inj hFound]
      decide
  exact (servers_answer_alike sampleConfig displaysIdentifiers
    (Run.snoc (Run.single ⟨hPair, sampleExchange_step _ _ _⟩)
      ⟨hList, sampleExchange_step _ _ _⟩)).1

/-- A device of the account is paired for another logbook, and the durable
server no longer lists the logbooks of the first one. -/
theorem other_device_blocks_listing :
    let pairing := sampleExchange ({}, {}) (.pairDevice samplePairing) 1
    let other := sampleExchange pairedServers (.pairDevice otherPairing) 4
    let both := afterRequest pairedServers (.pairDevice otherPairing) 4
    let listing := sampleExchange both (.listLogbooks sampleAuth) 5
    (∃ final, Run (bothServers sampleConfig) ({}, {}) [pairing, other, listing] final) ∧
      listing.durable = .logbooks (.error (.unauthorizedLogbook 3)) ∧
      listing.memory = .logbooks (.ok [⟨2, none, some 0⟩]) ∧
      ¬ listing.durable.Similar listing.memory := by
  intro pairing other both listing
  have hDurable : listing.durable = .logbooks (.error (.unauthorizedLogbook 3)) := by
    decide +kernel
  have hMemory : listing.memory = .logbooks (.ok [⟨2, none, some 0⟩]) := by
    decide +kernel
  refine ⟨⟨_, Run.snoc (Run.snoc (Run.single (sampleExchange_step _ _ _))
    (sampleExchange_step _ _ _)) (sampleExchange_step _ _ _)⟩, hDurable, hMemory, ?_⟩
  rw [hDurable, hMemory]
  exact nofun

end
end HamLogger
