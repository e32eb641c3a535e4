import HamLogger.Library.Transition
import HamLogger.Sync.CloudSession

/-! Runs of the cloud sync servers: when the token of a revoked device is
refused. -/
namespace HamLogger

open Transition (Run Since System since_of_stopped since_snoc split_snoc)

namespace CloudTables

theorem tables_revokeDevice (tables : CloudTables) (deviceId : Uuid) (fault : Option StoreFault) :
    (tables.revokeDevice deviceId fault).1 =
      if StoreFault.reached fault 1 then mergeRevoked deviceId tables else tables := by
  cases fault with
  | none => rfl
  | some failure =>
      obtain ⟨written, message⟩ := failure
      match written with
      | 0 => rfl
      | count + 1 => simp [revokeDevice, commit, StoreFault.reached]

theorem lookup_mergeRevoked (tables : CloudTables) (target deviceId : Uuid) :
    (mergeRevoked target tables).devices.lookup deviceId =
      (tables.devices.lookup deviceId).map fun row =>
        if deviceId = target then { row with revoked := true } else row := by
  have hModify : (mergeRevoked target tables).devices.lookup deviceId =
      if deviceId = target then
        (tables.devices.lookup target).map fun row => { row with revoked := true }
      else tables.devices.lookup deviceId :=
    KeyMap.lookup_modify tables.devices target deviceId _
  rw [hModify]
  by_cases hSame : deviceId = target
  · subst hSame
    simp
  · simp [hSame]

theorem foldl_putAccess [UuidCrate] (session : CloudSession) (logbooks : List Uuid)
    (tables : CloudTables) :
    ((logbooks.map (putAccess session)).foldl (fun tables write => write tables) tables).sessions =
        tables.sessions ∧
      ((logbooks.map (putAccess session)).foldl (fun tables write => write tables)
        tables).devices = tables.devices := by
  induction logbooks generalizing tables with
  | nil => exact ⟨rfl, rfl⟩
  | cons logbookId rest ih => exact ih (putAccess session logbookId tables)

variable [UuidCrate] [Sha2Crate]

/-- What saving a session leaves in the two tables that sessions are read
from. -/
theorem tables_saveSession (tables : CloudTables) (session : CloudSession)
    (fault : Option StoreFault) :
    (tables.saveSession session fault).1.sessions =
        (if StoreFault.reached fault 1 then (putSession session tables).sessions
          else tables.sessions) ∧
      (tables.saveSession session fault).1.devices =
        if StoreFault.reached fault 2 then (putDevice session tables).devices
          else tables.devices := by
  cases fault with
  | none =>
      exact foldl_putAccess session session.authorizedLogbooks
        (putDevice session (putSession session tables))
  | some failure =>
      obtain ⟨written, message⟩ := failure
      match written with
      | 0 => exact ⟨rfl, rfl⟩
      | 1 => exact ⟨rfl, rfl⟩
      | count + 2 =>
          have hFold := foldl_putAccess session (session.authorizedLogbooks.take count)
            (putDevice session (putSession session tables))
          rw [List.map_take] at hFold
          have hOne : StoreFault.reached (some ⟨count + 2, message⟩) 1 = true := by
            simp [StoreFault.reached]
          have hTwo : StoreFault.reached (some ⟨count + 2, message⟩) 2 = true := by
            simp [StoreFault.reached]
          rw [if_pos hOne, if_pos hTwo]
          exact hFold

theorem lookup_sessions_saveSession (tables : CloudTables) (session : CloudSession)
    (fault : Option StoreFault) (key : String) :
    (tables.saveSession session fault).1.sessions.lookup key =
      if StoreFault.reached fault 1 = true ∧ key = syncTokenHash session.syncToken then
        some { revoked := false, payload := session }
      else tables.sessions.lookup key := by
  rw [(tables_saveSession tables session fault).1]
  by_cases hReached : StoreFault.reached fault 1 = true
  · rw [if_pos hReached, putSession, KeyMap.lookup_insert_eq_ite]
    simp [hReached]
  · rw [if_neg hReached, if_neg fun hBoth => hReached hBoth.1]

theorem lookup_devices_saveSession (tables : CloudTables) (session : CloudSession)
    (fault : Option StoreFault) (deviceId : Uuid) :
    (tables.saveSession session fault).1.devices.lookup deviceId =
      if StoreFault.reached fault 2 = true ∧ deviceId = session.deviceId then
        some { deviceId := session.deviceId, revoked := false, payload := session }
      else tables.devices.lookup deviceId := by
  rw [(tables_saveSession tables session fault).2]
  by_cases hReached : StoreFault.reached fault 2 = true
  · rw [if_pos hReached, putDevice, KeyMap.lookup_insert_eq_ite]
    simp [hReached]
  · rw [if_neg hReached, if_neg fun hBoth => hReached hBoth.1]

end CloudTables

/-! What steps do to sessions. -/

namespace CloudStep

/-- The session that a step makes: pairing with the right code makes one. -/
def newSession [UuidCrate] (config : CloudServerConfig) (step : CloudStep) :
    Option CloudSession :=
  match step.call with
  | .pairDevice request issuedAt random =>
      if request.pairingCode = config.pairingCode then
        newCloudSession config request issuedAt random
      else none
  | .revokeDevice _ => none
  | .operation _ _ => none

/-- The step issues the token of a session. -/
structure Issues [UuidCrate] (config : CloudServerConfig) (session : CloudSession)
    (step : CloudStep) : Prop where
  made : step.newSession config = some session
  saved : step.fault = none

/-- The step pairs a device, as far as the row of the device at least. -/
def PairsDevice [UuidCrate] (config : CloudServerConfig) (deviceId : Uuid) (step : CloudStep) :
    Prop :=
  ∃ session, step.newSession config = some session ∧ session.deviceId = deviceId ∧
    StoreFault.reached step.fault 2 = true

/-- The step revokes a device. -/
structure RevokesDevice (deviceId : Uuid) (step : CloudStep) : Prop where
  call : step.call = .revokeDevice deviceId
  written : StoreFault.reached step.fault 1 = true

theorem not_pairs_of_revokes [UuidCrate] {config : CloudServerConfig} {deviceId other : Uuid}
    {step : CloudStep} (h : step.RevokesDevice deviceId) : ¬ step.PairsDevice config other := by
  rintro ⟨session, hSession, _⟩
  rw [newSession, h.call] at hSession
  cases hSession

theorem not_pairs_of_none [UuidCrate] {config : CloudServerConfig} {step : CloudStep}
    (h : step.newSession config = none) (deviceId : Uuid) : ¬ step.PairsDevice config deviceId := by
  rintro ⟨session, hSession, _⟩
  rw [h] at hSession
  cases hSession

/-- The device that a step pairs is the one of its session. -/
theorem pairsDevice_iff [UuidCrate] {config : CloudServerConfig} {step : CloudStep}
    {session : CloudSession} (h : step.newSession config = some session) (deviceId : Uuid) :
    step.PairsDevice config deviceId ↔
      StoreFault.reached step.fault 2 = true ∧ deviceId = session.deviceId := by
  constructor
  · intro hPairs
    obtain ⟨other, hOther, hSame, hReached⟩ := hPairs
    obtain rfl : session = other := Option.some.inj (h.symm.trans hOther)
    exact ⟨hReached, hSame.symm⟩
  · intro hBoth
    exact ⟨session, h, hBoth.2.symm, hBoth.1⟩

theorem revokesDevice_iff {step : CloudStep} {target : Uuid}
    (h : step.call = .revokeDevice target) (deviceId : Uuid) :
    step.RevokesDevice deviceId ↔
      StoreFault.reached step.fault 1 = true ∧ deviceId = target := by
  constructor
  · intro hStep
    cases h.symm.trans hStep.call
    exact ⟨hStep.written, rfl⟩
  · intro hBoth
    obtain ⟨hReached, rfl⟩ := hBoth
    exact ⟨h, hReached⟩

/-- A step without a session is none of those that made one. -/
theorem mem_of_made [UuidCrate] {config : CloudServerConfig} {steps : List CloudStep}
    {step other : CloudStep} {session : CloudSession} (h : step.newSession config = none)
    (hMem : other ∈ steps ++ [step]) (hMade : other.newSession config = some session) :
    other ∈ steps := by
  rcases List.mem_append.mp hMem with hEarly | hLast
  · exact hEarly
  · rw [List.mem_singleton.mp hLast, h] at hMade
    cases hMade

/-- What a step makes of a state, given what pairing and revoking do. -/
def effect [UuidCrate] (config : CloudServerConfig) (step : CloudStep) {State : Type}
    (state : State) (pair : CloudSession → State) (revoke : Uuid → State) : State :=
  match step.call with
  | .pairDevice _ _ _ => ((step.newSession config).map pair).getD state
  | .revokeDevice deviceId => revoke deviceId
  | .operation _ _ => state

theorem effect_cases [UuidCrate] (config : CloudServerConfig) (step : CloudStep) {State : Type}
    (state : State) (pair : CloudSession → State) (revoke : Uuid → State) :
    (step.newSession config = none ∧ (∀ deviceId, ¬ step.RevokesDevice deviceId) ∧
      step.effect config state pair revoke = state) ∨
    (∃ session, step.newSession config = some session ∧
      step.effect config state pair revoke = pair session) ∨
    ∃ deviceId, step.call = .revokeDevice deviceId ∧
      step.effect config state pair revoke = revoke deviceId := by
  have hOther : (∀ deviceId, step.call ≠ .revokeDevice deviceId) →
      ∀ deviceId, ¬ step.RevokesDevice deviceId :=
    fun h deviceId hRevokes => h deviceId hRevokes.call
  cases hCall : step.call with
  | pairDevice request issuedAt random =>
      cases hMade : step.newSession config with
      | none => exact Or.inl ⟨rfl, hOther (by simp [hCall]), by simp [effect, hCall, hMade]⟩
      | some session => exact Or.inr (Or.inl ⟨session, rfl, by simp [effect, hCall, hMade]⟩)
  | revokeDevice deviceId => exact Or.inr (Or.inr ⟨deviceId, rfl, by simp [effect, hCall]⟩)
  | operation operation now =>
      exact Or.inl ⟨by simp [newSession, hCall], hOther (by simp [hCall]), by simp [effect, hCall]⟩

theorem not_revokes_of_made [UuidCrate] {config : CloudServerConfig} {step : CloudStep}
    {session : CloudSession} (h : step.newSession config = some session) (deviceId : Uuid) :
    ¬ step.RevokesDevice deviceId := by
  intro hRevokes
  rw [newSession, hRevokes.call] at h
  cases h

end CloudStep

/-- The token of a session was issued, and the device was revoked later; these
are the steps since. -/
def RevokedAfterIssue [UuidCrate] (config : CloudServerConfig) (session : CloudSession)
    (steps after : List CloudStep) : Prop :=
  ∃ before issue middle revoke, steps = before ++ issue :: (middle ++ revoke :: after) ∧
    issue.Issues config session ∧ revoke.RevokesDevice session.deviceId

/-- The history of a token that is issued and revoked, step by step. -/
theorem revokedAfterIssue_snoc [UuidCrate] {config : CloudServerConfig}
    {steps after : List CloudStep} {step : CloudStep} {session : CloudSession}
    (h : RevokedAfterIssue config session (steps ++ [step]) after) :
    (∃ earlier, RevokedAfterIssue config session steps earlier) ∨
      (step.RevokesDevice session.deviceId ∧
        ∃ issue ∈ steps, issue.newSession config = some session) := by
  obtain ⟨before, issue, middle, revoke, hSteps, hIssue, hRevoke⟩ := h
  rw [← List.cons_append, ← List.append_assoc] at hSteps
  rcases split_snoc hSteps with ⟨_, rfl, rfl⟩ | ⟨rest, _, rfl⟩
  · exact Or.inr ⟨hRevoke, issue, by simp, hIssue.made⟩
  · exact Or.inl ⟨rest, before, issue, middle, revoke, by simp, hIssue, hRevoke⟩

/-- Every operation with a token is refused. -/
def RefusesToken (check : CloudOperation → DateTime → Except CloudSyncError (Option CloudSession))
    (token : String) (now : DateTime) : Prop :=
  ∀ operation : CloudOperation, operation.auth = some ⟨token⟩ →
    check operation now = .error .unauthenticated

/-- A token is refused for every operation if it is for the status. -/
theorem refusesToken_iff (authorize : DateTime → CloudAuth → Except CloudSyncError CloudSession)
    (token : String) (now : DateTime) :
    RefusesToken (fun operation now => operation.check (authorize now)) token now ↔
      authorize now ⟨token⟩ = .error .unauthenticated := by
  constructor
  · intro h
    have hAuth : (CloudOperation.status (some ⟨token⟩)).auth = some ⟨token⟩ := rfl
    have hStatus : (CloudOperation.status (some ⟨token⟩)).check (authorize now) =
        .error .unauthenticated := h _ hAuth
    cases hToken : authorize now ⟨token⟩ with
    | error error =>
        rw [CloudOperation.check_of_refused hAuth hToken] at hStatus
        cases hStatus
        rfl
    | ok session =>
        simp [CloudOperation.check, CloudOperation.auth, CloudOperation.logbookId, hToken,
          Except.map] at hStatus
  · intro h operation hAuth
    exact CloudOperation.check_of_refused hAuth h

section Steps
variable [UuidCrate] (config : CloudServerConfig)

/-- Calls of the server in memory, where no database can fail. -/
def memoryCloudSystem : System CloudAuthState CloudStep where
  step state label later :=
    label.fault = none ∧
      (later, label.reply) = InMemoryCloudSyncServer.perform config state label.call

variable {config}

theorem memory_effect {state later : CloudAuthState} {label : CloudStep}
    (h : (memoryCloudSystem config).step state label later) :
    later = label.effect config state
      (fun session => { state with
        sessionsByToken := state.sessionsByToken.insert session.syncToken session })
      (InMemoryCloudSyncServer.revokeDevice state) := by
  have hLater : later = (InMemoryCloudSyncServer.perform config state label.call).1 :=
    congrArg Prod.fst h.2
  cases hCall : label.call with
  | pairDevice request issuedAt random =>
      rw [hCall] at hLater
      simp only [InMemoryCloudSyncServer.perform, InMemoryCloudSyncServer.pairDevice] at hLater
      rw [hLater, CloudStep.effect, CloudStep.newSession, hCall]
      by_cases hCode : request.pairingCode = config.pairingCode
      · cases hSession : newCloudSession config request issuedAt random <;>
          simp [hCode, hSession]
      · simp [hCode]
  | revokeDevice deviceId =>
      rw [hCall] at hLater
      rw [hLater, CloudStep.effect, hCall]
      rfl
  | operation operation now =>
      rw [hCall] at hLater
      rw [hLater, CloudStep.effect, hCall]
      rfl

end Steps

section Runs
variable [UuidCrate] [Sha2Crate] (config : CloudServerConfig)

/-- Calls of the durable server one after the other. -/
def durableCloudSystem : System CloudTables CloudStep where
  step tables label later :=
    (later, label.reply) = DurableCloudSyncServer.perform config tables label.fault label.call

/-- The tokens of a run have different hashes. Each has a random identifier in
it. -/
def FreshTokens (steps : List CloudStep) : Prop :=
  ((steps.filterMap (CloudStep.newSession config)).map fun session =>
    CloudTables.syncTokenHash session.syncToken).Nodup

variable {config}

theorem FreshTokens.init {steps : List CloudStep} {step : CloudStep}
    (h : FreshTokens config (steps ++ [step])) : FreshTokens config steps := by
  rw [FreshTokens, List.filterMap_append, List.map_append] at h
  exact (List.nodup_append.mp h).1

/-- A new token has another hash than every token before. -/
theorem FreshTokens.ne {steps : List CloudStep} {step earlier : CloudStep}
    (h : FreshTokens config (steps ++ [step])) {session old : CloudSession}
    (hMade : step.newSession config = some session) (hMem : earlier ∈ steps)
    (hOld : earlier.newSession config = some old) :
    CloudTables.syncTokenHash old.syncToken ≠ CloudTables.syncTokenHash session.syncToken := by
  rw [FreshTokens, List.filterMap_append, List.map_append] at h
  refine (List.nodup_append.mp h).2.2 _ ?_ _ ?_
  · exact List.mem_map_of_mem (List.mem_filterMap.mpr ⟨earlier, hMem, hOld⟩)
  · simp [hMade]

theorem durable_effect {tables later : CloudTables} {label : CloudStep}
    (h : (durableCloudSystem config).step tables label later) :
    later = label.effect config tables
      (fun session => (tables.saveSession session label.fault).1)
      (fun deviceId => (tables.revokeDevice deviceId label.fault).1) := by
  have hPerform : (later, label.reply) =
      DurableCloudSyncServer.perform config tables label.fault label.call := h
  have hLater : later =
      (DurableCloudSyncServer.perform config tables label.fault label.call).1 :=
    congrArg Prod.fst hPerform
  cases hCall : label.call with
  | pairDevice request issuedAt random =>
      rw [hCall] at hLater
      simp only [DurableCloudSyncServer.perform, DurableCloudSyncServer.pairDevice] at hLater
      rw [hLater, CloudStep.effect, CloudStep.newSession, hCall]
      by_cases hCode : request.pairingCode = config.pairingCode
      · cases hSession : newCloudSession config request issuedAt random with
        | none => simp [hCode, hSession]
        | some session =>
            cases hSave : tables.saveSession session label.fault with
            | mk saved result => cases result <;> simp [hCode, hSession, hSave]
      · simp [hCode]
  | revokeDevice deviceId =>
      rw [hCall] at hLater
      rw [hLater, CloudStep.effect, hCall]
      rfl
  | operation operation now =>
      rw [hCall] at hLater
      rw [hLater, CloudStep.effect, hCall]
      rfl

/-- What the tables record of a run. -/
structure RecordsSessions (config : CloudServerConfig) (steps : List CloudStep)
    (tables : CloudTables) : Prop where
  keyed : ∀ key row, tables.sessions.lookup key = some row →
    CloudTables.syncTokenHash row.payload.syncToken = key
  device : ∀ deviceId row, tables.devices.lookup deviceId = some row →
    row.deviceId = deviceId ∧ row.payload.deviceId = deviceId
  stored : ∀ step ∈ steps, ∀ session, step.newSession config = some session →
    StoreFault.reached step.fault 1 = true →
    ∃ row, tables.sessions.lookup (CloudTables.syncTokenHash session.syncToken) = some row ∧
      row.payload = session
  paired : ∀ step ∈ steps, ∀ deviceId, step.PairsDevice config deviceId →
    ∃ row, tables.devices.lookup deviceId = some row
  revoked : ∀ deviceId row, tables.devices.lookup deviceId = some row →
    (row.revoked = false ↔
      Since (CloudStep.PairsDevice config deviceId) (CloudStep.RevokesDevice deviceId) steps)

theorem recordsSessions_empty : RecordsSessions config [] {} where
  keyed _ _ h := by cases h
  device _ _ h := by cases h
  stored _ h := absurd h List.not_mem_nil
  paired _ h := absurd h List.not_mem_nil
  revoked _ _ h := by cases h

/-- A step that makes no session and revokes no device changes no record. -/
theorem RecordsSessions.unchanged {steps : List CloudStep} {tables : CloudTables}
    (h : RecordsSessions config steps tables) {step : CloudStep}
    (hMade : step.newSession config = none) (hRevokes : ∀ deviceId, ¬ step.RevokesDevice deviceId) :
    RecordsSessions config (steps ++ [step]) tables where
  keyed := h.keyed
  device := h.device
  stored other hMem session hSession hReached :=
    h.stored other (CloudStep.mem_of_made hMade hMem hSession) session hSession hReached
  paired other hMem deviceId hPaired := by
    obtain ⟨session, hSession, _⟩ := id hPaired
    exact h.paired other (CloudStep.mem_of_made hMade hMem hSession) deviceId hPaired
  revoked deviceId row hRow := by
    rw [since_snoc, h.revoked deviceId row hRow]
    simp [CloudStep.not_pairs_of_none hMade deviceId, hRevokes deviceId]

theorem RecordsSessions.made {steps : List CloudStep} {tables : CloudTables}
    (h : RecordsSessions config steps tables) {step : CloudStep} {session : CloudSession}
    (hFresh : FreshTokens config (steps ++ [step]))
    (hMade : step.newSession config = some session) :
    RecordsSessions config (steps ++ [step]) (tables.saveSession session step.fault).1 where
  keyed key row hRow := by
    rw [CloudTables.lookup_sessions_saveSession] at hRow
    split at hRow
    · rename_i hNew
      cases hRow
      exact hNew.2.symm
    · exact h.keyed key row hRow
  device deviceId row hRow := by
    rw [CloudTables.lookup_devices_saveSession] at hRow
    split at hRow
    · rename_i hNew
      cases hRow
      exact ⟨hNew.2.symm, hNew.2.symm⟩
    · exact h.device deviceId row hRow
  stored other hMem stored hStored hReached := by
    rw [CloudTables.lookup_sessions_saveSession]
    rcases List.mem_append.mp hMem with hEarly | hLast
    · have hOther := hFresh.ne hMade hEarly hStored
      rw [if_neg fun hBoth => hOther hBoth.2]
      exact h.stored other hEarly stored hStored hReached
    · rw [List.mem_singleton.mp hLast] at hStored hReached
      obtain rfl : session = stored := Option.some.inj (hMade.symm.trans hStored)
      rw [if_pos ⟨hReached, rfl⟩]
      exact ⟨_, rfl, rfl⟩
  paired other hMem deviceId hPaired := by
    rw [CloudTables.lookup_devices_saveSession]
    split
    · exact ⟨_, rfl⟩
    · rename_i hOther
      rcases List.mem_append.mp hMem with hEarly | hLast
      · exact h.paired other hEarly deviceId hPaired
      · rw [List.mem_singleton.mp hLast, CloudStep.pairsDevice_iff hMade] at hPaired
        exact absurd hPaired hOther
  revoked deviceId row hRow := by
    rw [since_snoc, CloudStep.pairsDevice_iff hMade]
    rw [CloudTables.lookup_devices_saveSession] at hRow
    split at hRow
    · rename_i hNew
      cases hRow
      exact iff_of_true rfl (Or.inl hNew)
    · rename_i hOther
      rw [h.revoked deviceId row hRow]
      simp [hOther, CloudStep.not_revokes_of_made hMade deviceId]

/-- A revocation that was written marks the row of its device. -/
theorem RecordsSessions.mark {steps : List CloudStep} {tables : CloudTables}
    (h : RecordsSessions config steps tables) {step : CloudStep} {target : Uuid}
    (hCall : step.call = .revokeDevice target) (hReached : StoreFault.reached step.fault 1 = true) :
    RecordsSessions config (steps ++ [step]) (CloudTables.mergeRevoked target tables) := by
  have hMade : step.newSession config = none := by
    rw [CloudStep.newSession, hCall]
  constructor
  case keyed => exact h.keyed
  case device =>
    intro deviceId row hRow
    rw [CloudTables.lookup_mergeRevoked] at hRow
    obtain ⟨old, hOld, rfl⟩ := Option.map_eq_some_iff.mp hRow
    have hKept := h.device deviceId old hOld
    split <;> exact hKept
  case stored =>
    intro other hMem stored hStored hWritten
    exact h.stored other (CloudStep.mem_of_made hMade hMem hStored) stored hStored hWritten
  case paired =>
    intro other hMem deviceId hPaired
    obtain ⟨session, hSession, _⟩ := id hPaired
    obtain ⟨row, hRow⟩ :=
      h.paired other (CloudStep.mem_of_made hMade hMem hSession) deviceId hPaired
    rw [CloudTables.lookup_mergeRevoked, hRow]
    exact ⟨_, rfl⟩
  case revoked =>
    intro deviceId row hRow
    rw [CloudTables.lookup_mergeRevoked] at hRow
    obtain ⟨old, hOld, rfl⟩ := Option.map_eq_some_iff.mp hRow
    rw [since_snoc, CloudStep.revokesDevice_iff hCall]
    by_cases hSame : deviceId = target
    · simp [hSame, hReached, CloudStep.not_pairs_of_none hMade target]
    · rw [if_neg hSame, h.revoked deviceId old hOld]
      simp [hSame, CloudStep.not_pairs_of_none hMade deviceId]

theorem RecordsSessions.revoke {steps : List CloudStep} {tables : CloudTables}
    (h : RecordsSessions config steps tables) {step : CloudStep} {target : Uuid}
    (hCall : step.call = .revokeDevice target) :
    RecordsSessions config (steps ++ [step]) (tables.revokeDevice target step.fault).1 := by
  have hMade : step.newSession config = none := by
    rw [CloudStep.newSession, hCall]
  rw [CloudTables.tables_revokeDevice]
  by_cases hReached : StoreFault.reached step.fault 1 = true
  · rw [if_pos hReached]
    exact h.mark hCall hReached
  · rw [if_neg hReached]
    refine h.unchanged hMade fun deviceId hStep => ?_
    exact hReached ((CloudStep.revokesDevice_iff hCall deviceId).mp hStep).1

theorem recordsSessions_of_run {steps : List CloudStep} {tables : CloudTables}
    (run : Run (durableCloudSystem config) {} steps tables) (hFresh : FreshTokens config steps) :
    RecordsSessions config steps tables := by
  refine run.history (P := fun seen tables => FreshTokens config seen →
    RecordsSessions config seen tables) (fun _ => recordsSessions_empty) ?_ hFresh
  intro seen before step after hBefore hStep hSeen
  have hRecords := hBefore hSeen.init
  rw [durable_effect hStep]
  rcases CloudStep.effect_cases config step before
    (fun session => (before.saveSession session step.fault).1)
    (fun deviceId => (before.revokeDevice deviceId step.fault).1) with
    ⟨hMade, hRevokes, hSame⟩ | ⟨session, hMade, hSaved⟩ | ⟨deviceId, hCall, hRevoked⟩
  · rw [hSame]
    exact hRecords.unchanged hMade hRevokes
  · rw [hSaved]
    exact hRecords.made hSeen hMade
  · rw [hRevoked]
    exact hRecords.revoke hCall

/-- The session of a token, from the rows of the token and of the device. -/
theorem RecordsSessions.session_eq {steps : List CloudStep} {tables : CloudTables}
    (h : RecordsSessions config steps tables) {row : SyncSessionRow} {device : SyncDeviceRow}
    {token : String} (now : DateTime)
    (hRow : tables.sessions.lookup (CloudTables.syncTokenHash token) = some row)
    (hDevice : tables.devices.lookup row.payload.deviceId = some device) :
    tables.session ⟨token⟩ now =
      if cloudSessionIsExpired row.payload now = true ∨ device.revoked = true then
        .error .unauthenticated
      else .ok row.payload := by
  have hSession := KeyMap.find?_values
    (fun row : SyncSessionRow => CloudTables.syncTokenHash row.payload.syncToken) h.keyed
    (CloudTables.syncTokenHash token)
  have hPayload := KeyMap.find?_values (fun device : SyncDeviceRow => device.payload.deviceId)
    (fun deviceId device hFound => (h.device deviceId device hFound).2) row.payload.deviceId
  have hRevoked := KeyMap.find?_values SyncDeviceRow.deviceId
    (fun deviceId device hFound => (h.device deviceId device hFound).1) row.payload.deviceId
  have hSame := (h.device _ device hDevice).2
  rw [hRow] at hSession
  rw [hDevice] at hPayload hRevoked
  unfold CloudTables.session
  rw [hSession]
  by_cases hExpired : cloudSessionIsExpired row.payload now = true
  · simp [hExpired]
  · simp [hExpired, hPayload, hRevoked, hSame]

theorem durable_refuses_iff {steps after : List CloudStep} {tables : CloudTables}
    {session : CloudSession} (h : RecordsSessions config steps tables)
    (hRevoked : RevokedAfterIssue config session steps after) (now : DateTime) :
    RefusesToken (DurableCloudSyncServer.check tables) session.syncToken now ↔
      cloudSessionIsExpired session now = true ∨
        ¬ Since (CloudStep.PairsDevice config session.deviceId)
          (CloudStep.RevokesDevice session.deviceId) after := by
  obtain ⟨before, issue, middle, revoke, rfl, hIssue, hRevoke⟩ := hRevoked
  have hMem : issue ∈ before ++ issue :: (middle ++ revoke :: after) :=
    List.mem_append_right _ List.mem_cons_self
  obtain ⟨row, hRow, rfl⟩ := h.stored issue hMem session hIssue.made (by rw [hIssue.saved]; rfl)
  obtain ⟨device, hDevice⟩ := h.paired issue hMem row.payload.deviceId
    ⟨row.payload, hIssue.made, rfl, by rw [hIssue.saved]; rfl⟩
  have hSince := h.revoked _ device hDevice
  rw [← List.cons_append, ← List.append_assoc,
    since_of_stopped hRevoke (CloudStep.not_pairs_of_revokes hRevoke)] at hSince
  rw [← hSince]
  refine (refusesToken_iff (fun now auth => tables.session auth now) _ now).trans ?_
  rw [h.session_eq now hRow hDevice]
  cases cloudSessionIsExpired row.payload now <;> cases device.revoked <;> simp

end Runs

/-! The server in memory forgets the tokens of a device that is revoked. -/

section Memory
variable [UuidCrate] {config : CloudServerConfig}

/-- What the memory records of a run. -/
structure RecordsMemory (config : CloudServerConfig) (steps : List CloudStep)
    (state : CloudAuthState) : Prop where
  issued : ∀ step ∈ steps, ∀ session found, step.newSession config = some session →
    state.sessionsByToken.lookup session.syncToken = some found → found = session
  revoked : ∀ session after, RevokedAfterIssue config session steps after →
    state.sessionsByToken.lookup session.syncToken = none

theorem RecordsMemory.unchanged {steps : List CloudStep} {state : CloudAuthState}
    (h : RecordsMemory config steps state) {step : CloudStep}
    (hMade : step.newSession config = none) (hRevokes : ∀ deviceId, ¬ step.RevokesDevice deviceId) :
    RecordsMemory config (steps ++ [step]) state where
  issued other hMem stored found hStored hFound :=
    h.issued other (CloudStep.mem_of_made hMade hMem hStored) stored found hStored hFound
  revoked stored after hHistory := by
    rcases revokedAfterIssue_snoc hHistory with ⟨earlier, hEarlier⟩ | ⟨hRevoke, _⟩
    · exact h.revoked stored earlier hEarlier
    · exact absurd hRevoke (hRevokes _)

theorem RecordsMemory.revoke {steps : List CloudStep} {state : CloudAuthState}
    (h : RecordsMemory config steps state) {step : CloudStep} {target : Uuid}
    (hCall : step.call = .revokeDevice target) :
    RecordsMemory config (steps ++ [step])
      (InMemoryCloudSyncServer.revokeDevice state target) := by
  have hMade : step.newSession config = none := by
    rw [CloudStep.newSession, hCall]
  have hLookup : ∀ token, (InMemoryCloudSyncServer.revokeDevice state
      target).sessionsByToken.lookup token = (state.sessionsByToken.lookup token).filter
        fun session => session.deviceId ≠ target :=
    fun token => KeyMap.lookup_retain _ _ token
  constructor
  case issued =>
    intro other hMem stored found hStored hFound
    rw [hLookup, Option.filter_eq_some_iff] at hFound
    exact h.issued other (CloudStep.mem_of_made hMade hMem hStored) stored found hStored hFound.1
  case revoked =>
    intro stored after hHistory
    rw [hLookup]
    rcases revokedAfterIssue_snoc hHistory with ⟨earlier, hEarlier⟩ |
      ⟨hRevoke, issue, hMem, hStored⟩
    · rw [h.revoked stored earlier hEarlier]
      rfl
    · cases hCall.symm.trans hRevoke.call
      cases hFound : state.sessionsByToken.lookup stored.syncToken with
      | none => rfl
      | some found =>
          obtain rfl := h.issued issue hMem stored found hStored hFound
          simp

variable [Sha2Crate]

theorem RecordsMemory.made {steps : List CloudStep} {state : CloudAuthState}
    (h : RecordsMemory config steps state) {step : CloudStep} {session : CloudSession}
    (hFresh : FreshTokens config (steps ++ [step]))
    (hMade : step.newSession config = some session) :
    RecordsMemory config (steps ++ [step]) { state with
      sessionsByToken := state.sessionsByToken.insert session.syncToken session } := by
  -- a new token is none of those issued before
  have hOther : ∀ other ∈ steps, ∀ stored, other.newSession config = some stored →
      (state.sessionsByToken.insert session.syncToken session).lookup stored.syncToken =
        state.sessionsByToken.lookup stored.syncToken := by
    intro other hMem stored hStored
    have hApart : stored.syncToken ≠ session.syncToken := fun hSame =>
      hFresh.ne hMade hMem hStored (congrArg CloudTables.syncTokenHash hSame)
    rw [AList.lookup_insert_ne hApart]
  constructor
  case issued =>
    intro other hMem stored found hStored hFound
    rcases List.mem_append.mp hMem with hEarly | hLast
    · rw [hOther other hEarly stored hStored] at hFound
      exact h.issued other hEarly stored found hStored hFound
    · rw [List.mem_singleton.mp hLast] at hStored
      obtain rfl : session = stored := Option.some.inj (hMade.symm.trans hStored)
      rw [AList.lookup_insert] at hFound
      exact (Option.some.inj hFound).symm
  case revoked =>
    intro stored after hHistory
    rcases revokedAfterIssue_snoc hHistory with ⟨earlier, hEarlier⟩ | ⟨hRevoke, _⟩
    · obtain ⟨before, issue, middle, revoke, hSteps, hIssue, _⟩ := id hEarlier
      have hMem : issue ∈ steps := by
        rw [hSteps]
        exact List.mem_append_right _ List.mem_cons_self
      rw [hOther issue hMem stored hIssue.made]
      exact h.revoked stored earlier hEarlier
    · exact absurd hRevoke (CloudStep.not_revokes_of_made hMade _)

theorem recordsMemory_of_run {steps : List CloudStep} {state : CloudAuthState}
    (run : Run (memoryCloudSystem config) {} steps state) (hFresh : FreshTokens config steps) :
    RecordsMemory config steps state := by
  refine run.history (P := fun seen state => FreshTokens config seen →
    RecordsMemory config seen state)
    (fun _ => ⟨fun _ h => absurd h List.not_mem_nil, fun _ _ _ => rfl⟩) ?_ hFresh
  intro seen before step after hBefore hStep hSeen
  have hRecords := hBefore hSeen.init
  rw [memory_effect hStep]
  rcases CloudStep.effect_cases config step before
    (fun session => { before with
      sessionsByToken := before.sessionsByToken.insert session.syncToken session })
    (InMemoryCloudSyncServer.revokeDevice before) with
    ⟨hMade, hRevokes, hSame⟩ | ⟨session, hMade, hSaved⟩ | ⟨deviceId, hCall, hRevoked⟩
  · rw [hSame]
    exact hRecords.unchanged hMade hRevokes
  · rw [hSaved]
    exact hRecords.made hSeen hMade
  · rw [hRevoked]
    exact hRecords.revoke hCall

/-- A token that was issued to a device which was revoked later is refused
from then on, unless the device is paired again. Then it is good until it
expires. The server in memory refuses it in any case. -/
theorem revoked_token_refused_iff (config : CloudServerConfig) :
    (∀ steps tables, Run (durableCloudSystem config) {} steps tables → FreshTokens config steps →
      ∀ session after, RevokedAfterIssue config session steps after → ∀ now,
        (RefusesToken (DurableCloudSyncServer.check tables) session.syncToken now ↔
          cloudSessionIsExpired session now = true ∨
            ¬ Since (CloudStep.PairsDevice config session.deviceId)
              (CloudStep.RevokesDevice session.deviceId) after)) ∧
    ∀ steps state, Run (memoryCloudSystem config) {} steps state → FreshTokens config steps →
      ∀ session after, RevokedAfterIssue config session steps after → ∀ now,
        RefusesToken (InMemoryCloudSyncServer.check state) session.syncToken now := by
  constructor
  · intro steps tables run hFresh session after hRevoked now
    exact durable_refuses_iff (recordsSessions_of_run run hFresh) hRevoked now
  · intro steps state run hFresh session after hRevoked now
    have hNone := (recordsMemory_of_run run hFresh).revoked session after hRevoked
    refine (refusesToken_iff (fun now auth => InMemoryCloudSyncServer.authorize state auth now)
      _ now).mpr ?_
    rw [InMemoryCloudSyncServer.authorize, hNone]

end Memory

section
open Crates

def sampleConfig : CloudServerConfig where
  pairingCode := "code"
  syncSessionTtlSeconds := none

def samplePairing : PairDeviceRequest where
  pairingCode := "code"
  accountId := "account"
  userId := "user"
  deviceId := 1
  deviceName := "laptop"
  requestedLogbooks := [2]

/-- The session that the pairing makes with a random identifier. -/
def sampleSession (random : Uuid) : CloudSession where
  accountId := "account"
  userId := "user"
  deviceId := 1
  deviceName := "laptop"
  syncToken := "sync-" ++ "account" ++ "-" ++ displayUuid random
  authorizedLogbooks := [2]
  issuedAt := epoch
  expiresAt := none

def pairingStep (random : Uuid) : CloudStep where
  call := .pairDevice samplePairing epoch random
  reply := .paired (some (acceptedPairing (sampleSession random)))

def revocationStep : CloudStep where
  call := .revokeDevice 1
  reply := .revoked (.ok ())

theorem newSession_pairingStep (random : Uuid) :
    (pairingStep random).newSession sampleConfig = some (sampleSession random) := by
  simp [CloudStep.newSession, pairingStep, samplePairing, sampleConfig]
  rfl

theorem pairingStep_step (tables : CloudTables) (random : Uuid) :
    (durableCloudSystem sampleConfig).step tables (pairingStep random)
      (tables.saveSession (sampleSession random) none).1 := by
  have hSession : newCloudSession sampleConfig samplePairing epoch random =
      some (sampleSession random) := rfl
  have hCode : samplePairing.pairingCode = sampleConfig.pairingCode := rfl
  show _ = DurableCloudSyncServer.perform sampleConfig tables none
    (.pairDevice samplePairing epoch random)
  rw [DurableCloudSyncServer.perform, DurableCloudSyncServer.pairDevice, if_neg (not_not.mpr hCode),
    hSession]
  rfl

theorem revocationStep_step (tables : CloudTables) :
    (durableCloudSystem sampleConfig).step tables revocationStep
      (CloudTables.mergeRevoked 1 tables) := rfl

theorem revoked_token_refused_laptop :
    let tables := CloudTables.mergeRevoked 1 (CloudTables.saveSession {} (sampleSession 1) none).1
    RefusesToken (DurableCloudSyncServer.check tables) (sampleSession 1).syncToken epoch := by
  intro tables
  have hRun : Run (durableCloudSystem sampleConfig) {} [pairingStep 1, revocationStep] tables :=
    Run.snoc (Run.single (pairingStep_step {} 1)) (revocationStep_step _)
  have hNone : revocationStep.newSession sampleConfig = none := rfl
  have hFresh : FreshTokens sampleConfig [pairingStep 1, revocationStep] := by
    simp [FreshTokens, newSession_pairingStep, hNone]
  have hRevoked : RevokedAfterIssue sampleConfig (sampleSession 1)
      [pairingStep 1, revocationStep] [] :=
    ⟨[], _, [], _, rfl, ⟨newSession_pairingStep 1, rfl⟩, ⟨rfl, rfl⟩⟩
  exact ((revoked_token_refused_iff sampleConfig).1 _ _ hRun hFresh _ _ hRevoked epoch).mpr
    (Or.inr (Transition.not_since_nil _ _))

/-- Once a revoked device is paired again, its old token is good as well. -/
theorem repaired_device_revives_token :
    let revoked := CloudTables.mergeRevoked 1 (CloudTables.saveSession {} (sampleSession 1) none).1
    let tables := (revoked.saveSession (sampleSession 2) none).1
    let steps := [pairingStep 1, revocationStep, pairingStep 2]
    Run (durableCloudSystem sampleConfig) {} steps tables ∧
      RevokedAfterIssue sampleConfig (sampleSession 1) steps [pairingStep 2] ∧
      (sampleSession 1).syncToken ≠ (sampleSession 2).syncToken ∧
      ∀ now, ∃ session, DurableCloudSyncServer.check tables
        (.status (some ⟨(sampleSession 1).syncToken⟩)) now = .ok (some session) := by
  intro revoked tables steps
  refine ⟨?_, ?_, by decide, ?_⟩
  · exact Run.snoc (Run.snoc (Run.single (pairingStep_step {} 1)) (revocationStep_step _))
      (pairingStep_step revoked 2)
  · exact ⟨[], _, [], _, rfl, ⟨newSession_pairingStep 1, rfl⟩, ⟨rfl, rfl⟩⟩
  · intro now
    obtain ⟨first, hFirst⟩ : ∃ hash, hash = CloudTables.syncTokenHash (sampleSession 1).syncToken :=
      ⟨_, rfl⟩
    obtain ⟨second, hSecond⟩ :
        ∃ hash, hash = CloudTables.syncTokenHash (sampleSession 2).syncToken := ⟨_, rfl⟩
    have hLookup : ∀ key, tables.sessions.lookup key =
        if key = second then some { revoked := false, payload := sampleSession 2 }
        else if key = first then some { revoked := false, payload := sampleSession 1 }
        else none := by
      intro key
      have hTables : tables.sessions = (AList.insert first ⟨false, sampleSession 1⟩ ∅).insert
          second ⟨false, sampleSession 2⟩ := by
        rw [hFirst, hSecond]
        rfl
      rw [hTables, KeyMap.lookup_insert_eq_ite, KeyMap.lookup_insert_eq_ite, AList.lookup_empty]
    have hKeyed : ∀ key row, tables.sessions.lookup key = some row →
        CloudTables.syncTokenHash row.payload.syncToken = key ∧
          (row.payload = sampleSession 1 ∨ row.payload = sampleSession 2) := by
      intro key row hRow
      rw [hLookup] at hRow
      split_ifs at hRow with hNew hOld
      · cases hRow
        exact ⟨hSecond.symm.trans hNew.symm, Or.inr rfl⟩
      · cases hRow
        exact ⟨hFirst.symm.trans hOld.symm, Or.inl rfl⟩
    obtain ⟨row, hRow⟩ : ∃ row, tables.sessions.lookup first = some row := by
      rw [hLookup]
      split
      · exact ⟨_, rfl⟩
      · rw [if_pos rfl]
        exact ⟨_, rfl⟩
    have hFound := KeyMap.find?_values
      (fun row : SyncSessionRow => CloudTables.syncTokenHash row.payload.syncToken)
      (fun key row h => (hKeyed key row h).1) first
    rw [hRow, hFirst] at hFound
    have hPayload : row.payload.deviceId = 1 ∧ row.payload.expiresAt = none := by
      rcases (hKeyed first row hRow).2 with hOld | hNew
      · rw [hOld]
        exact ⟨rfl, rfl⟩
      · rw [hNew]
        exact ⟨rfl, rfl⟩
    obtain ⟨latest, hDevices, hDevice⟩ : ∃ latest : CloudSession,
        tables.devices.values = [⟨1, false, latest⟩] ∧ latest.deviceId = 1 := ⟨_, rfl, rfl⟩
    have hSession : tables.session ⟨(sampleSession 1).syncToken⟩ now = .ok row.payload := by
      unfold CloudTables.session
      rw [hFound]
      simp [cloudSessionIsExpired, hPayload, hDevices, hDevice]
    refine ⟨row.payload, ?_⟩
    show CloudOperation.check (fun auth => tables.session auth now) _ = _
    simp only [CloudOperation.check, CloudOperation.auth, CloudOperation.logbookId, hSession]
    rfl

end

end HamLogger
