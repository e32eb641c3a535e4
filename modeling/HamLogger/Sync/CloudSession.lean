import HamLogger.Core.Crates
import HamLogger.Library.KeyMap

/-! The sessions of the cloud sync server: pairing a device issues a token,
and every operation of the sync service first looks up the session of the
token that it is called with. The durable server keeps its sessions in tables
of a database, the server for tests keeps them in memory. -/
namespace HamLogger

inductive CloudSyncError where
  | unauthenticated
  | unauthorizedLogbook (logbookId : Uuid)
  | pairingRejected (reason : String)
  | validation (reason : String)
  | store (reason : String)
  deriving DecidableEq

def CloudSyncError.display [UuidCrate] : CloudSyncError → String
  | .unauthenticated => "unauthenticated request"
  | .unauthorizedLogbook logbookId =>
      "unauthorized logbook access: " ++ UuidCrate.display logbookId
  | .pairingRejected reason => "pairing rejected: " ++ reason
  | .validation reason => "cloud event validation failed: " ++ reason
  | .store reason => "cloud store error: " ++ reason

structure PairDeviceRequest where
  pairingCode : String
  accountId : String
  userId : String
  deviceId : Uuid
  deviceName : String
  requestedLogbooks : List Uuid
  deriving DecidableEq

structure CloudSession where
  accountId : String
  userId : String
  deviceId : Uuid
  deviceName : String
  syncToken : String
  authorizedLogbooks : List Uuid
  issuedAt : DateTime
  expiresAt : Option DateTime
  deriving DecidableEq

structure PairDeviceResponse where
  accepted : Bool
  reason : Option String
  session : Option CloudSession
  deriving DecidableEq

structure CloudAuth where
  syncToken : String
  deriving DecidableEq

structure CloudServerConfig where
  publicUrl : String := "http://127.0.0.1:9740"
  pairingCode : String
  syncSessionTtlSeconds : Option Int
  deriving DecidableEq

/-- The expiry of a session. Making a duration panics outside the range of the
chrono crate, and an expiry outside the range of instants is none. -/
def cloudSessionExpiry (issuedAt : DateTime) : Option Int → Option (Option DateTime)
  | none => some none
  | some seconds =>
      if -9223372036854775 ≤ seconds ∧ seconds ≤ 9223372036854775 then
        some (issuedAt.addSeconds seconds)
      else none

def cloudSessionIsExpired (session : CloudSession) (now : DateTime) : Bool :=
  session.expiresAt.any fun expiresAt => expiresAt ≤ now

/-- The operations of the sync service that ask for a token. What they do once
they are authorized touches no session. -/
inductive CloudOperation where
  | listLogbooks (auth : CloudAuth)
  | getHead (auth : CloudAuth) (logbookId : Uuid)
  | eventMetadata (auth : CloudAuth) (logbookId : Uuid)
  | previewPull (auth : CloudAuth) (logbookId : Uuid)
  | pullEvents (auth : CloudAuth) (logbookId : Uuid)
  | pushEvents (auth : CloudAuth) (logbookId : Uuid)
  | uploadReport (auth : CloudAuth)
  | reportMetadata (auth : CloudAuth)
  | status (auth : Option CloudAuth)
  deriving DecidableEq

namespace CloudOperation

/-- The token that an operation is called with. -/
def auth : CloudOperation → Option CloudAuth
  | .listLogbooks auth | .getHead auth _ | .eventMetadata auth _ | .previewPull auth _
  | .pullEvents auth _ | .pushEvents auth _ | .uploadReport auth | .reportMetadata auth =>
      some auth
  | .status auth => auth

/-- The logbook that an operation asks access to. -/
def logbookId : CloudOperation → Option Uuid
  | .getHead _ logbookId | .eventMetadata _ logbookId | .previewPull _ logbookId
  | .pullEvents _ logbookId | .pushEvents _ logbookId => some logbookId
  | .listLogbooks _ | .uploadReport _ | .reportMetadata _ | .status _ => none

end CloudOperation

/-- The check of a logbook that follows the check of a token. -/
def authorizeLogbook (authorized : Except CloudSyncError CloudSession) (logbookId : Uuid) :
    Except CloudSyncError CloudSession :=
  match authorized with
  | .error error => .error error
  | .ok session =>
      if logbookId ∈ session.authorizedLogbooks then .ok session
      else .error (.unauthorizedLogbook logbookId)

/-- The check that an operation starts with, over the check of a token. Only
the status can be asked for without a token. -/
def CloudOperation.check (authorize : CloudAuth → Except CloudSyncError CloudSession)
    (operation : CloudOperation) : Except CloudSyncError (Option CloudSession) :=
  match operation.auth, operation.logbookId with
  | none, _ => .ok none
  | some auth, none => (authorize auth).map some
  | some auth, some logbookId => (authorizeLogbook (authorize auth) logbookId).map some

theorem CloudOperation.check_of_refused {authorize : CloudAuth → Except CloudSyncError CloudSession}
    {operation : CloudOperation} {auth : CloudAuth} {error : CloudSyncError}
    (hAuth : operation.auth = some auth) (h : authorize auth = .error error) :
    operation.check authorize = .error error := by
  unfold CloudOperation.check
  cases hLogbook : operation.logbookId with
  | none => simp [hAuth, h, Except.map]
  | some logbookId => simp [hAuth, h, authorizeLogbook, Except.map]

section Pairing
variable [UuidCrate]

/-- The session that a pairing request asks for, unless making it panics. The
identifier in its token is random. -/
def newCloudSession (config : CloudServerConfig) (request : PairDeviceRequest)
    (issuedAt : DateTime) (random : Uuid) : Option CloudSession :=
  (cloudSessionExpiry issuedAt config.syncSessionTtlSeconds).map fun expiresAt =>
    { accountId := request.accountId, userId := request.userId, deviceId := request.deviceId,
      deviceName := request.deviceName,
      syncToken := "sync-" ++ request.accountId ++ "-" ++ UuidCrate.display random,
      authorizedLogbooks := request.requestedLogbooks, issuedAt := issuedAt,
      expiresAt := expiresAt }

end Pairing

def rejectedPairing (reason : String) : PairDeviceResponse where
  accepted := false
  reason := some reason
  session := none

def acceptedPairing (session : CloudSession) : PairDeviceResponse where
  accepted := true
  reason := none
  session := some session

/-! The durable server. -/

/-- A row of `sync_sessions`. -/
structure SyncSessionRow where
  revoked : Bool
  payload : CloudSession
  deriving DecidableEq

/-- A row of `sync_devices`. -/
structure SyncDeviceRow where
  deviceId : Uuid
  revoked : Bool
  payload : CloudSession
  deriving DecidableEq

/-- A row of `sync_logbook_access`. -/
structure SyncLogbookAccessRow where
  accountId : String
  logbookId : Uuid
  deriving DecidableEq

/-- The tables. A device row has the text of the device identifier as its
record identifier, here the identifier itself. -/
structure CloudTables where
  sessions : KeyMap String SyncSessionRow := ∅
  devices : KeyMap Uuid SyncDeviceRow := ∅
  logbookAccess : KeyMap String SyncLogbookAccessRow := ∅

/-- A failure of the database after some of the writes of a call, with its
message. -/
structure StoreFault where
  written : Nat
  message : String
  deriving DecidableEq

/-- The database carried out this many writes of a call at least. -/
def StoreFault.reached (fault : Option StoreFault) (count : Nat) : Bool :=
  fault.all fun failure => count ≤ failure.written

namespace CloudTables

/-- Carry out the writes of a call one after the other, as far as the database
goes. -/
def commit (tables : CloudTables) (writes : List (CloudTables → CloudTables))
    (fault : Option StoreFault) : CloudTables × Except CloudSyncError Unit :=
  match fault with
  | none => (writes.foldl (fun tables write => write tables) tables, .ok ())
  | some failure =>
      ((writes.take failure.written).foldl (fun tables write => write tables) tables,
        .error (.store failure.message))

section
variable [Sha2Crate]

def syncTokenHash (token : String) : String :=
  bytesToHex (Sha2Crate.digest token.toUTF8.toList)

def putSession (session : CloudSession) (tables : CloudTables) : CloudTables :=
  { tables with
    sessions := tables.sessions.insert (syncTokenHash session.syncToken)
      { revoked := false, payload := session } }

def putDevice (session : CloudSession) (tables : CloudTables) : CloudTables :=
  { tables with
    devices := tables.devices.insert session.deviceId
      { deviceId := session.deviceId, revoked := false, payload := session } }

def putAccess [UuidCrate] (session : CloudSession) (logbookId : Uuid) (tables : CloudTables) :
    CloudTables :=
  { tables with
    logbookAccess := tables.logbookAccess.insert
      (session.accountId ++ "-" ++ UuidCrate.display logbookId)
      { accountId := session.accountId, logbookId := logbookId } }

def saveSession [UuidCrate] (tables : CloudTables) (session : CloudSession)
    (fault : Option StoreFault) : CloudTables × Except CloudSyncError Unit :=
  tables.commit
    (putSession session :: putDevice session :: session.authorizedLogbooks.map (putAccess session))
    fault

/-- The session of a token. -/
def session (tables : CloudTables) (auth : CloudAuth) (now : DateTime) :
    Except CloudSyncError CloudSession :=
  match tables.sessions.values.find? fun row =>
      syncTokenHash row.payload.syncToken = syncTokenHash auth.syncToken with
  | none => .error .unauthenticated
  | some row =>
      if cloudSessionIsExpired row.payload now then .error .unauthenticated
      else match tables.devices.values.find? fun device =>
          device.payload.deviceId = row.payload.deviceId with
        | none => .error .unauthenticated
        | some device =>
            let revoked := ((tables.devices.values.find? fun device =>
              device.deviceId = row.payload.deviceId).map SyncDeviceRow.revoked).getD false
            if revoked ∨ device.payload.deviceId ≠ row.payload.deviceId then
              .error .unauthenticated
            else .ok row.payload

end

/-- Mark a device as revoked, if there is a row for it. -/
def mergeRevoked (deviceId : Uuid) (tables : CloudTables) : CloudTables :=
  { tables with
    devices := tables.devices.modify deviceId fun row => { row with revoked := true } }

def revokeDevice (tables : CloudTables) (deviceId : Uuid) (fault : Option StoreFault) :
    CloudTables × Except CloudSyncError Unit :=
  tables.commit [mergeRevoked deviceId] fault

end CloudTables

inductive CloudCall where
  | pairDevice (request : PairDeviceRequest) (issuedAt : DateTime) (random : Uuid)
  | revokeDevice (deviceId : Uuid)
  | operation (operation : CloudOperation) (now : DateTime)

/-- The result of a call: none where pairing panics. -/
inductive CloudReply where
  | paired (response : Option PairDeviceResponse)
  | revoked (result : Except CloudSyncError Unit)
  | checked (result : Except CloudSyncError (Option CloudSession))

/-- A call that the database carried out or failed in, and what it answered. -/
structure CloudStep where
  call : CloudCall
  fault : Option StoreFault := none
  reply : CloudReply

namespace DurableCloudSyncServer
variable [UuidCrate] [Sha2Crate]

def pairDevice (config : CloudServerConfig) (tables : CloudTables) (request : PairDeviceRequest)
    (issuedAt : DateTime) (random : Uuid) (fault : Option StoreFault) :
    CloudTables × Option PairDeviceResponse :=
  if request.pairingCode ≠ config.pairingCode then
    (tables, some (rejectedPairing "invalid pairing code"))
  else match newCloudSession config request issuedAt random with
    | none => (tables, none)
    | some session =>
        match tables.saveSession session fault with
        | (later, .error error) => (later, some (rejectedPairing error.display))
        | (later, .ok ()) => (later, some (acceptedPairing session))

def check (tables : CloudTables) (operation : CloudOperation) (now : DateTime) :
    Except CloudSyncError (Option CloudSession) :=
  operation.check fun auth => tables.session auth now

/-- What a call does to the tables, and its result. An operation only reads. -/
def perform (config : CloudServerConfig) (tables : CloudTables) (fault : Option StoreFault) :
    CloudCall → CloudTables × CloudReply
  | .pairDevice request issuedAt random =>
      let (later, response) := pairDevice config tables request issuedAt random fault
      (later, .paired response)
  | .revokeDevice deviceId =>
      let (later, result) := tables.revokeDevice deviceId fault
      (later, .revoked result)
  | .operation operation now =>
      (tables, .checked (match fault with
        | some failure => .error (.store failure.message)
        | none => check tables operation now))

end DurableCloudSyncServer

/-! The server that keeps its sessions in memory. -/

structure CloudAuthState where
  sessionsByToken : KeyMap String CloudSession := ∅

namespace InMemoryCloudSyncServer

def pairDevice [UuidCrate] (config : CloudServerConfig) (state : CloudAuthState)
    (request : PairDeviceRequest) (issuedAt : DateTime) (random : Uuid) :
    CloudAuthState × Option PairDeviceResponse :=
  if request.pairingCode ≠ config.pairingCode then
    (state, some (rejectedPairing "invalid pairing code"))
  else match newCloudSession config request issuedAt random with
    | none => (state, none)
    | some session =>
        ({ state with
           sessionsByToken := state.sessionsByToken.insert session.syncToken session },
          some (acceptedPairing session))

def revokeDevice (state : CloudAuthState) (deviceId : Uuid) : CloudAuthState :=
  { state with
    sessionsByToken := state.sessionsByToken.retain fun session => session.deviceId ≠ deviceId }

def authorize (state : CloudAuthState) (auth : CloudAuth) (now : DateTime) :
    Except CloudSyncError CloudSession :=
  match state.sessionsByToken.lookup auth.syncToken with
  | none => .error .unauthenticated
  | some session =>
      if cloudSessionIsExpired session now then .error .unauthenticated else .ok session

def check (state : CloudAuthState) (operation : CloudOperation) (now : DateTime) :
    Except CloudSyncError (Option CloudSession) :=
  operation.check fun auth => authorize state auth now

def perform [UuidCrate] (config : CloudServerConfig) (state : CloudAuthState) :
    CloudCall → CloudAuthState × CloudReply
  | .pairDevice request issuedAt random =>
      let (later, response) := pairDevice config state request issuedAt random
      (later, .paired response)
  | .revokeDevice deviceId => (revokeDevice state deviceId, .revoked (.ok ()))
  | .operation operation now => (state, .checked (check state operation now))

end InMemoryCloudSyncServer

end HamLogger
