import HamLogger.Core.StoreRuns

/-! Pulling events from a peer: finding the missing ones, verifying them as a
chain, and appending them one by one. -/
namespace HamLogger

inductive ReplicationStatus where
  | inSync | remoteAhead | pulled | diverged | rejected
  deriving DecidableEq

inductive ReplicationError where
  | logbookMismatch (eventId expectedLogbookId actualLogbookId : Uuid)
  | previousHashMismatch (eventId : Uuid) (expected actual : Option String)
  | diverged (localHeadHash : Option String)
  | store (error : StoreError)
  deriving DecidableEq

structure PullEventsRequest where
  peerId : String
  logbookId : Uuid
  localHeadHash : Option String
  deriving DecidableEq

structure PullEventsResponse where
  peerId : String
  logbookId : Uuid
  status : ReplicationStatus
  acceptedCount : Nat
  ignoredDuplicateCount : Nat
  rejectedCount : Nat
  localHeadHash : Option String
  remoteHeadHash : Option String
  errors : List String
  deriving DecidableEq

def PullEventsResponse.rejected (request : PullEventsRequest)
    (localHeadHash remoteHeadHash : Option String) (errors : List String) :
    PullEventsResponse where
  peerId := request.peerId
  logbookId := request.logbookId
  status := .rejected
  acceptedCount := 0
  ignoredDuplicateCount := 0
  rejectedCount := errors.length
  localHeadHash := localHeadHash
  remoteHeadHash := remoteHeadHash
  errors := errors

/-- The events after the local head, or nothing when the list does not
contain the local head. -/
def missingEventsAfter (remoteEvents : List CoreEventEnvelope) :
    Option String → Option (List CoreEventEnvelope)
  | none => some remoteEvents
  | some hash =>
      (remoteEvents.findIdx? fun event => event.eventHash == hash).map fun index =>
        remoteEvents.drop (index + 1)

def remoteEventsAreMissingTail (remoteEvents : List CoreEventEnvelope)
    (localHeadHash : Option String) : Bool :=
  match localHeadHash, remoteEvents.head? with
  | some hash, some first => first.previousHash == some hash
  | _, _ => false

/-- The events to apply: those after the local head, or the whole list when
it directly continues the local head. -/
def missingBatch (remoteEvents : List CoreEventEnvelope) (localHeadHash : Option String) :
    Option (List CoreEventEnvelope) :=
  match missingEventsAfter remoteEvents localHeadHash with
  | some events => some events
  | none =>
      if remoteEventsAreMissingTail remoteEvents localHeadHash then some remoteEvents else none

def headHash (events : List CoreEventEnvelope) : Option String :=
  events.getLast?.map CoreEventEnvelope.eventHash

section Verification
variable [CanonicalJson] [Sha2Crate]

def verifyIncomingChain (logbookId : Uuid) :
    Option String → List CoreEventEnvelope → Except ReplicationError Unit
  | _, [] => .ok ()
  | expectedPreviousHash, event :: rest =>
      if event.logbookId ≠ logbookId then
        .error (.logbookMismatch event.eventId logbookId event.logbookId)
      else match validateSupportedRemoteEvent event with
        | .error error => .error (.store error)
        | .ok () =>
            if event.previousHash ≠ expectedPreviousHash then
              .error (.previousHashMismatch event.eventId expectedPreviousHash event.previousHash)
            else verifyIncomingChain logbookId (some event.eventHash) rest

/-- The verification pass checks the logbook, each event and the links. -/
theorem verifyIncomingChain_ok_iff (logbookId : Uuid) (start : Option String)
    (events : List CoreEventEnvelope) :
    verifyIncomingChain logbookId start events = .ok () ↔
      (∀ event ∈ events, event.logbookId = logbookId ∧
        validateSupportedRemoteEvent event = .ok ()) ∧ eventChain.Linked start events := by
  induction events generalizing start with
  | nil => simp [verifyIncomingChain]
  | cons event rest ih =>
      unfold verifyIncomingChain
      by_cases hLogbook : event.logbookId = logbookId
      · cases hValid : validateSupportedRemoteEvent event with
        | error error => simp [hLogbook, hValid]
        | ok _ =>
            by_cases hPrevious : event.previousHash = start
            · simp [hLogbook, hValid, hPrevious, ih]
            · simp [hLogbook, hPrevious]
      · simp [hLogbook]

end Verification

variable [UuidCrate] [RustFmt]

def ReplicationError.toString : ReplicationError → String
  | .logbookMismatch eventId expected actual =>
      "remote event " ++ UuidCrate.display eventId ++ " is for logbook " ++
        UuidCrate.display actual ++ ", expected " ++ UuidCrate.display expected
  | .previousHashMismatch eventId expected actual =>
      "remote event " ++ UuidCrate.display eventId ++ " previous hash " ++ debugOptionStr actual ++
        " does not match expected " ++ debugOptionStr expected
  | .diverged localHeadHash =>
      "remote chain diverged from local head " ++ debugOptionStr localHeadHash
  | .store error => "store error: " ++ error.toString

/-- The status that the verification pass turns an error into. -/
def ReplicationError.status : ReplicationError → ReplicationStatus
  | .diverged _ | .previousHashMismatch .. => .diverged
  | _ => .rejected

section Loop
variable {S : Type} [LogbookEventStore S]

/-- The variables of the append loop. -/
structure PullProgress (S : Type) where
  store : S
  acceptedCount : Nat := 0
  ignoredDuplicateCount : Nat := 0
  errors : List String := []

/-- One turn of the append loop. -/
def applyEvent (progress : PullProgress S) (event : CoreEventEnvelope) : PullProgress S :=
  match LogbookEventStore.getEvent progress.store event.eventId with
  | .ok (some existing) =>
      if existing = event then
        { progress with ignoredDuplicateCount := progress.ignoredDuplicateCount + 1 }
      else
        { progress with
          errors := progress.errors ++
            ["event id " ++ UuidCrate.display event.eventId ++
              " already exists with different content"] }
  | .error error => { progress with errors := progress.errors ++ [error.toString] }
  | .ok none =>
      match LogbookEventStore.appendVerifiedRemoteEvent progress.store event with
      | (store, .ok _) =>
          { progress with store := store, acceptedCount := progress.acceptedCount + 1 }
      | (store, .error error) =>
          { progress with store := store, errors := progress.errors ++ [error.toString] }

/-- The append loop, which is left as soon as an error is recorded. -/
def applyMissing (progress : PullProgress S) : List CoreEventEnvelope → PullProgress S
  | [] => progress
  | event :: rest =>
      let next := applyEvent progress event
      if next.errors = [] then applyMissing next rest else next

variable [CanonicalJson] [Sha2Crate]

def pullMissingEvents (store : S) (request : PullEventsRequest)
    (remoteEvents : List CoreEventEnvelope) : S × PullEventsResponse :=
  match LogbookEventStore.getHead store request.logbookId with
  | .error error => (store, .rejected request none none [error.toString])
  | .ok localHeadHash =>
      let remoteEvents := ofLogbook remoteEvents request.logbookId
      let remoteHeadHash := headHash remoteEvents
      let response : PullEventsResponse :=
        { peerId := request.peerId, logbookId := request.logbookId, status := .inSync,
          acceptedCount := 0, ignoredDuplicateCount := 0, rejectedCount := 0,
          localHeadHash := localHeadHash, remoteHeadHash := remoteHeadHash, errors := [] }
      if localHeadHash = remoteHeadHash then (store, response)
      else match missingBatch remoteEvents localHeadHash with
        | none =>
            (store, { response with
              status := .diverged, rejectedCount := remoteEvents.length,
              errors := ["remote chain does not contain the local head"] })
        | some missing =>
            match verifyIncomingChain request.logbookId localHeadHash missing with
            | .error error =>
                (store, { response with
                  status := error.status, rejectedCount := missing.length,
                  errors := [error.toString] })
            | .ok () =>
                let progress := applyMissing { store := store } missing
                let finalHead :=
                  match LogbookEventStore.getHead progress.store request.logbookId with
                  | .ok head => head
                  | .error _ => none
                (progress.store, { response with
                  status := if progress.errors = [] then .pulled else .rejected,
                  acceptedCount := progress.acceptedCount,
                  ignoredDuplicateCount := progress.ignoredDuplicateCount,
                  rejectedCount := progress.errors.length,
                  localHeadHash := finalHead, errors := progress.errors })

end Loop
end HamLogger
