import HamLogger.Core.Basic
import HamLogger.Library.UpdateFirst
import Mathlib.Data.List.Sort

/-! The queue of log uploads. Workers claim jobs under a lease, and a claim is
identified by a random token. Random identifiers and the time that an
operation reads are parameters. -/
namespace HamLogger

inductive UploadQueueError where
  | targetNotFound (targetId : String)
  | jobNotFound (jobId : Uuid)
  | queueFull
  | alreadyClaimed (jobId : Uuid)
  | claimTokenMismatch (jobId : Uuid)
  deriving DecidableEq

def UploadQueueError.display [UuidCrate] : UploadQueueError → String
  | .targetNotFound targetId => "upload target " ++ targetId ++ " was not found"
  | .jobNotFound jobId => "upload job " ++ UuidCrate.display jobId ++ " was not found"
  | .queueFull => "upload queue is full"
  | .alreadyClaimed jobId => "upload job " ++ UuidCrate.display jobId ++ " is already claimed"
  | .claimTokenMismatch jobId =>
      "upload job " ++ UuidCrate.display jobId ++ " claim token did not match"

inductive UploadStatus where
  | queued
  | running
  | completed
  | failed
  deriving DecidableEq

inductive UploadQueueState where
  | pending
  | running
  | retryScheduled
  | needsUserAction
  | succeeded
  | cancelled
  | deadLetter
  | uncertain
  deriving DecidableEq

def UploadQueueState.isClaimable : UploadQueueState → Bool
  | .pending | .retryScheduled | .uncertain => true
  | .running | .needsUserAction | .succeeded | .cancelled | .deadLetter => false

structure UploadTarget where
  targetId : String
  displayName : String
  providerId : String
  enabled : Bool
  requiredConfigKeys : List String
  deriving DecidableEq

structure UploadJobItem where
  qsoId : Uuid
  status : UploadStatus
  error : Option String
  deriving DecidableEq

structure UploadJob where
  uploadJobId : Uuid
  targetId : String
  providerId : String
  accountScope : Option String
  logbookId : Uuid
  operationType : String
  idempotencyKey : String
  qsoIds : List Uuid
  items : List UploadJobItem
  status : UploadStatus
  queueState : UploadQueueState
  attemptCount : UInt32
  createdAt : DateTime
  updatedAt : DateTime
  lastAttemptAt : Option DateTime
  nextAttemptAt : Option DateTime
  lastError : Option String
  safeFailureCode : Option String
  credentialReference : Option Uuid
  providerSideIdentifier : Option String
  uncertainOutcome : Bool
  claimToken : Option Uuid
  leaseExpiresAt : Option DateTime
  deriving DecidableEq

structure UploadResult where
  uploadJobId : Uuid
  targetId : String
  status : UploadStatus
  acceptedCount : Nat
  failedCount : Nat
  message : Option String
  deriving DecidableEq

structure UploadQueue where
  targets : List UploadTarget
  jobs : List UploadJob
  queueLimit : Nat
  deriving DecidableEq

def uploadIdempotencyKey [UuidCrate] (providerId : String) (logbookId : Uuid)
    (qsoIds : List Uuid) : String :=
  "upload.adif:" ++ providerId ++ ":" ++ UuidCrate.display logbookId ++ ":" ++
    ",".intercalate ((qsoIds.mergeSort fun a b => decide (a ≤ b)).map UuidCrate.display)

/-- The end of a lease. The seconds are cast to a signed integer, a duration
outside the range of the chrono crate panics, and so does its sum with now. -/
def leaseEnd (now : DateTime) (leaseSeconds : UInt64) : Option DateTime :=
  let seconds := leaseSeconds.toInt64.toInt
  if -9223372036854775 ≤ seconds ∧ seconds ≤ 9223372036854775 then now.addSeconds seconds
  else none

namespace UploadJob

/-- The condition under which a job is claimed. -/
def isDue (now : DateTime) (job : UploadJob) : Bool :=
  job.queueState.isClaimable && job.nextAttemptAt.all (fun next => next ≤ now) &&
    job.leaseExpiresAt.all fun expires => expires ≤ now

/-- The changes of a claim that come before the end of the lease is known. -/
def startAttempt (job : UploadJob) (now : DateTime) (token : Uuid) : UploadJob :=
  { job with
      status := .running
      queueState := .running
      attemptCount := job.attemptCount + 1
      lastAttemptAt := some now
      updatedAt := now
      claimToken := some token }

def leaseIsOver (now : DateTime) (job : UploadJob) : Bool :=
  job.queueState = .running && job.leaseExpiresAt.any fun expires => expires ≤ now

def recover (job : UploadJob) (now : DateTime) : UploadJob :=
  { job with
      status := .failed
      queueState := .uncertain
      uncertainOutcome := true
      safeFailureCode := some "worker_lease_expired"
      lastError := some "worker lease expired before completion"
      claimToken := none
      leaseExpiresAt := none
      updatedAt := now }

end UploadJob

namespace UploadQueue

/-- The queue after a job that was found by its identifier changed. -/
def updateJob (queue : UploadQueue) (jobId : Uuid) (change : UploadJob → UploadJob) :
    UploadQueue :=
  { queue with jobs := updateFirst (fun job => job.uploadJobId = jobId) change queue.jobs }

/-- The queue after its first job that is due changed. -/
def updateDue (queue : UploadQueue) (now : DateTime) (change : UploadJob → UploadJob) :
    UploadQueue :=
  { queue with jobs := updateFirst (UploadJob.isDue now) change queue.jobs }

def findJob (queue : UploadQueue) (jobId : Uuid) : Option UploadJob :=
  queue.jobs.find? fun job => job.uploadJobId = jobId

section
variable [UuidCrate]

def createJob (queue : UploadQueue) (targetId : String) (logbookId : Uuid) (qsoIds : List Uuid)
    (now : DateTime) (random : Uuid) : UploadQueue × Except UploadQueueError UploadJob :=
  if ¬ queue.targets.any (fun target => target.targetId = targetId) then
    (queue, .error (.targetNotFound targetId))
  else if queue.queueLimit ≤ queue.jobs.length then (queue, .error .queueFull)
  else
    let providerId :=
      ((queue.targets.find? fun target => target.targetId = targetId).map (·.providerId)).getD
        targetId
    let job : UploadJob :=
      { uploadJobId := random, targetId, providerId, accountScope := none, logbookId,
        operationType := "upload.adif",
        idempotencyKey := uploadIdempotencyKey providerId logbookId qsoIds, qsoIds,
        items := qsoIds.map fun qsoId => { qsoId, status := .queued, error := none },
        status := .queued, queueState := .pending, attemptCount := 0, createdAt := now,
        updatedAt := now, lastAttemptAt := none, nextAttemptAt := none, lastError := none,
        safeFailureCode := none, credentialReference := none, providerSideIdentifier := none,
        uncertainOutcome := false, claimToken := none, leaseExpiresAt := none }
    ({ queue with jobs := queue.jobs ++ [job] }, .ok job)

end

/-- The first job that is due is claimed. If the end of the lease panics, the
job has been marked as running before. -/
def claimNext (queue : UploadQueue) (now : DateTime) (leaseSeconds : UInt64) (token : Uuid) :
    UploadQueue × Outcome Empty (Option (Uuid × Uuid)) :=
  match queue.jobs.find? (UploadJob.isDue now) with
  | none => (queue, .ok none)
  | some job =>
      match leaseEnd now leaseSeconds with
      | none => (queue.updateDue now fun job => job.startAttempt now token, .error .panic)
      | some expires =>
          (queue.updateDue now fun job =>
            { job.startAttempt now token with leaseExpiresAt := some expires },
            .ok (some (job.uploadJobId, token)))

/-- Running jobs whose lease is over become uncertain. The reply counts them. -/
def recoverExpiredLeases (queue : UploadQueue) (now : DateTime) : UploadQueue × Nat :=
  ({ queue with
      jobs := queue.jobs.map fun job => if job.leaseIsOver now then job.recover now else job },
    queue.jobs.countP (UploadJob.leaseIsOver now))

def jobForClaim (queue : UploadQueue) (jobId claimToken : Uuid) :
    Except UploadQueueError UploadJob :=
  match queue.findJob jobId with
  | none => .error (.jobNotFound jobId)
  | some job =>
      match job.claimToken with
      | some token => if token = claimToken then .ok job else .error (.claimTokenMismatch jobId)
      | none => .error (.alreadyClaimed jobId)

/-- Change a job for the worker that presents its claim token. -/
def updateClaimed (queue : UploadQueue) (jobId claimToken : Uuid)
    (change : UploadJob → UploadJob) : UploadQueue × Except UploadQueueError Unit :=
  match queue.jobForClaim jobId claimToken with
  | .error error => (queue, .error error)
  | .ok _ => (queue.updateJob jobId change, .ok ())

def scheduleRetry (queue : UploadQueue) (jobId claimToken : Uuid) (nextAttemptAt : DateTime)
    (safeFailureCode error : String) (now : DateTime) :
    UploadQueue × Except UploadQueueError Unit :=
  queue.updateClaimed jobId claimToken fun job =>
    { job with
        status := .failed
        queueState := .retryScheduled
        nextAttemptAt := some nextAttemptAt
        safeFailureCode := some safeFailureCode
        lastError := some error
        claimToken := none
        leaseExpiresAt := none
        updatedAt := now }

def markUncertain (queue : UploadQueue) (jobId claimToken : Uuid) (safeFailureCode : String)
    (now : DateTime) : UploadQueue × Except UploadQueueError Unit :=
  queue.updateClaimed jobId claimToken fun job =>
    { job with
        status := .failed
        queueState := .uncertain
        uncertainOutcome := true
        safeFailureCode := some safeFailureCode
        claimToken := none
        leaseExpiresAt := none
        updatedAt := now }

/-- A completed job is found by its identifier alone. -/
def markCompleted (queue : UploadQueue) (jobId : Uuid) (message : Option String)
    (now : DateTime) : UploadQueue × Except UploadQueueError UploadResult :=
  match queue.findJob jobId with
  | none => (queue, .error (.jobNotFound jobId))
  | some job =>
      (queue.updateJob jobId fun job =>
        { job with
            status := .completed
            queueState := .succeeded
            updatedAt := now
            claimToken := none
            leaseExpiresAt := none
            nextAttemptAt := none
            uncertainOutcome := false
            items := job.items.map fun item => { item with status := .completed } },
        .ok
          { uploadJobId := job.uploadJobId, targetId := job.targetId, status := .completed,
            acceptedCount := job.items.length, failedCount := 0, message })

/-- So is a failed one. -/
def markFailed (queue : UploadQueue) (jobId : Uuid) (error : String) (now : DateTime) :
    UploadQueue × Except UploadQueueError UploadResult :=
  match queue.findJob jobId with
  | none => (queue, .error (.jobNotFound jobId))
  | some job =>
      (queue.updateJob jobId fun job =>
        { job with
            status := .failed
            queueState := .deadLetter
            updatedAt := now
            lastError := some error
            safeFailureCode := some "upload_failed"
            claimToken := none
            leaseExpiresAt := none
            items := job.items.map fun item =>
              { item with status := .failed, error := some error } },
        .ok
          { uploadJobId := job.uploadJobId, targetId := job.targetId, status := .failed,
            acceptedCount := 0, failedCount := job.items.length, message := some error })

end UploadQueue
end HamLogger
