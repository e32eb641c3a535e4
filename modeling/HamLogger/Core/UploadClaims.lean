import HamLogger.Core.Crates
import HamLogger.Core.UploadQueue
import HamLogger.Library.Transition

/-! Workers that share an upload queue. A job that is running belongs to the
worker that holds its current claim, and a claim that is not current any more
never becomes current again. -/
namespace HamLogger
open Transition

/-- A claim that a worker got from the queue. -/
structure Claim (Worker : Type) where
  worker : Worker
  jobId : Uuid
  token : Uuid
  deriving DecidableEq

/-- A queue, the latest time that was read, and the claims given to workers. -/
structure UploadState (Worker : Type) where
  queue : UploadQueue
  clock : DateTime
  claims : List (Claim Worker)

inductive UploadCall (Worker : Type) where
  | createJob (targetId : String) (logbookId : Uuid) (qsoIds : List Uuid) (now : DateTime)
      (random : Uuid)
  | claimNext (worker : Worker) (now : DateTime) (leaseSeconds : UInt64) (random : Uuid)
  | recoverExpiredLeases (now : DateTime)
  | scheduleRetry (worker : Worker) (jobId claimToken : Uuid) (nextAttemptAt : DateTime)
      (safeFailureCode error : String) (now : DateTime)
  | markUncertain (worker : Worker) (jobId claimToken : Uuid) (safeFailureCode : String)
      (now : DateTime)
  | markCompleted (worker : Worker) (jobId : Uuid) (message : Option String) (now : DateTime)
  | markFailed (worker : Worker) (jobId : Uuid) (error : String) (now : DateTime)

def UploadCall.now {Worker : Type} : UploadCall Worker → DateTime
  | .createJob _ _ _ now _ | .claimNext _ now _ _ | .recoverExpiredLeases now
  | .scheduleRetry _ _ _ _ _ _ now | .markUncertain _ _ _ _ now | .markCompleted _ _ _ now
  | .markFailed _ _ _ now => now

/-- The call ends the attempt of a worker at a job. -/
def UploadCall.Finishes {Worker : Type} (call : UploadCall Worker) (worker : Worker)
    (jobId : Uuid) : Prop :=
  match call with
  | .createJob .. | .claimNext .. | .recoverExpiredLeases _ => False
  | .scheduleRetry caller target _ _ _ _ _ | .markUncertain caller target _ _ _
  | .markCompleted caller target _ _ | .markFailed caller target _ _ =>
      caller = worker ∧ target = jobId

namespace UploadState
variable {Worker : Type}

/-- The worker was given the current claim of the job. -/
def Holds (state : UploadState Worker) (worker : Worker) (job : UploadJob) : Prop :=
  ∃ claim ∈ state.claims, claim.worker = worker ∧ claim.jobId = job.uploadJobId ∧
    job.claimToken = some claim.token

/-- A claim that was given to a worker and is not the current one of its job. -/
def Stale (state : UploadState Worker) (claim : Claim Worker) : Prop :=
  claim ∈ state.claims ∧
    ∀ job ∈ state.queue.jobs, job.uploadJobId = claim.jobId → job.claimToken ≠ some claim.token

/-- Random identifiers are new and nobody guesses them: a worker presents the
current token of a job only if it was given the claim. -/
def Unguessed (state : UploadState Worker) : UploadCall Worker → Prop
  | .createJob _ _ _ _ random => ∀ job ∈ state.queue.jobs, job.uploadJobId ≠ random
  | .claimNext _ _ _ random =>
      (∀ claim ∈ state.claims, claim.token ≠ random) ∧
        ∀ job ∈ state.queue.jobs, job.claimToken ≠ some random
  | .scheduleRetry worker _ claimToken _ _ _ _ | .markUncertain worker _ claimToken _ _ =>
      ∀ job ∈ state.queue.jobs, job.claimToken = some claimToken → state.Holds worker job
  | .recoverExpiredLeases _ | .markCompleted .. | .markFailed .. => True

/-- A job is completed or failed by the worker that holds its claim. -/
def FinishesOwn (state : UploadState Worker) : UploadCall Worker → Prop
  | .markCompleted worker jobId _ _ | .markFailed worker jobId _ _ =>
      ∀ job ∈ state.queue.jobs, job.uploadJobId = jobId → state.Holds worker job
  | .createJob .. | .claimNext .. | .recoverExpiredLeases _ | .scheduleRetry ..
  | .markUncertain .. => True

section
variable [DecidableEq Worker]

instance decidableHolds (state : UploadState Worker) (worker : Worker) (job : UploadJob) :
    Decidable (state.Holds worker job) :=
  inferInstanceAs (Decidable (∃ claim ∈ state.claims, claim.worker = worker ∧
    claim.jobId = job.uploadJobId ∧ job.claimToken = some claim.token))

instance decidableStale (state : UploadState Worker) (claim : Claim Worker) :
    Decidable (state.Stale claim) :=
  inferInstanceAs (Decidable (claim ∈ state.claims ∧ ∀ job ∈ state.queue.jobs,
    job.uploadJobId = claim.jobId → job.claimToken ≠ some claim.token))

instance decidableUnguessed (state : UploadState Worker) : DecidablePred state.Unguessed
  | .createJob .. => List.decidableBAll _ _
  | .claimNext .. => instDecidableAnd
  | .scheduleRetry .. | .markUncertain .. => List.decidableBAll _ _
  | .recoverExpiredLeases _ | .markCompleted .. | .markFailed .. => instDecidableTrue

end

section
variable [UuidCrate]

/-- The state after a call. A worker keeps the claim that it is given. -/
def after (state : UploadState Worker) (call : UploadCall Worker) : UploadState Worker :=
  match call with
  | .createJob targetId logbookId qsoIds now random =>
      { state with
          queue := (state.queue.createJob targetId logbookId qsoIds now random).1
          clock := now }
  | .claimNext worker now leaseSeconds random =>
      let outcome := state.queue.claimNext now leaseSeconds random
      { queue := outcome.1
        clock := now
        claims := match outcome.2 with
          | .ok (some (jobId, token)) => state.claims ++ [{ worker, jobId, token }]
          | .ok none | .error _ => state.claims }
  | .recoverExpiredLeases now =>
      { state with queue := (state.queue.recoverExpiredLeases now).1, clock := now }
  | .scheduleRetry _ jobId claimToken nextAttemptAt safeFailureCode error now =>
      { state with
          queue := (state.queue.scheduleRetry jobId claimToken nextAttemptAt safeFailureCode
            error now).1
          clock := now }
  | .markUncertain _ jobId claimToken safeFailureCode now =>
      { state with
          queue := (state.queue.markUncertain jobId claimToken safeFailureCode now).1
          clock := now }
  | .markCompleted _ jobId message now =>
      { state with queue := (state.queue.markCompleted jobId message now).1, clock := now }
  | .markFailed _ jobId error now =>
      { state with queue := (state.queue.markFailed jobId error now).1, clock := now }

end

/-- Jobs have distinct identifiers, and a job has a token while it is running
and a lease only then. -/
structure Coherent (state : UploadState Worker) : Prop where
  ids : (state.queue.jobs.map UploadJob.uploadJobId).Nodup
  running : ∀ job ∈ state.queue.jobs, job.claimToken ≠ none ↔ job.queueState = .running
  leased : ∀ job ∈ state.queue.jobs, job.leaseExpiresAt ≠ none → job.queueState = .running

theorem Coherent.eq_of_id {state : UploadState Worker} (h : state.Coherent)
    {one other : UploadJob} (hOne : one ∈ state.queue.jobs) (hOther : other ∈ state.queue.jobs)
    (hId : one.uploadJobId = other.uploadJobId) : one = other :=
  List.inj_on_of_nodup_map h.ids hOne hOther hId

end UploadState

/-- How a call may change a job: it claims a job that is due, it recovers a
running job whose lease is over, or the worker that holds the claim finishes
its attempt. -/
inductive JobChange {Worker : Type} (state : UploadState Worker) :
    UploadCall Worker → UploadJob → UploadJob → Prop where
  | kept (call : UploadCall Worker) (job : UploadJob) : JobChange state call job job
  | claimed {worker : Worker} {now : DateTime} {leaseSeconds : UInt64} {random : Uuid}
      {old : UploadJob} (expires : Option DateTime) (hDue : old.isDue now = true) :
      JobChange state (.claimNext worker now leaseSeconds random) old
        { old.startAttempt now random with leaseExpiresAt := expires }
  | recovered {now : DateTime} {old : UploadJob} (hOver : old.leaseIsOver now = true) :
      JobChange state (.recoverExpiredLeases now) old (old.recover now)
  | finished {call : UploadCall Worker} {worker : Worker} {old new : UploadJob}
      (hCall : call.Finishes worker old.uploadJobId) (hHolds : state.Holds worker old)
      (hId : new.uploadJobId = old.uploadJobId) (hState : new.queueState ≠ .running)
      (hToken : new.claimToken = none) (hLease : new.leaseExpiresAt = none) :
      JobChange state call old new

namespace JobChange
variable {Worker : Type} {state : UploadState Worker} {call : UploadCall Worker}
  {old new : UploadJob}

theorem id_eq (h : JobChange state call old new) : new.uploadJobId = old.uploadJobId := by
  cases h with
  | kept => rfl
  | claimed => rfl
  | recovered => rfl
  | finished _ _ hId _ _ _ => exact hId

/-- A changed job has a token while it is running. -/
theorem running_iff (h : JobChange state call old new)
    (hOld : old.claimToken ≠ none ↔ old.queueState = .running) :
    new.claimToken ≠ none ↔ new.queueState = .running := by
  cases h with
  | kept => exact hOld
  | claimed expires _ => simp [UploadJob.startAttempt]
  | recovered _ => simp [UploadJob.recover]
  | finished _ _ _ hState hToken _ => simp [hState, hToken]

theorem leased (h : JobChange state call old new)
    (hOld : old.leaseExpiresAt ≠ none → old.queueState = .running)
    (hLease : new.leaseExpiresAt ≠ none) : new.queueState = .running := by
  cases h with
  | kept => exact hOld hLease
  | claimed expires _ => rfl
  | recovered _ => exact absurd rfl hLease
  | finished _ _ _ _ _ hNone => exact absurd hNone hLease

/-- A job that is neither claimable nor running does not change. -/
theorem eq_of_settled (h : JobChange state call old new)
    (hOld : old.claimToken ≠ none ↔ old.queueState = .running)
    (hClaimable : old.queueState.isClaimable = false) (hRunning : old.queueState ≠ .running) :
    new = old := by
  cases h with
  | kept => rfl
  | claimed expires hDue => simp [UploadJob.isDue, hClaimable] at hDue
  | recovered hOver => simp [UploadJob.leaseIsOver, hRunning] at hOver
  | finished _ hHolds _ _ _ _ =>
      obtain ⟨claim, _, _, _, hToken⟩ := hHolds
      exact absurd (hOld.mp (by simp [hToken])) hRunning

/-- The token of a changed job is its token from before or a new one. -/
theorem token_eq (h : JobChange state call old new) :
    new.claimToken = old.claimToken ∨ new.claimToken = none ∨
      ∃ worker now leaseSeconds random,
        call = .claimNext worker now leaseSeconds random ∧ new.claimToken = some random := by
  cases h with
  | kept => exact Or.inl rfl
  | claimed expires _ => exact Or.inr (Or.inr ⟨_, _, _, _, rfl, rfl⟩)
  | recovered _ => exact Or.inr (Or.inl rfl)
  | finished _ _ _ _ hToken _ => exact Or.inr (Or.inl hToken)

end JobChange

namespace UploadState
variable {Worker : Type} {state : UploadState Worker} {call : UploadCall Worker}

theorem updateJob_change {jobId : Uuid} {change : UploadJob → UploadJob} {worker : Worker}
    {found : UploadJob} (hFound : state.queue.findJob jobId = some found)
    (hCall : call.Finishes worker jobId) (hHolds : state.Holds worker found)
    (hChange : (change found).uploadJobId = found.uploadJobId ∧
      (change found).queueState ≠ .running ∧ (change found).claimToken = none ∧
        (change found).leaseExpiresAt = none) :
    List.Forall₂ (JobChange state call) state.queue.jobs
      (state.queue.updateJob jobId change).jobs := by
  refine (forall₂_updateFirst state.queue.jobs).imp ?_
  intro old new hChanged
  rcases hChanged with hSame | ⟨hOld, hNew⟩
  · rw [hSame]
    exact .kept call old
  · have hTarget : old.uploadJobId = jobId := by
      simpa using List.find?_some hOld
    obtain rfl : found = old := Option.some.inj (hFound.symm.trans hOld)
    obtain ⟨hId, hState, hToken, hLease⟩ := hChange
    rw [hNew]
    exact .finished (hTarget.symm ▸ hCall) hHolds hId hState hToken hLease

theorem forall₂_kept (call : UploadCall Worker) (jobs : List UploadJob) :
    List.Forall₂ (JobChange state call) jobs jobs :=
  List.forall₂_same.mpr fun job _ => .kept call job

theorem mem_of_findJob {queue : UploadQueue} {jobId : Uuid} {found : UploadJob}
    (h : queue.findJob jobId = some found) : found ∈ queue.jobs ∧ found.uploadJobId = jobId :=
  ⟨List.mem_of_find?_eq_some h, by simpa using List.find?_some h⟩

/-- What a worker finishes by its claim token is its own job. -/
theorem updateClaimed_change {jobId claimToken : Uuid} {change : UploadJob → UploadJob}
    {worker : Worker} (hCall : call.Finishes worker jobId)
    (hOwn : ∀ job ∈ state.queue.jobs, job.claimToken = some claimToken → state.Holds worker job)
    (hChange : ∀ job, (change job).uploadJobId = job.uploadJobId ∧
      (change job).queueState ≠ .running ∧ (change job).claimToken = none ∧
        (change job).leaseExpiresAt = none) :
    List.Forall₂ (JobChange state call) state.queue.jobs
      (state.queue.updateClaimed jobId claimToken change).1.jobs := by
  unfold UploadQueue.updateClaimed
  cases hClaim : state.queue.jobForClaim jobId claimToken with
  | error error => exact forall₂_kept call _
  | ok found =>
      unfold UploadQueue.jobForClaim at hClaim
      cases hFound : state.queue.findJob jobId with
      | none => simp [hFound] at hClaim
      | some job =>
          have hToken : job.claimToken = some claimToken := by
            cases hCurrent : job.claimToken with
            | none => simp [hFound, hCurrent] at hClaim
            | some token =>
                rw [hFound] at hClaim
                simp only [hCurrent] at hClaim
                split at hClaim
                · next hSame => rw [hSame]
                · cases hClaim
          have hHolds := hOwn job (mem_of_findJob hFound).1 hToken
          exact updateJob_change hFound hCall hHolds (hChange job)

theorem updateDue_change {worker : Worker} {now : DateTime} {leaseSeconds : UInt64}
    {random : Uuid} (change : UploadJob → UploadJob)
    (hChange : ∀ job, ∃ expires, change job =
      { job.startAttempt now random with leaseExpiresAt := expires }) :
    List.Forall₂ (JobChange state (.claimNext worker now leaseSeconds random)) state.queue.jobs
      (state.queue.updateDue now change).jobs := by
  refine (forall₂_updateFirst state.queue.jobs).imp ?_
  intro old new hChanged
  rcases hChanged with hSame | ⟨hFound, hNew⟩
  · rw [hSame]
    exact .kept _ old
  · obtain ⟨expires, hExpires⟩ := hChange old
    rw [hNew, hExpires]
    exact .claimed expires (List.find?_some hFound)

/-- A job that a call adds to the queue. -/
def Added (state : UploadState Worker) (job : UploadJob) : Prop :=
  job.queueState = .pending ∧ job.claimToken = none ∧ job.leaseExpiresAt = none ∧
    ∀ old ∈ state.queue.jobs, old.uploadJobId ≠ job.uploadJobId

/-- Jobs change as `JobChange` says, and at most one is added. -/
def ChangesJobs (state : UploadState Worker) (call : UploadCall Worker) (later : UploadQueue) :
    Prop :=
  ∃ kept added, later.jobs = kept ++ Option.toList added ∧
    List.Forall₂ (JobChange state call) state.queue.jobs kept ∧ ∀ job ∈ added, state.Added job

theorem ChangesJobs.of_forall₂ {later : UploadQueue}
    (h : List.Forall₂ (JobChange state call) state.queue.jobs later.jobs) :
    ChangesJobs state call later :=
  ⟨later.jobs, none, (List.append_nil _).symm, h, by simp⟩

theorem createJob_changes {targetId : String} {logbookId : Uuid} {qsoIds : List Uuid}
    {now : DateTime} {random : Uuid} [UuidCrate]
    (hFresh : ∀ job ∈ state.queue.jobs, job.uploadJobId ≠ random) :
    ChangesJobs state call (state.queue.createJob targetId logbookId qsoIds now random).1 := by
  unfold UploadQueue.createJob
  split
  · exact .of_forall₂ (forall₂_kept call _)
  split
  · exact .of_forall₂ (forall₂_kept call _)
  · refine ⟨state.queue.jobs, some _, rfl, forall₂_kept call _, ?_⟩
    intro job hJob
    rw [← Option.some.inj hJob]
    exact ⟨rfl, rfl, rfl, hFresh⟩

theorem claimNext_changes {worker : Worker} {now : DateTime} {leaseSeconds : UInt64}
    {random : Uuid} : ChangesJobs state (.claimNext worker now leaseSeconds random)
      (state.queue.claimNext now leaseSeconds random).1 := by
  refine .of_forall₂ ?_
  unfold UploadQueue.claimNext
  cases state.queue.jobs.find? (UploadJob.isDue now) with
  | none => exact forall₂_kept _ _
  | some job =>
      cases leaseEnd now leaseSeconds with
      | none => exact updateDue_change _ fun job => ⟨job.leaseExpiresAt, rfl⟩
      | some expires => exact updateDue_change _ fun job => ⟨some expires, rfl⟩

theorem recoverExpiredLeases_changes {now : DateTime} :
    ChangesJobs state (.recoverExpiredLeases now) (state.queue.recoverExpiredLeases now).1 := by
  refine .of_forall₂ (List.forall₂_map_right_iff.mpr (List.forall₂_same.mpr ?_))
  intro job _
  split
  · next hOver => exact .recovered hOver
  · exact .kept _ job

theorem markCompleted_changes {worker : Worker} {jobId : Uuid} {message : Option String}
    {now : DateTime}
    (hOwn : ∀ job ∈ state.queue.jobs, job.uploadJobId = jobId → state.Holds worker job) :
    ChangesJobs state (.markCompleted worker jobId message now)
      (state.queue.markCompleted jobId message now).1 := by
  refine .of_forall₂ ?_
  unfold UploadQueue.markCompleted
  cases hFound : state.queue.findJob jobId with
  | none => exact forall₂_kept _ _
  | some job =>
      obtain ⟨hMem, hId⟩ := mem_of_findJob hFound
      exact updateJob_change hFound ⟨rfl, rfl⟩ (hOwn job hMem hId) ⟨rfl, nofun, rfl, rfl⟩

theorem markFailed_changes {worker : Worker} {jobId : Uuid} {error : String} {now : DateTime}
    (hOwn : ∀ job ∈ state.queue.jobs, job.uploadJobId = jobId → state.Holds worker job) :
    ChangesJobs state (.markFailed worker jobId error now)
      (state.queue.markFailed jobId error now).1 := by
  refine .of_forall₂ ?_
  unfold UploadQueue.markFailed
  cases hFound : state.queue.findJob jobId with
  | none => exact forall₂_kept _ _
  | some job =>
      obtain ⟨hMem, hId⟩ := mem_of_findJob hFound
      exact updateJob_change hFound ⟨rfl, rfl⟩ (hOwn job hMem hId) ⟨rfl, nofun, rfl, rfl⟩

section
variable [UuidCrate]

theorem changes_after (hUnguessed : state.Unguessed call) (hOwn : state.FinishesOwn call) :
    ChangesJobs state call (state.after call).queue := by
  cases call with
  | createJob targetId logbookId qsoIds now random => exact createJob_changes hUnguessed
  | claimNext worker now leaseSeconds random => exact claimNext_changes
  | recoverExpiredLeases now => exact recoverExpiredLeases_changes
  | scheduleRetry worker jobId claimToken nextAttemptAt safeFailureCode error now =>
      exact .of_forall₂ (updateClaimed_change ⟨rfl, rfl⟩ hUnguessed fun job =>
        ⟨rfl, nofun, rfl, rfl⟩)
  | markUncertain worker jobId claimToken safeFailureCode now =>
      exact .of_forall₂ (updateClaimed_change ⟨rfl, rfl⟩ hUnguessed fun job =>
        ⟨rfl, nofun, rfl, rfl⟩)
  | markCompleted worker jobId message now => exact markCompleted_changes hOwn
  | markFailed worker jobId error now => exact markFailed_changes hOwn

/-- What a job was before a call, or that the call added it. -/
theorem changed_or_added (hUnguessed : state.Unguessed call) (hOwn : state.FinishesOwn call)
    {new : UploadJob} (hNew : new ∈ (state.after call).queue.jobs) :
    (∃ old ∈ state.queue.jobs, JobChange state call old new) ∨ state.Added new := by
  obtain ⟨kept, added, hJobs, hKept, hAdded⟩ := changes_after hUnguessed hOwn
  rw [hJobs] at hNew
  rcases List.mem_append.mp hNew with hMem | hMem
  · exact Or.inl (exists_left_of_forall₂ hKept hMem)
  · exact Or.inr (hAdded new (Option.mem_toList.mp hMem))

/-- What becomes of a job in a call. -/
theorem changed_to (hUnguessed : state.Unguessed call) (hOwn : state.FinishesOwn call)
    {old : UploadJob} (hOld : old ∈ state.queue.jobs) :
    ∃ new ∈ (state.after call).queue.jobs, JobChange state call old new := by
  obtain ⟨kept, added, hJobs, hKept, _⟩ := changes_after hUnguessed hOwn
  obtain ⟨new, hNew, hChange⟩ := exists_right_of_forall₂ hKept hOld
  exact ⟨new, by rw [hJobs]; exact List.mem_append_left _ hNew, hChange⟩

theorem Coherent.after (h : state.Coherent) (hUnguessed : state.Unguessed call)
    (hOwn : state.FinishesOwn call) : (state.after call).Coherent := by
  constructor
  · obtain ⟨kept, added, hJobs, hKept, hAdded⟩ := changes_after hUnguessed hOwn
    have hIds : kept.map UploadJob.uploadJobId = state.queue.jobs.map UploadJob.uploadJobId := by
      refine (List.forall₂_eq_eq_eq ▸ (List.forall₂_map_left_iff.mpr
        (List.forall₂_map_right_iff.mpr (hKept.imp ?_)))).symm
      intro old new hChange
      exact hChange.id_eq.symm
    rw [hJobs, List.map_append, hIds]
    cases added with
    | none => simpa using h.ids
    | some job =>
        refine List.Nodup.append h.ids (List.nodup_singleton _) ?_
        intro jobId hLeft hRight
        obtain ⟨old, hOld, hSame⟩ := List.mem_map.mp hLeft
        have hFresh := (hAdded job rfl).2.2.2 old hOld
        exact hFresh (hSame.trans (List.mem_singleton.mp hRight))
  · intro new hNew
    rcases changed_or_added hUnguessed hOwn hNew with ⟨old, hOld, hChange⟩ | hAdded
    · exact hChange.running_iff (h.running old hOld)
    · simp [hAdded.1, hAdded.2.1]
  · intro new hNew hLease
    rcases changed_or_added hUnguessed hOwn hNew with ⟨old, hOld, hChange⟩ | hAdded
    · exact hChange.leased (h.leased old hOld) hLease
    · exact absurd hAdded.2.2.1 hLease

/-- A call gives at most one claim, whose token is the random identifier. -/
theorem claims_after : (state.after call).claims = state.claims ∨
    ∃ worker now leaseSeconds random jobId, call = .claimNext worker now leaseSeconds random ∧
      (state.after call).claims = state.claims ++ [{ worker, jobId, token := random }] := by
  cases call with
  | claimNext worker now leaseSeconds random =>
      simp only [after, UploadQueue.claimNext]
      cases state.queue.jobs.find? (UploadJob.isDue now) with
      | none => exact Or.inl rfl
      | some job =>
          cases leaseEnd now leaseSeconds with
          | none => exact Or.inl rfl
          | some expires => exact Or.inr ⟨_, _, _, _, _, rfl, rfl⟩
  | _ => exact Or.inl rfl

theorem claims_subset {claim : Claim Worker} (hMem : claim ∈ state.claims) :
    claim ∈ (state.after call).claims := by
  rcases @claims_after Worker state call _ with hSame | ⟨_, _, _, _, _, _, hMore⟩
  · rw [hSame]
    exact hMem
  · rw [hMore]
    exact List.mem_append_left _ hMem

/-- Claims have distinct tokens. -/
theorem tokens_after (h : (state.claims.map Claim.token).Nodup)
    (hUnguessed : state.Unguessed call) : ((state.after call).claims.map Claim.token).Nodup := by
  rcases @claims_after Worker state call _ with
    hSame | ⟨worker, now, leaseSeconds, random, jobId, rfl, hMore⟩
  · rw [hSame]
    exact h
  · rw [hMore, List.map_append]
    refine List.Nodup.append h (List.nodup_singleton _) ?_
    intro token hLeft hRight
    obtain ⟨claim, hClaim, hToken⟩ := List.mem_map.mp hLeft
    exact hUnguessed.1 claim hClaim (hToken.trans (List.mem_singleton.mp hRight))

/-- A claim that is not current does not become current again. -/
theorem Stale.after {claim : Claim Worker} (h : state.Stale claim)
    (hUnguessed : state.Unguessed call) (hOwn : state.FinishesOwn call) :
    (state.after call).Stale claim := by
  refine ⟨claims_subset h.1, ?_⟩
  intro new hNew hId hToken
  rcases changed_or_added hUnguessed hOwn hNew with ⟨old, hOld, hChange⟩ | hAdded
  · rcases hChange.token_eq with hSame | hNone | ⟨worker, now, leaseSeconds, random, rfl, hRandom⟩
    · exact h.2 old hOld (hChange.id_eq ▸ hId) (hSame ▸ hToken)
    · rw [hNone] at hToken
      cases hToken
    · rw [hRandom] at hToken
      exact hUnguessed.1 claim h.1 (Option.some.inj hToken).symm
  · rw [hAdded.2.1] at hToken
    cases hToken

end

/-- A job that can be claimed is due as soon as its retry time has come. -/
theorem isDue_iff (h : state.Coherent) {job : UploadJob}
    (hJob : job ∈ state.queue.jobs) (hClaimable : job.queueState.isClaimable = true)
    (now : DateTime) : job.isDue now = true ↔ ∀ next ∈ job.nextAttemptAt, next ≤ now := by
  have hLease : job.leaseExpiresAt = none := by
    by_contra hSome
    rw [h.leased job hJob hSome] at hClaimable
    cases hClaimable
  cases hNext : job.nextAttemptAt <;> simp [UploadJob.isDue, hClaimable, hLease, hNext]

/-- What a worker presents with such a claim is refused. -/
theorem Stale.updateClaimed {claim : Claim Worker} (h : state.Stale claim)
    (change : UploadJob → UploadJob) : ∃ error,
      state.queue.updateClaimed claim.jobId claim.token change = (state.queue, .error error) := by
  unfold UploadQueue.updateClaimed UploadQueue.jobForClaim
  cases hFound : state.queue.findJob claim.jobId with
  | none => exact ⟨_, rfl⟩
  | some job =>
      obtain ⟨hMem, hId⟩ := mem_of_findJob hFound
      cases hToken : job.claimToken with
      | none => exact ⟨.alreadyClaimed claim.jobId, by simp [hToken]⟩
      | some token =>
          have hOther : token ≠ claim.token := by
            intro hSame
            exact h.2 job hMem hId (hSame ▸ hToken)
          exact ⟨.claimTokenMismatch claim.jobId, by simp [hToken, hOther]⟩

/-- The claim of a recovered job is not current any more. -/
theorem stale_of_recovered [UuidCrate] (h : state.Coherent) {claim : Claim Worker}
    {job : UploadJob} {now : DateTime} (hClaim : claim ∈ state.claims)
    (hJob : job ∈ state.queue.jobs) (hId : job.uploadJobId = claim.jobId)
    (hOver : job.leaseIsOver now = true) :
    (state.after (.recoverExpiredLeases now)).Stale claim := by
  refine ⟨hClaim, ?_⟩
  intro new hNew hSame hToken
  obtain ⟨old, hOld, rfl⟩ := List.mem_map.mp hNew
  have hOldId : old.uploadJobId = job.uploadJobId := by
    rw [hId, ← hSame]
    split <;> rfl
  rw [h.eq_of_id hOld hJob hOldId, if_pos hOver] at hToken
  cases hToken

end UploadState

section Runs
variable {Worker : Type} [UuidCrate]

/-- Workers call the queue one after the other, at times that do not decrease. -/
def uploadSystem : System (UploadState Worker) (UploadCall Worker) where
  step state call later :=
    state.clock ≤ call.now ∧ state.Unguessed call ∧ later = state.after call

/-- Its steps in which a worker completes or fails only jobs that it holds. -/
abbrev uploadSteps : System (UploadState Worker) (UploadCall Worker) :=
  uploadSystem.restrict UploadState.FinishesOwn

theorem UploadState.Coherent.run {start final : UploadState Worker}
    {calls : List (UploadCall Worker)} (run : Run uploadSteps start calls final)
    (h : start.Coherent) : final.Coherent := by
  refine run.invariant (P := UploadState.Coherent) ?_ h
  intro state call later hState hStep
  obtain ⟨hOwn, _, hUnguessed, hLater⟩ := hStep
  rw [hLater]
  exact hState.after hUnguessed hOwn

theorem UploadState.Stale.run {start final : UploadState Worker}
    {calls : List (UploadCall Worker)} {claim : Claim Worker}
    (run : Run uploadSteps start calls final) (h : start.Stale claim) : final.Stale claim := by
  refine run.invariant (P := fun state => state.Stale claim) ?_ h
  intro state call later hState hStep
  obtain ⟨hOwn, _, hUnguessed, hLater⟩ := hStep
  rw [hLater]
  exact hState.after hUnguessed hOwn

/-- A job that succeeded stays as it is. -/
theorem mem_of_succeeded {start final : UploadState Worker} {calls : List (UploadCall Worker)}
    {job : UploadJob} (run : Run uploadSteps start calls final) (hStart : start.Coherent)
    (hJob : job ∈ start.queue.jobs) (hState : job.queueState = .succeeded) :
    job ∈ final.queue.jobs := by
  refine (run.invariant (P := fun state => state.Coherent ∧ job ∈ state.queue.jobs) ?_
    ⟨hStart, hJob⟩).2
  intro state call later hPrior hStep
  obtain ⟨hCoherent, hMem⟩ := hPrior
  obtain ⟨hOwn, _, hUnguessed, hLater⟩ := hStep
  obtain ⟨new, hNew, hChange⟩ := UploadState.changed_to hUnguessed hOwn hMem
  have hSame : new = job :=
    hChange.eq_of_settled (hCoherent.running job hMem) (by rw [hState]; rfl) (by simp [hState])
  rw [hLater]
  exact ⟨hCoherent.after hUnguessed hOwn, hSame ▸ hNew⟩

theorem holder_unique {start final : UploadState Worker} {calls : List (UploadCall Worker)}
    (run : Run uploadSteps start calls final) (hStart : start.claims = []) {job : UploadJob}
    {one other : Worker} (hOne : final.Holds one job) (hOther : final.Holds other job) :
    one = other := by
  have hTokens : (final.claims.map Claim.token).Nodup := by
    refine run.invariant (P := fun state => (state.claims.map Claim.token).Nodup) ?_ ?_
    · intro state call later hState hStep
      obtain ⟨_, _, hUnguessed, hLater⟩ := hStep
      rw [hLater]
      exact UploadState.tokens_after hState hUnguessed
    · rw [hStart]
      exact List.nodup_nil
  obtain ⟨first, hFirst, hFirstWorker, _, hFirstToken⟩ := hOne
  obtain ⟨second, hSecond, hSecondWorker, _, hSecondToken⟩ := hOther
  have hToken : first.token = second.token :=
    Option.some.inj (hFirstToken.symm.trans hSecondToken)
  have hClaim := List.inj_on_of_nodup_map hTokens hFirst hSecond hToken
  rw [← hFirstWorker, ← hSecondWorker, hClaim]

/-- A job changes by being claimed when it is due, by being recovered when its
lease is over, and by the one worker that holds its current claim. What is
presented with an older claim is refused and changes nothing. A job that
succeeded stays as it is, and an uncertain one can be claimed again. -/
theorem upload_claims_exclusive {start final : UploadState Worker}
    {calls : List (UploadCall Worker)} (hJobs : start.queue.jobs = [])
    (hClaims : start.claims = []) (run : Run uploadSteps start calls final) :
    (∀ call, final.Unguessed call → final.FinishesOwn call → ∀ old ∈ final.queue.jobs,
      ∃ new ∈ (final.after call).queue.jobs, JobChange final call old new) ∧
    (∀ job one other, final.Holds one job → final.Holds other job → one = other) ∧
    (∀ claim ∈ final.claims, ∀ job ∈ final.queue.jobs, job.uploadJobId = claim.jobId →
      ∀ now, job.leaseIsOver now = true →
        (final.after (.recoverExpiredLeases now)).Stale claim) ∧
    (∀ claim, final.Stale claim → ∀ more later, Run uploadSteps final more later →
      (∀ nextAttemptAt safeFailureCode error now, ∃ refusal,
        later.queue.scheduleRetry claim.jobId claim.token nextAttemptAt safeFailureCode error now =
          (later.queue, .error refusal)) ∧
      ∀ safeFailureCode now, ∃ refusal,
        later.queue.markUncertain claim.jobId claim.token safeFailureCode now =
          (later.queue, .error refusal)) ∧
    (∀ job ∈ final.queue.jobs, job.queueState = .succeeded →
      ∀ more later, Run uploadSteps final more later → job ∈ later.queue.jobs) ∧
    ∀ job ∈ final.queue.jobs, job.queueState = .uncertain →
      ∀ now, job.isDue now = true ↔ ∀ next ∈ job.nextAttemptAt, next ≤ now := by
  have hStart : start.Coherent := by
    constructor <;> simp [hJobs]
  have hFinal := hStart.run run
  refine ⟨?_, ?_, ?_, ?_, ?_, ?_⟩
  · intro call hUnguessed hOwn old hOld
    exact UploadState.changed_to hUnguessed hOwn hOld
  · intro job one other hOne hOther
    exact holder_unique run hClaims hOne hOther
  · intro claim hClaim job hJob hId now hOver
    exact UploadState.stale_of_recovered hFinal hClaim hJob hId hOver
  · intro claim hStale more later runOn
    have hLater := hStale.run runOn
    exact ⟨fun _ _ _ _ => hLater.updateClaimed _, fun _ _ => hLater.updateClaimed _⟩
  · intro job hJob hSucceeded more later runOn
    exact mem_of_succeeded runOn hFinal hJob hSucceeded
  · intro job hJob hUncertain now
    exact UploadState.isDue_iff hFinal hJob (by rw [hUncertain]; rfl) now

end Runs

section
open Crates

def minuteLater : DateTime := ⟨60000000000, by decide, by decide⟩

/-- A queue with one target and no jobs. -/
def sampleUploads : UploadState Nat where
  queue.targets := [
    { targetId := "lotw", displayName := "LoTW", providerId := "lotw.stub", enabled := true,
      requiredConfigKeys := [] }]
  queue.jobs := []
  queue.queueLimit := 1000
  clock := epoch
  claims := []

/-- A worker claimed the only job. -/
def claimedUploads : UploadState Nat :=
  (sampleUploads.after (.createJob "lotw" 1 [2] epoch 3)).after (.claimNext 7 epoch 30 4)

/-- Its lease ended, and another worker claimed the job. -/
def reclaimedUploads : UploadState Nat :=
  (claimedUploads.after (.recoverExpiredLeases minuteLater)).after (.claimNext 8 minuteLater 30 5)

theorem recovered_run : ∃ calls, Run uploadSteps sampleUploads calls
    (claimedUploads.after (.recoverExpiredLeases minuteLater)) := by
  have hCreate : uploadSteps.step sampleUploads (.createJob "lotw" 1 [2] epoch 3) _ :=
    ⟨trivial, by decide +kernel, by decide +kernel, rfl⟩
  have hClaim : uploadSteps.step _ (.claimNext 7 epoch 30 4) claimedUploads :=
    ⟨trivial, by decide +kernel, by decide +kernel, rfl⟩
  have hRecover : uploadSteps.step claimedUploads (.recoverExpiredLeases minuteLater) _ :=
    ⟨trivial, by decide +kernel, by decide +kernel, rfl⟩
  exact ⟨_, ((Run.single hCreate).snoc hClaim).snoc hRecover⟩

theorem reclaimed_step : uploadSteps.step
    (claimedUploads.after (.recoverExpiredLeases minuteLater)) (.claimNext 8 minuteLater 30 5)
    reclaimedUploads :=
  ⟨trivial, by decide +kernel, by decide +kernel, rfl⟩

/-- The first worker cannot schedule a retry of the job that it lost. -/
theorem upload_claims_exclusive_reclaimed : ∃ refusal,
    reclaimedUploads.queue.scheduleRetry 3 4 minuteLater "timeout" "no answer" minuteLater =
      (reclaimedUploads.queue, .error refusal) := by
  obtain ⟨calls, run⟩ := recovered_run
  have hStale : (claimedUploads.after (.recoverExpiredLeases minuteLater)).Stale ⟨7, 3, 4⟩ := by
    decide +kernel
  have hRefused := (upload_claims_exclusive rfl rfl run).2.2.2.1 _ hStale _ _
    (Run.single reclaimed_step)
  exact hRefused.1 minuteLater "timeout" "no answer" minuteLater

/-- The job that the second worker claims is uncertain. The first worker, whose
claim is not current any more, can still complete it by its identifier. -/
theorem uncertain_job_claimed_again :
    (∃ calls, Run uploadSteps sampleUploads calls
      (claimedUploads.after (.recoverExpiredLeases minuteLater))) ∧
    (∃ job ∈ (claimedUploads.after (.recoverExpiredLeases minuteLater)).queue.jobs,
      job.uploadJobId = 3 ∧ job.queueState = .uncertain ∧ job.uncertainOutcome = true) ∧
    uploadSteps.step (claimedUploads.after (.recoverExpiredLeases minuteLater))
      (.claimNext 8 minuteLater 30 5) reclaimedUploads ∧
    (∃ job ∈ reclaimedUploads.queue.jobs,
      job.uploadJobId = 3 ∧ job.queueState = .running ∧ job.claimToken = some 5) ∧
    reclaimedUploads.Stale ⟨7, 3, 4⟩ ∧
    ∃ job ∈ (reclaimedUploads.after (.markCompleted 7 3 none minuteLater)).queue.jobs,
      job.uploadJobId = 3 ∧ job.queueState = .succeeded :=
  ⟨recovered_run, by decide +kernel, reclaimed_step, by decide +kernel, by decide +kernel,
    by decide +kernel⟩

end
end HamLogger
