import HamLogger.Core.ProposalRebuild
import HamLogger.Core.RecordLedgers

/-! What stays true of the net records while proposals are accepted: which
check-ins are deleted, what the counters of a session count, and that a
session that is over stays as it is. -/
namespace HamLogger

open Projection (rebuild)
open Replay (Accepted)
open Transition (Run)

/-- The session is over. -/
def NetSessionStatus.isTerminal : NetSessionStatus → Bool
  | .ended | .cancelled => true
  | .planned | .active => false

namespace NetControlProjection

/-- The counters of a session are those of a recount. -/
structure Counts (projection : NetControlProjection) (session : NetSessionRecord) : Prop where
  checkins : session.checkinCount = projection.checkins.values.countP fun checkin =>
    decide (checkin.netSessionId = session.netSessionId) && !checkin.deleted
  lateCheckins : session.lateCheckinCount = projection.checkins.values.countP fun checkin =>
    decide (checkin.status = .late) &&
      (decide (checkin.netSessionId = session.netSessionId) && !checkin.deleted)
  traffic : session.trafficCount = projection.traffic.values.countP fun traffic =>
    decide (traffic.netSessionId = session.netSessionId)
  emergencyTraffic : session.emergencyTrafficCount =
    projection.traffic.values.countP fun traffic =>
      decide (traffic.precedence = .emergency) &&
        decide (traffic.netSessionId = session.netSessionId)

/-- What the records of a logbook satisfy at any time. -/
structure Consistent (projection : NetControlProjection) : Prop where
  deleted : ∀ id checkin, projection.checkins.lookup id = some checkin →
    (checkin.deleted = true ↔ checkin.status = .deleted)
  named : ∀ id session, projection.sessions.lookup id = some session →
    session.netSessionId = id
  counts : ∀ id session, projection.sessions.lookup id = some session →
    projection.Counts session

/-- The event corrects a check-in that is deleted, starts a session that is
over, or cancels one that has ended. -/
def Reopens (projection : NetControlProjection) (eventType : EventType) (id : Uuid) : Prop :=
  match eventType with
  | .netCheckinUpdated =>
      ∃ checkin, projection.checkins.lookup id = some checkin ∧ checkin.deleted = true
  | .netSessionStarted =>
      ∃ session, projection.getSession id = some session ∧ session.status.isTerminal = true
  | .netSessionCancelled =>
      ∃ session, projection.getSession id = some session ∧ session.status = .ended
  | _ => False

theorem counts_recomputed (projection : NetControlProjection) (session : NetSessionRecord) :
    projection.recomputeStats.Counts
      (recomputeSession projection.checkins.values projection.traffic.values session) := by
  constructor
  · exact (List.countP_eq_length_filter ..).symm
  · simp only [recomputeSession, List.filter_filter, List.countP_eq_length_filter]
    rfl
  · exact (List.countP_eq_length_filter ..).symm
  · simp only [recomputeSession, List.filter_filter, List.countP_eq_length_filter]
    rfl

/-- Recomputing the statistics makes the counters right. -/
theorem Consistent.recomputed {projection : NetControlProjection}
    (hDeleted : ∀ id checkin, projection.checkins.lookup id = some checkin →
      (checkin.deleted = true ↔ checkin.status = .deleted))
    (hNamed : ∀ id session, projection.sessions.lookup id = some session →
      session.netSessionId = id) : projection.recomputeStats.Consistent := by
  refine ⟨hDeleted, ?_, ?_⟩
  · intro id session hSession
    obtain ⟨prior, hPrior, rfl⟩ := Option.map_eq_some_iff.mp
      ((KeyMap.lookup_mapValues ..).symm.trans hSession)
    exact hNamed id prior hPrior
  · intro id session hSession
    obtain ⟨prior, hPrior, rfl⟩ := Option.map_eq_some_iff.mp
      ((KeyMap.lookup_mapValues ..).symm.trans hSession)
    exact projection.counts_recomputed prior

theorem checkinStatusFromPayload_ne (payload : Value) :
    checkinStatusFromPayload payload ≠ .deleted := by
  unfold checkinStatusFromPayload
  split <;> simp

/-- The sessions that are over in one projection are so in another one, and
have ended or were cancelled as before. -/
def StaysOver (projection next : NetControlProjection) : Prop :=
  ∀ id session, projection.getSession id = some session → session.status.isTerminal = true →
    ∃ later, next.getSession id = some later ∧ later.status = session.status

theorem StaysOver.trans {projection next last : NetControlProjection}
    (hFirst : projection.StaysOver next) (hSecond : next.StaysOver last) :
    projection.StaysOver last := by
  intro id session hSession hOver
  obtain ⟨later, hLater, hSame⟩ := hFirst id session hSession hOver
  obtain ⟨final, hFinal, hStatus⟩ := hSecond id later hLater (by rw [hSame]; exact hOver)
  exact ⟨final, hFinal, hStatus.trans hSame⟩

theorem staysOver_recomputed {projection next : NetControlProjection}
    (h : projection.StaysOver next) :
    projection.StaysOver next.recomputeStats := by
  intro id session hSession hOver
  obtain ⟨later, hLater, hSame⟩ := h id session hSession hOver
  refine ⟨recomputeSession next.checkins.values next.traffic.values later, ?_, hSame⟩
  refine (KeyMap.lookup_mapValues ..).trans ?_
  have hLookup : next.sessions.lookup id = some later := hLater
  rw [hLookup]
  rfl

section Events
variable [UuidCrate] {projection next : NetControlProjection} {event : CoreEventEnvelope}
  {entityId : Uuid}

/-- One event keeps the deleted check-ins deleted and the others visible. -/
theorem deleted_applyRecords (h : projection.applyRecords event entityId = .ok next)
    (hPrior : ∀ id checkin, projection.checkins.lookup id = some checkin →
      (checkin.deleted = true ↔ checkin.status = .deleted))
    (hKeeps : ¬ projection.Reopens event.eventType entityId) :
    ∀ id checkin, next.checkins.lookup id = some checkin →
      (checkin.deleted = true ↔ checkin.status = .deleted) := by
  unfold applyRecords at h
  unfold Reopens at hKeeps
  split at h
  case h_6 hType =>
    obtain ⟨checkins, hInsert, rfl⟩ := (except_map_eq_ok_iff ..).mp h
    refine KeyMap.forall_of_tryInsert hPrior (fun checkin hCreated => ?_) hInsert
    unfold createdCheckin at hCreated
    split at hCreated
    · cases hCreated
    · obtain ⟨payload, _, rfl⟩ := (except_map_eq_ok_iff ..).mp hCreated
      exact iff_of_false (by simp) (checkinStatusFromPayload_ne _)
  case h_7 hType =>
    obtain ⟨checkins, hModify, rfl⟩ := (except_map_eq_ok_iff ..).mp h
    refine KeyMap.forall_of_tryModify hPrior (fun old new hOld hChange => ?_) hModify
    rw [hType] at hKeeps
    obtain ⟨payload, _, rfl⟩ := (except_map_eq_ok_iff ..).mp hChange
    exact iff_of_false (fun hDeleted => hKeeps ⟨old, hOld, hDeleted⟩)
      (checkinStatusFromPayload_ne _)
  case h_8 hType =>
    rw [← Except.ok.inj h]
    exact KeyMap.forall_modify hPrior fun old hOld => iff_of_true rfl rfl
  all_goals first
    | obtain ⟨records, hRecords, rfl⟩ := (except_map_eq_ok_iff ..).mp h
      exact hPrior
    | rw [← Except.ok.inj h]
      exact hPrior

/-- Sessions are stored under their identifiers. -/
theorem named_applyRecords (h : projection.applyRecords event entityId = .ok next)
    (hPrior : ∀ id session, projection.sessions.lookup id = some session →
      session.netSessionId = id) :
    ∀ id session, next.sessions.lookup id = some session → session.netSessionId = id := by
  have hClosed : ∀ status sessions, projection.sessions.tryModify entityId
      (closedSession event status) = .ok sessions →
        ∀ id session, sessions.lookup id = some session → session.netSessionId = id := by
    intro status sessions hModify
    refine KeyMap.forall_of_tryModify hPrior (fun old new hOld hChange => ?_) hModify
    obtain ⟨payload, _, rfl⟩ := (except_map_eq_ok_iff ..).mp hChange
    exact hPrior entityId old hOld
  unfold applyRecords at h
  split at h
  case h_3 hType =>
    obtain ⟨sessions, hInsert, rfl⟩ := (except_map_eq_ok_iff ..).mp h
    refine KeyMap.forall_of_tryInsert hPrior (fun session hStarted => ?_) hInsert
    obtain ⟨payload, _, rfl⟩ := (except_map_eq_ok_iff ..).mp hStarted
    rfl
  case h_4 hType =>
    obtain ⟨sessions, hModify, rfl⟩ := (except_map_eq_ok_iff ..).mp h
    exact hClosed _ _ hModify
  case h_5 hType =>
    obtain ⟨sessions, hModify, rfl⟩ := (except_map_eq_ok_iff ..).mp h
    exact hClosed _ _ hModify
  all_goals first
    | obtain ⟨records, hRecords, rfl⟩ := (except_map_eq_ok_iff ..).mp h
      exact hPrior
    | rw [← Except.ok.inj h]
      exact hPrior

/-- An event that reopens nothing keeps the records consistent. -/
theorem Consistent.apply (hPrior : projection.Consistent)
    (h : projection.apply event = .ok next)
    (hKeeps : ∀ id, event.entityId = some id → ¬ projection.Reopens event.eventType id) :
    next.Consistent := by
  unfold NetControlProjection.apply at h
  cases hId : event.entityId with
  | none =>
      simp only [hId] at h
      rw [← Except.ok.inj h]
      exact hPrior
  | some id =>
      simp only [hId] at h
      obtain ⟨middle, hMiddle, rfl⟩ := (except_map_eq_ok_iff ..).mp h
      exact .recomputed (deleted_applyRecords hMiddle hPrior.deleted (hKeeps id hId))
        (named_applyRecords hMiddle hPrior.named)

/-- An event that reopens nothing, and ends only active sessions, leaves the
sessions that are over as they are. -/
theorem staysOver_applyRecords (h : projection.applyRecords event entityId = .ok next)
    (hKeeps : ¬ projection.Reopens event.eventType entityId)
    (hEnds : event.eventType = .netSessionEnded →
      ∀ session, projection.getSession entityId = some session → session.status = .active) :
    projection.StaysOver next := by
  have hSame : ∀ later : NetControlProjection, later.sessions = projection.sessions →
      projection.StaysOver later := by
    intro later hSessions id session hSession _
    exact ⟨session, by rw [getSession, hSessions]; exact hSession, rfl⟩
  have hClosed : ∀ status sessions, projection.sessions.tryModify entityId
      (closedSession event status) = .ok sessions →
        (∀ session, projection.getSession entityId = some session →
          session.status.isTerminal = true → status = session.status) →
        projection.StaysOver { projection with sessions := sessions } := by
    intro status sessions hModify hStatus id session hSession hOver
    rcases KeyMap.lookup_of_tryModify hModify id with ⟨_, hKept⟩ | ⟨hKey, hNone, _⟩ |
      ⟨hKey, old, new, hOld, hChange, hNew⟩
    · exact ⟨session, hKept.trans hSession, rfl⟩
    · rw [getSession, hKey, hNone] at hSession
      cases hSession
    · rw [hKey] at hSession ⊢
      obtain rfl : old = session := Option.some.inj (hOld.symm.trans hSession)
      obtain ⟨payload, _, rfl⟩ := (except_map_eq_ok_iff ..).mp hChange
      exact ⟨_, hNew, hStatus old hSession hOver⟩
  unfold applyRecords at h
  unfold Reopens at hKeeps
  split at h
  case h_3 hType =>
    rw [hType] at hKeeps
    obtain ⟨sessions, hInsert, rfl⟩ := (except_map_eq_ok_iff ..).mp h
    obtain ⟨new, _, rfl⟩ := (KeyMap.tryInsert_eq_ok_iff ..).mp hInsert
    intro id session hSession hOver
    have hOther : id ≠ entityId := by
      intro hKey
      exact hKeeps ⟨session, hKey ▸ hSession, hOver⟩
    exact ⟨session, (AList.lookup_insert_ne hOther).trans hSession, rfl⟩
  case h_4 hType =>
    obtain ⟨sessions, hModify, rfl⟩ := (except_map_eq_ok_iff ..).mp h
    refine hClosed _ _ hModify fun session hSession hOver => ?_
    rw [hEnds hType session hSession] at hOver
    cases hOver
  case h_5 hType =>
    rw [hType] at hKeeps
    obtain ⟨sessions, hModify, rfl⟩ := (except_map_eq_ok_iff ..).mp h
    refine hClosed _ _ hModify fun session hSession hOver => ?_
    cases hStatus : session.status with
    | cancelled => rfl
    | ended => exact absurd ⟨session, hSession, hStatus⟩ hKeeps
    | planned => simp [hStatus, NetSessionStatus.isTerminal] at hOver
    | active => simp [hStatus, NetSessionStatus.isTerminal] at hOver
  all_goals first
    | obtain ⟨records, hRecords, rfl⟩ := (except_map_eq_ok_iff ..).mp h
      exact hSame _ rfl
    | rw [← Except.ok.inj h]
      exact hSame _ rfl

theorem staysOver_apply (h : projection.apply event = .ok next)
    (hKeeps : ∀ id, event.entityId = some id → ¬ projection.Reopens event.eventType id)
    (hEnds : ∀ id, event.entityId = some id → event.eventType = .netSessionEnded →
      ∀ session, projection.getSession id = some session → session.status = .active) :
    projection.StaysOver next := by
  unfold NetControlProjection.apply at h
  cases hId : event.entityId with
  | none =>
      simp only [hId] at h
      rw [← Except.ok.inj h]
      exact fun id session hSession _ => ⟨session, hSession, rfl⟩
  | some id =>
      simp only [hId] at h
      obtain ⟨middle, hMiddle, rfl⟩ := (except_map_eq_ok_iff ..).mp h
      exact staysOver_recomputed (staysOver_applyRecords hMiddle (hKeeps id hId) (hEnds id hId))

end Events
end NetControlProjection

theorem requireEntityId_ok {proposal : ProposalEnvelope} {id : Uuid}
    (h : requireEntityId proposal = .ok id) : proposal.entityId = some id := by
  unfold requireEntityId at h
  split at h
  · next named hNamed =>
      rw [hNamed, Except.ok.inj h]
  · cases h

section Checks
variable [UuidCrate]

theorem existingNetSession_ok {projection : NetControlProjection} {sessionId : Uuid}
    {session : NetSessionRecord} (h : existingNetSession projection sessionId = .ok session) :
    projection.getSession sessionId = some session := by
  unfold existingNetSession at h
  split at h
  · next found hFound =>
      rw [hFound, Except.ok.inj h]
  · cases h

variable [CanonicalJson] [Sha2Crate] {store : InMemoryLogbookEventStore}
  {proposal : ProposalEnvelope}

theorem rebuildNetProjection_ok {logbookId : Uuid} {projection : NetControlProjection}
    (h : rebuildNetProjection store logbookId = .ok projection) :
    rebuild NetControlProjection (store.listEvents logbookId) = .ok projection := by
  have hRebuild : (rebuild NetControlProjection (store.listEvents logbookId)).mapError
      (fun error => ProposalValidationError.invalidSchema error.toString) = .ok projection := h
  cases hOutcome : rebuild NetControlProjection (store.listEvents logbookId) with
  | ok found =>
      rw [hOutcome, Outcome.mapError_ok] at hRebuild
      rw [Except.ok.inj hRebuild]
  | error fault =>
      rw [hOutcome] at hRebuild
      cases fault <;> cases hRebuild

/-- A session that may be ended is active in the records. -/
theorem requireExistingActiveNetSession_ok {id : Uuid}
    (h : requireExistingActiveNetSession store proposal = .ok id) :
    proposal.entityId = some id ∧ ∃ projection session,
      rebuild NetControlProjection (store.listEvents proposal.logbookId) = .ok projection ∧
        projection.getSession id = some session ∧ session.status = .active := by
  unfold requireExistingActiveNetSession at h
  obtain ⟨sessionId, hExisting, hRest⟩ := (except_bind_eq_ok_iff ..).mp h
  obtain ⟨named, hNamed, hFound⟩ := (except_bind_eq_ok_iff ..).mp hExisting
  obtain ⟨_, _, hFound⟩ := (except_bind_eq_ok_iff ..).mp hFound
  obtain ⟨_, _, hFound⟩ := (except_bind_eq_ok_iff ..).mp hFound
  obtain ⟨projection, hProjection, hRest⟩ := (except_bind_eq_ok_iff ..).mp hRest
  obtain ⟨session, hSession, hRest⟩ := (except_bind_eq_ok_iff ..).mp hRest
  split at hRest
  · cases hRest
  · next hActive =>
      obtain rfl : named = sessionId := Except.ok.inj hFound
      obtain rfl : named = id := Except.ok.inj hRest
      exact ⟨requireEntityId_ok hNamed, projection, session, rebuildNetProjection_ok hProjection,
        existingNetSession_ok hSession, not_not.mp hActive⟩

/-- A session that an accepted event ends is active. -/
theorem Accepts.endsActive [ChronoCrate] {context : ProposalContext} {fresh id : Uuid}
    {newEvent : NewLogbookEvent} (h : Accepts store context proposal fresh newEvent)
    (hType : newEvent.eventType = .netSessionEnded) (hId : newEvent.entityId = some id)
    {projection : NetControlProjection} (hRebuild : rebuild NetControlProjection
      (store.listEvents proposal.logbookId) = .ok projection) {session : NetSessionRecord}
    (hSession : projection.getSession id = some session) : session.status = .active := by
  have hOfficial := toOfficialEvent_ok h.official
  obtain ⟨creates, hEvent⟩ := hOfficial.eventType
  have hProposal : proposal.proposalType = .netSessionEnd := by
    rw [hType] at hEvent
    cases hProposal : proposal.proposalType <;> simp_all [officialEventType]
  obtain ⟨_, payload, _, hValid⟩ := validateQsoSchema_ok h.valid
  unfold validatePayload at hValid
  rw [hProposal] at hValid
  obtain ⟨named, hNamed, _⟩ := (except_bind_eq_ok_iff ..).mp hValid
  obtain ⟨hEntity, found, active, hFound, hActive, hStatus⟩ :=
    requireExistingActiveNetSession_ok hNamed
  obtain ⟨entity, hOwn, hSame, _⟩ := hOfficial.entity
  have hKey : id = named := by
    rw [← hSame named hEntity]
    exact Option.some.inj (hId.symm.trans hOwn)
  obtain rfl : found = projection := Except.ok.inj (hFound.symm.trans hRebuild)
  rw [hKey] at hSession
  rw [← hStatus, Option.some.inj (hActive.symm.trans hSession)]

end Checks

section Runs
variable {B : Type} [EventBus B] [UuidCrate] [ChronoCrate] [RustFmt] [CanonicalJson] [Sha2Crate]

/-- The event reopens nothing that the events before it closed. -/
def ReopensNothing (seen : List CoreEventEnvelope) (newEvent : NewLogbookEvent) : Prop :=
  ∀ id projection, newEvent.entityId = some id →
    rebuild NetControlProjection seen = .ok projection →
      ¬ projection.Reopens newEvent.eventType id

/-- The same of a recorded event, which also ends only active sessions. -/
def KeepsClosed (seen : List CoreEventEnvelope) (event : CoreEventEnvelope) : Prop :=
  ∀ id projection, event.entityId = some id →
    rebuild NetControlProjection seen = .ok projection →
      ¬ projection.Reopens event.eventType id ∧ (event.eventType = .netSessionEnded →
        ∀ session, projection.getSession id = some session → session.status = .active)

theorem readable_run {logbookId : Uuid} {start final : InMemoryLogbookEventStore × B}
    {calls : List SubmitCall} (hStart : start.1.Consistent)
    (hLog : Accepted (fun seen event => Readable seen event ∧ KeepsClosed seen event)
      (start.1.listEvents logbookId))
    (run : Run ((proposalSystem B).restrict (AcceptsOnly logbookId ReopensNothing)) start calls
      final) : final.1.Consistent ∧
    Accepted (fun seen event => Readable seen event ∧ KeepsClosed seen event)
      (final.1.listEvents logbookId) := by
  refine accepted_run ?_ run hStart hLog
  intro store context proposal fresh newEvent stamp hAccepts hLogbook hReopens
  refine ⟨hAccepts.readable _ _ _, ?_⟩
  intro id projection hId hRebuild
  rw [officialEventAt, CoreEventEnvelope.fromNew_eventType]
  refine ⟨hReopens id projection hId hRebuild, ?_⟩
  intro hType session hSession
  exact hAccepts.endsActive hType hId (hLogbook ▸ hRebuild) hSession

/-- As long as no accepted proposal reopens what is closed, check-ins are
deleted as their status says, the counters of every session are those of a
recount, and a session that is over stays as it is. -/
theorem net_states_hold {logbookId : Uuid} {start : InMemoryLogbookEventStore} {bus : B}
    {calls : List SubmitCall} {middle : InMemoryLogbookEventStore × B} (hStart : start.Consistent)
    (hEmpty : start.listEvents logbookId = [])
    (run : Run ((proposalSystem B).restrict (AcceptsOnly logbookId ReopensNothing)) (start, bus)
      calls middle) :
    ∃ projection, rebuild NetControlProjection (middle.1.listEvents logbookId) =
        .ok projection ∧ projection.Consistent ∧
      ∀ more final, Run ((proposalSystem B).restrict (AcceptsOnly logbookId ReopensNothing))
          middle more final → ∃ last, rebuild NetControlProjection
            (final.1.listEvents logbookId) = .ok last ∧ projection.StaysOver last := by
  obtain ⟨hMiddle, hLog⟩ :=
    readable_run hStart (by rw [hEmpty]; exact Replay.accepted_nil _) run
  obtain ⟨hReadable, hClosed⟩ := (Replay.accepted_and _ _ _).mp hLog
  obtain ⟨projection, hRebuild⟩ := ((rebuilds_iff_readable _).mpr hReadable).2.2
  refine ⟨projection, hRebuild, ?_, ?_⟩
  · refine (Replay.replay_invariant (fun seen state =>
      rebuild NetControlProjection seen = .ok state ∧ state.Consistent) ?_ [] ?_ hClosed hRebuild).2
    · intro seen state event next hEvent hPrior hNext
      refine ⟨Projection.rebuild_snoc hPrior.1 hNext, hPrior.2.apply hNext ?_⟩
      exact fun id hId => (hEvent id state hId hPrior.1).1
    · refine ⟨rfl, ?_, ?_, ?_⟩ <;> intro id record hNone <;> cases hNone
  · intro more final runOn
    obtain ⟨_, hLater⟩ := readable_run hMiddle hLog runOn
    obtain ⟨hLaterReadable, hLaterClosed⟩ := (Replay.accepted_and _ _ _).mp hLater
    obtain ⟨last, hLast⟩ := ((rebuilds_iff_readable _).mpr hLaterReadable).2.2
    obtain ⟨_, events, hEvents⟩ := listEvents_run runOn.of_restrict hMiddle logbookId
    rw [hEvents] at hLast hLaterClosed ⊢
    refine ⟨last, hLast, ?_⟩
    refine (Replay.replay_invariant (fun seen state =>
      rebuild NetControlProjection seen = .ok state ∧ projection.StaysOver state) ?_ _
      ⟨hRebuild, ?_⟩ hLaterClosed (Projection.replay_of_rebuild hRebuild hLast)).2
    · intro seen state event next hEvent hPrior hNext
      refine ⟨Projection.rebuild_snoc hPrior.1 hNext, hPrior.2.trans ?_⟩
      exact NetControlProjection.staysOver_apply hNext
        (fun id hId => (hEvent id state hId hPrior.1).1)
        fun id hId => (hEvent id state hId hPrior.1).2
    · exact fun id session hSession _ => ⟨session, hSession, rfl⟩

end Runs
section
open Crates

/-! A session and a check-in of the first logbook. -/

def sampleStart (eventId : Uuid) : SubmitCall :=
  sampleSubmit .netSessionStart .netSessionStart 2
    [("net_control_operator_id", .string "KE8YGW"), ("net_name", .string "Weekly net"),
      ("started_at", .string "2026-07-06T12:00:00Z"), ("station_callsign", .string "KE8YGW")]
    eventId

def sampleEnd (eventId : Uuid) : SubmitCall :=
  sampleSubmit .netSessionEnd .netSessionEnd 2
    [("ended_at", .string "2026-07-06T13:00:00Z")] eventId

def sampleCheckin (eventId : Uuid) : SubmitCall :=
  sampleSubmit .netCheckinCreate .netCheckinCreate 6
    [("callsign", .string "W1AW"), ("checkin_time", .string "2026-07-06T12:10:00Z"),
      ("net_session_id", .string "00000000-0000-0000-0000-000000000002")] eventId

def sampleCancel (eventId : Uuid) : SubmitCall :=
  sampleSubmit .netSessionCancel .netSessionEnd 2 [] eventId

/-- A check-in is deleted and then corrected. -/
def correctedCheckin : List SubmitCall :=
  [sampleStart 10, sampleCheckin 11, sampleSubmit .netCheckinDelete .netCheckinDelete 6 [] 12,
    sampleSubmit .netCheckinUpdate .netCheckinUpdate 6 [("status", .string "late")] 13]

/-- The net records of the first logbook after submissions. -/
def netAfter (calls : List SubmitCall) : Option NetControlProjection :=
  (rebuild NetControlProjection
    ((calls.foldl afterSubmission emptyLogbooks).1.listEvents 1)).toOption

def sessionStatusAfter (calls : List SubmitCall) : Option NetSessionStatus :=
  ((netAfter calls).bind fun projection => projection.getSession 2).map NetSessionRecord.status

def checkinAfter (calls : List SubmitCall) : Option (Bool × NetCheckInStatus) :=
  ((netAfter calls).bind fun projection => projection.checkins.lookup 6).map fun checkin =>
    (checkin.deleted, checkin.status)

theorem net_states_hold_ended :
    ∃ projection, rebuild NetControlProjection
        (([sampleStart 10, sampleEnd 11].foldl afterSubmission emptyLogbooks).1.listEvents 1) =
          .ok projection ∧ projection.Consistent := by
  have hStart : AcceptsOnly 1 ReopensNothing emptyLogbooks (sampleStart 10) := by
    intro _ newEvent hAccepts id projection _ hRebuild hReopens
    rw [← Except.ok.inj hAccepts.official] at hReopens
    obtain ⟨session, hSession, _⟩ := hReopens
    rw [← Except.ok.inj hRebuild] at hSession
    cases hSession
  have hEnd : AcceptsOnly 1 ReopensNothing (afterSubmission emptyLogbooks (sampleStart 10))
      (sampleEnd 11) := by
    intro _ newEvent hAccepts id projection _ _ hReopens
    rw [← Except.ok.inj hAccepts.official] at hReopens
    exact hReopens
  have hSubmits : SubmitsOnly (AcceptsOnly 1 ReopensNothing) emptyLogbooks
      [sampleStart 10, sampleEnd 11] := ⟨hStart, rfl, hEnd, by decide +kernel, trivial⟩
  obtain ⟨projection, hRebuild, hConsistent, _⟩ := net_states_hold
    ⟨[], InMemoryLogbookEventStore.represents_empty⟩ rfl hSubmits.run
  exact ⟨projection, hRebuild, hConsistent⟩

/-- An ended session is started again, an ended session is cancelled, and a
deleted check-in is corrected, which changes its status and not its mark. -/
theorem ended_session_starts_again :
    (Run (proposalSystem InMemoryEventBus) emptyLogbooks
        [sampleStart 10, sampleEnd 11, sampleStart 12]
        ([sampleStart 10, sampleEnd 11, sampleStart 12].foldl afterSubmission emptyLogbooks) ∧
      sessionStatusAfter [sampleStart 10, sampleEnd 11] = some .ended ∧
      sessionStatusAfter [sampleStart 10, sampleEnd 11, sampleStart 12] = some .active) ∧
    (Run (proposalSystem InMemoryEventBus) emptyLogbooks
        [sampleStart 10, sampleEnd 11, sampleCancel 12]
        ([sampleStart 10, sampleEnd 11, sampleCancel 12].foldl afterSubmission emptyLogbooks) ∧
      sessionStatusAfter [sampleStart 10, sampleEnd 11, sampleCancel 12] = some .cancelled) ∧
    Run (proposalSystem InMemoryEventBus) emptyLogbooks correctedCheckin
        (correctedCheckin.foldl afterSubmission emptyLogbooks) ∧
      checkinAfter correctedCheckin = some (true, .late) := by
  have hRun : ∀ calls, SubmitsOnly (fun _ _ => True) emptyLogbooks calls →
      Run (proposalSystem InMemoryEventBus) emptyLogbooks calls
        (calls.foldl afterSubmission emptyLogbooks) :=
    fun calls h => h.run.of_restrict
  refine ⟨⟨hRun _ ?_, by decide +kernel, by decide +kernel⟩, ⟨hRun _ ?_, by decide +kernel⟩,
    hRun _ ?_, by decide +kernel⟩
  · exact ⟨trivial, rfl, trivial, by decide +kernel, trivial, by decide +kernel, trivial⟩
  · exact ⟨trivial, rfl, trivial, by decide +kernel, trivial, by decide +kernel, trivial⟩
  · exact ⟨trivial, rfl, trivial, by decide +kernel, trivial, by decide +kernel, trivial,
      by decide +kernel, trivial⟩

end
end HamLogger
