import HamLogger.Core.Readability

/-! The net projection fails exactly on its unreadable events. With the
contacts and the activations this decides when a whole log can be read. -/
namespace HamLogger

open Projection (Rebuilds)
open Replay (Decided Accepted)

/-- The four maps of the net projection hold what was created. -/
structure NetTracks (seen : List CoreEventEnvelope) (projection : NetControlProjection) :
    Prop where
  templates : Tracks [.netTemplateCreated] seen projection.templates
  sessions : Tracks [.netSessionStarted] seen projection.sessions
  checkins : Tracks [.netCheckinCreated] seen projection.checkins
  traffic : Tracks [.netTrafficCreated] seen projection.traffic

/-- An event that creates no net record and keeps the keys of every map. -/
theorem NetTracks.keep {seen : List CoreEventEnvelope} {projection changed : NetControlProjection}
    (h : NetTracks seen projection) {event : CoreEventEnvelope}
    (hOther : event.eventType ∉ [EventType.netTemplateCreated, .netSessionStarted,
      .netCheckinCreated, .netTrafficCreated])
    (hTemplates : ∀ id, id ∈ changed.templates ↔ id ∈ projection.templates)
    (hSessions : ∀ id, id ∈ changed.sessions ↔ id ∈ projection.sessions)
    (hCheckins : ∀ id, id ∈ changed.checkins ↔ id ∈ projection.checkins)
    (hTraffic : ∀ id, id ∈ changed.traffic ↔ id ∈ projection.traffic) :
    NetTracks (seen ++ [event]) changed where
  templates := h.templates.keep (by simp_all) hTemplates
  sessions := h.sessions.keep (by simp_all) hSessions
  checkins := h.checkins.keep (by simp_all) hCheckins
  traffic := h.traffic.keep (by simp_all) hTraffic

/-- An event about no entity creates nothing. -/
theorem NetTracks.keep_of_no_entity {seen : List CoreEventEnvelope}
    {projection : NetControlProjection} (h : NetTracks seen projection)
    {event : CoreEventEnvelope} (hId : event.entityId = none) :
    NetTracks (seen ++ [event]) projection where
  templates := h.templates.keep_of_no_entity hId
  sessions := h.sessions.keep_of_no_entity hId
  checkins := h.checkins.keep_of_no_entity hId
  traffic := h.traffic.keep_of_no_entity hId

/-- Recomputing the statistics keeps the keys of the sessions. -/
theorem NetTracks.recomputeStats {seen : List CoreEventEnvelope}
    {projection : NetControlProjection} (h : NetTracks seen projection) :
    NetTracks seen projection.recomputeStats where
  templates := h.templates
  sessions := fun id => by
    rw [NetControlProjection.recomputeStats, KeyMap.mem_mapValues]
    exact h.sessions id
  checkins := h.checkins
  traffic := h.traffic

theorem netMergeJsonObject_succeeds_iff (target patch : Value) :
    (∃ merged, netMergeJsonObject target patch = .ok merged) ↔ patch.isObject = true :=
  Value.mergeObject_succeeds_iff ..

theorem closedSession_succeeds_iff (event : CoreEventEnvelope) (status : NetSessionStatus)
    (session : NetSessionRecord) :
    (∃ next, NetControlProjection.closedSession event status session = .ok next) ↔
      event.payload.isObject = true := by
  rw [NetControlProjection.closedSession, map_succeeds_iff, netMergeJsonObject_succeeds_iff]

theorem updatedCheckin_succeeds_iff (event : CoreEventEnvelope) (checkin : NetCheckInRecord) :
    (∃ next, NetControlProjection.updatedCheckin event checkin = .ok next) ↔
      event.payload.isObject = true := by
  rw [NetControlProjection.updatedCheckin, map_succeeds_iff, netMergeJsonObject_succeeds_iff]

theorem updatedTraffic_succeeds_iff (event : CoreEventEnvelope) (traffic : NetTrafficRecord) :
    (∃ next, NetControlProjection.updatedTraffic event traffic = .ok next) ↔
      event.payload.isObject = true := by
  rw [NetControlProjection.updatedTraffic, map_succeeds_iff, netMergeJsonObject_succeeds_iff]

section Steps
variable [UuidCrate]

theorem createdTemplate_succeeds_iff (event : CoreEventEnvelope) (id : Uuid) :
    (∃ template, NetControlProjection.createdTemplate event id = .ok template) ↔
      event.payload.isIndexable = true :=
  assignField_succeeds_iff ..

theorem startedSession_succeeds_iff (event : CoreEventEnvelope) (id : Uuid) :
    (∃ session, NetControlProjection.startedSession event id = .ok session) ↔
      event.payload.isIndexable = true := by
  rw [NetControlProjection.startedSession, map_succeeds_iff, assignField_succeeds_iff]

/-- A record that names its session is built when its payload names one. -/
theorem named_session_succeeds_iff {Record : Type} (payload : Value) (key : String) (new : Value)
    (build : Uuid → Value → Record) :
    (∃ record, (match uuidFromPayload payload "net_session_id" with
      | .error fault => .error fault
      | .ok session => (assignField payload key new).map (build session) :
        Outcome NetProjectionError Record) = .ok record) ↔
      (uuidField payload "net_session_id").isSome = true := by
  rw [← uuidFromPayload_succeeds_iff]
  cases hSession : uuidFromPayload payload "net_session_id" with
  | error fault => simp
  | ok session =>
      have hNamed : (uuidField payload "net_session_id").isSome = true :=
        (uuidFromPayload_succeeds_iff ..).mp ⟨session, hSession⟩
      have hIndexable := Value.isIndexable_of_isObject (isObject_of_uuidField hNamed)
      refine iff_of_true ?_ ⟨session, rfl⟩
      rw [map_succeeds_iff, assignField_succeeds_iff]
      exact hIndexable

theorem createdCheckin_succeeds_iff (event : CoreEventEnvelope) (id : Uuid) :
    (∃ checkin, NetControlProjection.createdCheckin event id = .ok checkin) ↔
      (uuidField event.payload "net_session_id").isSome = true :=
  named_session_succeeds_iff ..

theorem createdTraffic_succeeds_iff (event : CoreEventEnvelope) (id : Uuid) :
    (∃ traffic, NetControlProjection.createdTraffic event id = .ok traffic) ↔
      (uuidField event.payload "net_session_id").isSome = true :=
  named_session_succeeds_iff ..

variable {seen : List CoreEventEnvelope} {event : CoreEventEnvelope} {id : Uuid}

/-- A creation of a kind the projection can fail on needs its own condition. -/
theorem readableOf_creation (hId : event.entityId = some id) (hKind : event.eventType ∈ netKinds)
    (hAmends : amends event.eventType = []) :
    ReadableOf netKinds seen event ↔ CreationReadable event := by
  rw [readableOf_iff hId hKind, hAmends]
  simp [not_createdEarlier_nil]

/-- The net records fail exactly on their unreadable events. -/
theorem net_records_succeeds_iff {projection : NetControlProjection}
    (h : NetTracks seen projection) (hId : event.entityId = some id) :
    (∃ next, projection.applyRecords event id = .ok next) ↔ ReadableOf netKinds seen event := by
  unfold NetControlProjection.applyRecords
  split
  · rename_i hType
    rw [map_succeeds_iff, tryInsert_succeeds_iff, createdTemplate_succeeds_iff,
      readableOf_creation hId (by simp [netKinds, hType]) (by simp [amends, hType])]
    simp [CreationReadable, hType]
  · rename_i hType
    rw [map_succeeds_iff, tryModify_succeeds_of_tracks h.templates id fun template =>
      netMergeJsonObject_succeeds_iff template event.payload,
      readableOf_iff hId (by simp [netKinds, hType])]
    simp [CreationReadable, amends, hType]
  · rename_i hType
    rw [map_succeeds_iff, tryInsert_succeeds_iff, startedSession_succeeds_iff,
      readableOf_creation hId (by simp [netKinds, hType]) (by simp [amends, hType])]
    simp [CreationReadable, hType]
  · rename_i hType
    rw [map_succeeds_iff,
      tryModify_succeeds_of_tracks h.sessions id (closedSession_succeeds_iff event _),
      readableOf_iff hId (by simp [netKinds, hType])]
    simp [CreationReadable, amends, hType]
  · rename_i hType
    rw [map_succeeds_iff,
      tryModify_succeeds_of_tracks h.sessions id (closedSession_succeeds_iff event _),
      readableOf_iff hId (by simp [netKinds, hType])]
    simp [CreationReadable, amends, hType]
  · rename_i hType
    rw [map_succeeds_iff, tryInsert_succeeds_iff, createdCheckin_succeeds_iff,
      readableOf_creation hId (by simp [netKinds, hType]) (by simp [amends, hType])]
    simp [CreationReadable, hType]
  · rename_i hType
    rw [map_succeeds_iff,
      tryModify_succeeds_of_tracks h.checkins id (updatedCheckin_succeeds_iff event),
      readableOf_iff hId (by simp [netKinds, hType])]
    simp [CreationReadable, amends, hType]
  · exact iff_of_true ⟨_, rfl⟩ fun hKind => by simp_all [netKinds]
  · rename_i hType
    rw [map_succeeds_iff, tryInsert_succeeds_iff, createdTraffic_succeeds_iff,
      readableOf_creation hId (by simp [netKinds, hType]) (by simp [amends, hType])]
    simp [CreationReadable, hType]
  · rename_i hType
    rw [map_succeeds_iff,
      tryModify_succeeds_of_tracks h.traffic id (updatedTraffic_succeeds_iff event),
      readableOf_iff hId (by simp [netKinds, hType])]
    simp [CreationReadable, amends, hType]
  · exact iff_of_true ⟨_, rfl⟩ fun hKind => by simp_all [netKinds]
  · exact iff_of_true ⟨_, rfl⟩ fun hKind => by simp_all [netKinds]

theorem net_records_keeps {projection next : NetControlProjection}
    (h : NetTracks seen projection) (hId : event.entityId = some id)
    (hApply : projection.applyRecords event id = .ok next) : NetTracks (seen ++ [event]) next := by
  unfold NetControlProjection.applyRecords at hApply
  split at hApply
  · rename_i hType
    obtain ⟨templates, hInsert, rfl⟩ := (except_map_eq_ok_iff ..).mp hApply
    obtain ⟨template, _, rfl⟩ := (KeyMap.tryInsert_eq_ok_iff ..).mp hInsert
    exact ⟨h.templates.insert (by simp [hType]) hId template,
      h.sessions.keep (by simp [hType]) fun _ => Iff.rfl,
      h.checkins.keep (by simp [hType]) fun _ => Iff.rfl,
      h.traffic.keep (by simp [hType]) fun _ => Iff.rfl⟩
  · rename_i hType
    obtain ⟨templates, hModify, rfl⟩ := (except_map_eq_ok_iff ..).mp hApply
    exact h.keep (by simp [hType]) (KeyMap.mem_of_tryModify hModify) (fun _ => Iff.rfl)
      (fun _ => Iff.rfl) fun _ => Iff.rfl
  · rename_i hType
    obtain ⟨sessions, hInsert, rfl⟩ := (except_map_eq_ok_iff ..).mp hApply
    obtain ⟨session, _, rfl⟩ := (KeyMap.tryInsert_eq_ok_iff ..).mp hInsert
    exact ⟨h.templates.keep (by simp [hType]) fun _ => Iff.rfl,
      h.sessions.insert (by simp [hType]) hId session,
      h.checkins.keep (by simp [hType]) fun _ => Iff.rfl,
      h.traffic.keep (by simp [hType]) fun _ => Iff.rfl⟩
  · rename_i hType
    obtain ⟨sessions, hModify, rfl⟩ := (except_map_eq_ok_iff ..).mp hApply
    exact h.keep (by simp [hType]) (fun _ => Iff.rfl) (KeyMap.mem_of_tryModify hModify)
      (fun _ => Iff.rfl) fun _ => Iff.rfl
  · rename_i hType
    obtain ⟨sessions, hModify, rfl⟩ := (except_map_eq_ok_iff ..).mp hApply
    exact h.keep (by simp [hType]) (fun _ => Iff.rfl) (KeyMap.mem_of_tryModify hModify)
      (fun _ => Iff.rfl) fun _ => Iff.rfl
  · rename_i hType
    obtain ⟨checkins, hInsert, rfl⟩ := (except_map_eq_ok_iff ..).mp hApply
    obtain ⟨checkin, _, rfl⟩ := (KeyMap.tryInsert_eq_ok_iff ..).mp hInsert
    exact ⟨h.templates.keep (by simp [hType]) fun _ => Iff.rfl,
      h.sessions.keep (by simp [hType]) fun _ => Iff.rfl,
      h.checkins.insert (by simp [hType]) hId checkin,
      h.traffic.keep (by simp [hType]) fun _ => Iff.rfl⟩
  · rename_i hType
    obtain ⟨checkins, hModify, rfl⟩ := (except_map_eq_ok_iff ..).mp hApply
    exact h.keep (by simp [hType]) (fun _ => Iff.rfl) (fun _ => Iff.rfl)
      (KeyMap.mem_of_tryModify hModify) fun _ => Iff.rfl
  · rename_i hType
    obtain rfl := Except.ok.inj hApply
    exact h.keep (by simp [hType]) (fun _ => Iff.rfl) (fun _ => Iff.rfl)
      (fun other => by simp) fun _ => Iff.rfl
  · rename_i hType
    obtain ⟨traffic, hInsert, rfl⟩ := (except_map_eq_ok_iff ..).mp hApply
    obtain ⟨record, _, rfl⟩ := (KeyMap.tryInsert_eq_ok_iff ..).mp hInsert
    exact ⟨h.templates.keep (by simp [hType]) fun _ => Iff.rfl,
      h.sessions.keep (by simp [hType]) fun _ => Iff.rfl,
      h.checkins.keep (by simp [hType]) fun _ => Iff.rfl,
      h.traffic.insert (by simp [hType]) hId record⟩
  · rename_i hType
    obtain ⟨traffic, hModify, rfl⟩ := (except_map_eq_ok_iff ..).mp hApply
    exact h.keep (by simp [hType]) (fun _ => Iff.rfl) (fun _ => Iff.rfl) (fun _ => Iff.rfl)
      (KeyMap.mem_of_tryModify hModify)
  all_goals
    obtain rfl := Except.ok.inj hApply
    exact h.keep (by simp_all) (fun _ => Iff.rfl) (fun _ => Iff.rfl) (fun _ => Iff.rfl)
      fun _ => Iff.rfl

/-- The net projection fails exactly on its unreadable events. -/
theorem net_decided : Decided (Projection.apply (P := NetControlProjection)) NetTracks
    (ReadableOf netKinds) where
  succeeds seen projection event h := by
    show (∃ next, projection.apply event = .ok next) ↔ _
    unfold NetControlProjection.apply
    cases hId : event.entityId with
    | none => exact iff_of_true ⟨_, rfl⟩ (readableOf_of_no_entity hId)
    | some id =>
        dsimp only
        rw [map_succeeds_iff]
        exact net_records_succeeds_iff h hId
  keeps seen projection event next h hApply := by
    have hStep : projection.apply event = .ok next := hApply
    unfold NetControlProjection.apply at hStep
    cases hId : event.entityId with
    | none =>
        rw [hId] at hStep
        obtain rfl : projection = next := by simpa using hStep
        exact h.keep_of_no_entity hId
    | some id =>
        rw [hId] at hStep
        obtain ⟨records, hRecords, rfl⟩ := (except_map_eq_ok_iff ..).mp hStep
        exact (net_records_keeps h hId hRecords).recomputeStats

end Steps

theorem netTracks_empty : NetTracks [] {} where
  templates := Tracks.empty _
  sessions := Tracks.empty _
  checkins := Tracks.empty _
  traffic := Tracks.empty _

/-- The three projections can be rebuilt from a log exactly when every event
of the log is readable after the events before it. -/
theorem rebuilds_iff_readable [UuidCrate] (log : List CoreEventEnvelope) :
    (Rebuilds QsoCurrentStateProjection log ∧ Rebuilds ActivationProjection log ∧
      Rebuilds NetControlProjection log) ↔ Accepted Readable log := by
  have hQso : Rebuilds QsoCurrentStateProjection log ↔ Accepted (ReadableOf qsoKinds) log :=
    qso_decided.succeeds_iff (Tracks.empty _) log
  have hActivation : Rebuilds ActivationProjection log ↔
      Accepted (ReadableOf qsoKinds) log ∧ Accepted (ReadableOf activationKinds) log :=
    (activation_decided.succeeds_iff ⟨Tracks.empty _, Tracks.empty _⟩ log).trans
      (Replay.accepted_and ..)
  have hNet : Rebuilds NetControlProjection log ↔ Accepted (ReadableOf netKinds) log :=
    net_decided.succeeds_iff netTracks_empty log
  have hAll : Accepted Readable log ↔ Accepted (ReadableOf qsoKinds) log ∧
      Accepted (ReadableOf activationKinds) log ∧ Accepted (ReadableOf netKinds) log := by
    rw [← Replay.accepted_and, ← Replay.accepted_and]
    exact forall_congr' fun seen => forall_congr' fun event => forall_congr' fun rest =>
      imp_congr_right fun _ => readable_iff seen event
  rw [hQso, hActivation, hNet, hAll]
  tauto

end HamLogger
