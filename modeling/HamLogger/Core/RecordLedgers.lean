import HamLogger.Core.Net
import HamLogger.Library.Ledger

/-! What the events of a logbook add to each contact, activation and net
record: its notes, its links and the fields of its payload. An event that
creates a record puts a new one in place of an older one. -/
namespace HamLogger

/-- The ledger of an entity that its events name, by the types that create it
and the types that amend it. -/
def entityLedger {Contents : Type} (creating amending : List EventType) (id : Uuid)
    (first : CoreEventEnvelope → Option Contents)
    (amend : CoreEventEnvelope → Contents → Contents) : Ledger CoreEventEnvelope Contents where
  creates event :=
    if event.entityId = some id ∧ event.eventType ∈ creating then first event else none
  amends event contents :=
    if event.entityId = some id ∧ event.eventType ∈ amending then amend event contents
    else contents

section EntityLedger
variable {Contents : Type} {creating amending : List EventType} {id : Uuid}
  {first : CoreEventEnvelope → Option Contents}
  {amend : CoreEventEnvelope → Contents → Contents} {event : CoreEventEnvelope}
  {old : Option Contents}

/-- An event about no entity leaves the contents alone. -/
theorem entityLedger_none (h : event.entityId = none) :
    (entityLedger creating amending id first amend).replace old event = old := by
  cases old <;> simp [entityLedger, Ledger.replace, h]

/-- So does an event of another type. -/
theorem entityLedger_ignores (hCreating : event.eventType ∉ creating)
    (hAmending : event.eventType ∉ amending) :
    (entityLedger creating amending id first amend).replace old event = old := by
  cases old <;> simp [entityLedger, Ledger.replace, hCreating, hAmending]

/-- An event of a type that only others list. -/
theorem entityLedger_apart {types : List EventType} (hType : event.eventType ∈ types)
    (hApart : ∀ eventType ∈ types, eventType ∉ creating ∧ eventType ∉ amending) :
    (entityLedger creating amending id first amend).replace old event = old :=
  entityLedger_ignores (hApart _ hType).1 (hApart _ hType).2

theorem entityLedger_creates {key : Uuid} (hKey : event.entityId = some key)
    (hCreating : event.eventType ∈ creating) {contents : Contents}
    (hFirst : id = key → first event = some contents) :
    (entityLedger creating amending id first amend).replace old event =
      if id = key then some contents else old := by
  by_cases hSame : id = key
  · simp [entityLedger, Ledger.replace, hKey, hCreating, hSame, hFirst hSame]
  · have hOther : ¬ key = id := fun h => hSame h.symm
    cases old <;> simp [entityLedger, Ledger.replace, hKey, hSame, hOther]

theorem entityLedger_amends {key : Uuid} (hKey : event.entityId = some key)
    (hCreating : event.eventType ∉ creating) (hAmending : event.eventType ∈ amending) :
    (entityLedger creating amending id first amend).replace old event =
      if id = key then old.map (amend event) else old := by
  by_cases hSame : id = key
  · cases old <;> simp [entityLedger, Ledger.replace, hKey, hCreating, hAmending, hSame]
  · have hOther : ¬ key = id := fun h => hSame h.symm
    cases old <;> simp [entityLedger, Ledger.replace, hKey, hSame, hOther]

end EntityLedger

/-- A payload after a patch. -/
def mergedWith (target patch : Value) : Value :=
  .object (Value.mergeFields (target.asObject.getD []) (patch.asObject.getD []))

theorem eq_mergedWith {ε : Type} {refused : ε} {target patch merged : Value}
    (h : Value.mergeObject refused target patch = .ok merged) :
    merged = mergedWith target patch := by
  unfold Value.mergeObject at h
  split at h
  · cases h
  · next hPatch =>
      rw [mergedWith, hPatch]
      exact (Except.ok.inj h).symm

theorem set_of_assignField {ε : Type} {payload assigned new : Value} {key : String}
    (h : (assignField payload key new : Outcome ε Value) = .ok assigned) :
    payload.set key new = some assigned := by
  unfold assignField at h
  split at h
  · next hSet =>
      rw [hSet, Except.ok.inj h]
  · cases h

variable [UuidCrate]

/-- The fields of a record that corrections merge into. -/
def payloadLedger (creating amending : List EventType) (key : String) (id : Uuid) :
    Ledger CoreEventEnvelope Value :=
  entityLedger creating amending id (fun event => event.payload.set key (uuidJson id))
    fun event payload => mergedWith payload event.payload

/-- What a contact accumulates. -/
structure ContactContents where
  notes : List Value
  payload : Value
  deriving DecidableEq

def QsoRecord.contents (record : QsoRecord) : ContactContents where
  notes := record.noteHistory
  payload := record.payload

def contactLedger (id : Uuid) : Ledger CoreEventEnvelope ContactContents :=
  entityLedger [.qsoCreated] [.qsoCorrected, .qsoNoteAdded] id
    (fun event => (event.payload.set "qso_id" (uuidJson id)).map fun payload => ⟨[], payload⟩)
    fun event contents =>
      if event.eventType = .qsoNoteAdded then
        { contents with notes := contents.notes ++ [event.payload] }
      else { contents with payload := mergedWith contents.payload event.payload }

namespace QsoCurrentStateProjection
variable {projection next : QsoCurrentStateProjection} {event : CoreEventEnvelope}

def contents (projection : QsoCurrentStateProjection) (id : Uuid) : Option ContactContents :=
  (projection.records.lookup id).map QsoRecord.contents

/-- One event does to each contact what its ledger says. -/
theorem contents_apply (h : projection.apply event = .ok next) (id : Uuid) :
    next.contents id = (contactLedger id).replace (projection.contents id) event := by
  unfold apply at h
  cases hKey : event.entityId with
  | none =>
      simp only [hKey] at h
      rw [← Except.ok.inj h]
      exact (entityLedger_none hKey).symm
  | some qsoId =>
      simp only [hKey] at h
      split at h
      · next hType =>
          obtain ⟨records, hInsert, rfl⟩ := (except_map_eq_ok_iff ..).mp h
          obtain ⟨record, hRecord, hView⟩ := KeyMap.view_of_tryInsert hInsert
          obtain ⟨payload, hPayload, rfl⟩ := (except_map_eq_ok_iff ..).mp hRecord
          refine (hView id).trans (entityLedger_creates hKey (by simp [hType]) ?_).symm
          intro hSame
          rw [hSame, set_of_assignField hPayload]
          rfl
      · next hType =>
          obtain ⟨records, hModify, rfl⟩ := (except_map_eq_ok_iff ..).mp h
          refine (KeyMap.view_of_tryModify _ ?_ hModify id).trans
            (entityLedger_amends hKey (by simp [hType]) (by simp [hType])).symm
          intro old new hChange
          obtain ⟨payload, hPayload, rfl⟩ := (except_map_eq_ok_iff ..).mp hChange
          rw [if_neg (by simp [hType]), eq_mergedWith hPayload]
          rfl
      · next hType =>
          rw [← Except.ok.inj h]
          refine (KeyMap.view_modify_hidden ?_ id).trans
            (entityLedger_ignores (by simp [hType]) (by simp [hType])).symm
          exact fun old => rfl
      · next hType =>
          rw [← Except.ok.inj h]
          refine (KeyMap.view_modify_hidden ?_ id).trans
            (entityLedger_ignores (by simp [hType]) (by simp [hType])).symm
          exact fun old => rfl
      · next hType =>
          rw [← Except.ok.inj h]
          refine (KeyMap.view_modify _ ?_ id).trans
            (entityLedger_amends hKey (by simp [hType]) (by simp [hType])).symm
          intro old
          rw [if_pos hType]
          rfl
      · rw [← Except.ok.inj h]
        refine (entityLedger_ignores ?_ ?_).symm <;> simp_all

end QsoCurrentStateProjection

/-- What an activation accumulates. Links are removed by unlinking. -/
structure ActivationContents where
  notes : List Value
  links : List Uuid
  payload : Value
  deriving DecidableEq

def ActivationRecord.contents (record : ActivationRecord) : ActivationContents where
  notes := record.noteHistory
  links := record.linkedQsos
  payload := record.payload

/-- A contact is linked by an event that names the activation in its payload. -/
def activationLedger (id : Uuid) : Ledger CoreEventEnvelope ActivationContents where
  creates event :=
    if event.entityId = some id ∧ event.eventType ∈ [.activationCreated, .activationStarted] then
      (event.payload.set "activation_id" (uuidJson id)).map fun payload => ⟨[], [], payload⟩
    else none
  amends event contents :=
    match event.entityId, event.eventType with
    | none, _ => contents
    | some entityId, .activationUpdated | some entityId, .activationEnded =>
        if id = entityId then { contents with payload := mergedWith contents.payload event.payload }
        else contents
    | some entityId, .activationNoteAdded =>
        if id = entityId then { contents with notes := contents.notes ++ [event.payload] }
        else contents
    | some qsoId, .qsoActivationLinked =>
        if uuidField event.payload "activation_id" = some id then
          { contents with links := contents.links.insert qsoId }
        else contents
    | some qsoId, .qsoActivationUnlinked =>
        if uuidField event.payload "activation_id" = some id then
          { contents with links := contents.links.filter (· ≠ qsoId) }
        else contents
    | some _, _ => contents

/-- An event that creates no activation amends each as its ledger says. -/
theorem activationLedger_amends {id : Uuid} {event : CoreEventEnvelope}
    {old : Option ActivationContents}
    (hType : event.eventType ∉ [.activationCreated, .activationStarted]) :
    (activationLedger id).replace old event = old.map ((activationLedger id).amends event) := by
  rw [Ledger.replace]
  simp only [activationLedger, hType, and_false, if_false]

theorem activationLedger_creates {id entityId : Uuid} {event : CoreEventEnvelope}
    {old : Option ActivationContents} {payload : Value} (hKey : event.entityId = some entityId)
    (hType : event.eventType = .activationCreated ∨ event.eventType = .activationStarted)
    (hPayload : event.payload.set "activation_id" (uuidJson entityId) = some payload) :
    (activationLedger id).replace old event =
      if id = entityId then some ⟨[], [], payload⟩ else old := by
  by_cases hSame : id = entityId
  · rcases hType with hType | hType <;>
      simp [activationLedger, Ledger.replace, hKey, hType, hSame, hPayload]
  · have hOther : ¬ entityId = id := fun h => hSame h.symm
    rcases hType with hType | hType <;> cases old <;>
      simp [activationLedger, Ledger.replace, hKey, hType, hSame, hOther]

namespace ActivationProjection
variable {projection next : ActivationProjection} {event : CoreEventEnvelope}

def contents (projection : ActivationProjection) (id : Uuid) : Option ActivationContents :=
  (projection.records.lookup id).map ActivationRecord.contents

/-- What an event that creates an activation does to each of them. -/
theorem contents_of_created {records changed : KeyMap Uuid ActivationRecord} {entityId : Uuid}
    (hKey : event.entityId = some entityId)
    (hType : event.eventType = .activationCreated ∨ event.eventType = .activationStarted)
    (h : records.tryInsert entityId (createdRecord event entityId) = .ok changed) (id : Uuid) :
    (changed.lookup id).map ActivationRecord.contents = (activationLedger id).replace
      ((records.lookup id).map ActivationRecord.contents) event := by
  obtain ⟨record, hRecord, hView⟩ := KeyMap.view_of_tryInsert h
  obtain ⟨payload, hPayload, rfl⟩ := (except_map_eq_ok_iff ..).mp hRecord
  rw [hView id, activationLedger_creates hKey hType (set_of_assignField hPayload)]
  rfl

/-- What an event that merges its payload does. -/
theorem contents_of_merged {records changed : KeyMap Uuid ActivationRecord} {entityId : Uuid}
    {status : Option String} (hKey : event.entityId = some entityId)
    (hType : event.eventType = .activationUpdated ∨ event.eventType = .activationEnded)
    (h : records.tryModify entityId (mergedRecord event status) = .ok changed) (id : Uuid) :
    (changed.lookup id).map ActivationRecord.contents = (activationLedger id).replace
      ((records.lookup id).map ActivationRecord.contents) event := by
  rw [KeyMap.view_of_tryModify (fun contents : ActivationContents =>
    { contents with payload := mergedWith contents.payload event.payload }) ?_ h id]
  · rw [Ledger.ite_map, activationLedger_amends (by rcases hType with h | h <;> simp [h])]
    rcases hType with hType | hType <;> simp only [activationLedger, hKey, hType]
  · intro old new hChange
    obtain ⟨payload, hPayload, rfl⟩ := (except_map_eq_ok_iff ..).mp hChange
    rw [eq_mergedWith hPayload]
    rfl

theorem contents_applyRecords {records changed : KeyMap Uuid ActivationRecord} {entityId : Uuid}
    (hKey : event.entityId = some entityId)
    (h : applyRecords records event entityId = .ok changed) (id : Uuid) :
    (changed.lookup id).map ActivationRecord.contents = (activationLedger id).replace
      ((records.lookup id).map ActivationRecord.contents) event := by
  unfold applyRecords at h
  split at h
  · next hType => exact contents_of_created hKey (Or.inl hType) h id
  · next hType => exact contents_of_created hKey (Or.inr hType) h id
  · next hType => exact contents_of_merged hKey (Or.inl hType) h id
  · next hType => exact contents_of_merged hKey (Or.inr hType) h id
  · next hType =>
      rw [← Except.ok.inj h]
      refine (KeyMap.view_modify_hidden (fun old => ?_) id).trans ?_
      · rfl
      · rw [activationLedger_amends (by simp [hType])]
        simp only [activationLedger, hKey, hType]
        exact Option.map_id_apply.symm
  · next hType =>
      rw [← Except.ok.inj h, KeyMap.view_modify (fun contents : ActivationContents =>
        { contents with notes := contents.notes ++ [event.payload] }) (fun old => rfl),
        Ledger.ite_map, activationLedger_amends (by simp [hType])]
      simp only [activationLedger, hKey, hType]
  · next hType =>
      rw [activationLedger_amends (by simp [hType])]
      simp only [activationLedger, hKey, hType]
      split at h
      · next hNone =>
          rw [← Except.ok.inj h, hNone]
          exact Option.map_id_apply.symm
      · next activationId hField =>
          rw [← Except.ok.inj h, hField, KeyMap.view_modify
            (fun contents : ActivationContents =>
              { contents with links := contents.links.insert entityId }) (fun old => rfl),
            Ledger.ite_map]
          simp only [Option.some.injEq, eq_comm]
  · next hType =>
      rw [activationLedger_amends (by simp [hType])]
      simp only [activationLedger, hKey, hType]
      split at h
      · next hNone =>
          rw [← Except.ok.inj h, hNone]
          exact Option.map_id_apply.symm
      · next activationId hField =>
          rw [← Except.ok.inj h, hField, KeyMap.view_modify
            (fun contents : ActivationContents =>
              { contents with links := contents.links.filter (· ≠ entityId) }) (fun old => rfl),
            Ledger.ite_map]
          simp only [Option.some.injEq, eq_comm]
  · rw [← Except.ok.inj h, activationLedger_amends (by simp_all)]
    have hSame : (activationLedger id).amends event = fun contents => contents := by
      funext contents
      simp only [activationLedger, hKey]
    rw [hSame]
    exact Option.map_id_apply.symm

/-- One event does to each activation what its ledger says. -/
theorem contents_apply (h : projection.apply event = .ok next) (id : Uuid) :
    next.contents id = (activationLedger id).replace (projection.contents id) event := by
  have hRecompute : ∀ later : ActivationProjection, later.recomputeStats.contents id =
      (later.records.lookup id).map ActivationRecord.contents := by
    intro later
    refine KeyMap.view_mapValues (fun old => ?_) id
    rfl
  unfold apply at h
  split at h
  · cases h
  · cases hKey : event.entityId with
    | none =>
        simp only [hKey] at h
        rw [← Except.ok.inj h, hRecompute]
        have hCreates : (activationLedger id).creates event = none := by
          simp [activationLedger, hKey]
        have hAmends : (activationLedger id).amends event = fun contents => contents := by
          funext contents
          simp only [activationLedger, hKey]
        rw [Ledger.replace, hCreates, hAmends]
        exact Option.map_id_apply.symm
    | some entityId =>
        simp only [hKey] at h
        obtain ⟨records, hRecords, rfl⟩ := (except_map_eq_ok_iff ..).mp h
        rw [hRecompute]
        exact contents_applyRecords hKey hRecords id

end ActivationProjection

section Payloads
variable {Record : Type} {records changed : KeyMap Uuid Record} {view : Record → Value}
  {creating amending : List EventType} {key : String} {event : CoreEventEnvelope}
  {entityId : Uuid} {ε : Type}

/-- Records that are created with the payload of the event. -/
theorem payloads_of_created {build : Outcome ε Record} (hKey : event.entityId = some entityId)
    (hCreating : event.eventType ∈ creating)
    (hBuild : ∀ record, build = .ok record →
      event.payload.set key (uuidJson entityId) = some (view record))
    (h : records.tryInsert entityId build = .ok changed) (id : Uuid) :
    (changed.lookup id).map view =
      (payloadLedger creating amending key id).replace ((records.lookup id).map view) event := by
  obtain ⟨record, hRecord, hView⟩ := KeyMap.view_of_tryInsert h
  refine (hView id).trans (entityLedger_creates hKey hCreating ?_).symm
  intro hSame
  rw [hSame]
  exact hBuild record hRecord

/-- Records that the payload of the event is merged into. -/
theorem payloads_of_merged {change : Record → Outcome ε Record}
    (hKey : event.entityId = some entityId) (hCreating : event.eventType ∉ creating)
    (hAmending : event.eventType ∈ amending)
    (hChange : ∀ old new, change old = .ok new → view new = mergedWith (view old) event.payload)
    (h : records.tryModify entityId change = .ok changed) (id : Uuid) :
    (changed.lookup id).map view =
      (payloadLedger creating amending key id).replace ((records.lookup id).map view) event :=
  (KeyMap.view_of_tryModify _ hChange h id).trans
    (entityLedger_amends hKey hCreating hAmending).symm

end Payloads

/-! The payloads of the four kinds of net records. -/

def netTemplateLedger (id : Uuid) : Ledger CoreEventEnvelope Value :=
  payloadLedger [.netTemplateCreated] [.netTemplateUpdated] "net_template_id" id

def netSessionLedger (id : Uuid) : Ledger CoreEventEnvelope Value :=
  payloadLedger [.netSessionStarted] [.netSessionEnded, .netSessionCancelled] "net_session_id" id

def netCheckinLedger (id : Uuid) : Ledger CoreEventEnvelope Value :=
  payloadLedger [.netCheckinCreated] [.netCheckinUpdated] "checkin_id" id

def netTrafficLedger (id : Uuid) : Ledger CoreEventEnvelope Value :=
  payloadLedger [.netTrafficCreated] [.netTrafficUpdated] "traffic_id" id

namespace NetControlProjection
variable {projection next : NetControlProjection} {event : CoreEventEnvelope} {entityId : Uuid}

def templatePayload (projection : NetControlProjection) (id : Uuid) : Option Value :=
  projection.templates.lookup id

def sessionPayload (projection : NetControlProjection) (id : Uuid) : Option Value :=
  (projection.sessions.lookup id).map NetSessionRecord.payload

def checkinPayload (projection : NetControlProjection) (id : Uuid) : Option Value :=
  (projection.checkins.lookup id).map NetCheckInRecord.payload

def trafficPayload (projection : NetControlProjection) (id : Uuid) : Option Value :=
  (projection.traffic.lookup id).map NetTrafficRecord.payload

/-- The four tables before and after an event are related by their ledgers. -/
structure FollowsLedgers (projection : NetControlProjection) (event : CoreEventEnvelope)
    (next : NetControlProjection) : Prop where
  templates : ∀ id, next.templatePayload id =
    (netTemplateLedger id).replace (projection.templatePayload id) event
  sessions : ∀ id, next.sessionPayload id =
    (netSessionLedger id).replace (projection.sessionPayload id) event
  checkins : ∀ id, next.checkinPayload id =
    (netCheckinLedger id).replace (projection.checkinPayload id) event
  traffic : ∀ id, next.trafficPayload id =
    (netTrafficLedger id).replace (projection.trafficPayload id) event

namespace FollowsLedgers

/-- An event about one of the tables leaves the others alone. -/
theorem of_templates {templates : KeyMap Uuid Value}
    (hType : event.eventType ∈ [.netTemplateCreated, .netTemplateUpdated])
    (h : ∀ id, templates.lookup id =
      (netTemplateLedger id).replace (projection.templatePayload id) event) :
    FollowsLedgers projection event { projection with templates := templates } where
  templates := h
  sessions id := (entityLedger_apart hType (by decide)).symm
  checkins id := (entityLedger_apart hType (by decide)).symm
  traffic id := (entityLedger_apart hType (by decide)).symm

theorem of_sessions {sessions : KeyMap Uuid NetSessionRecord}
    (hType : event.eventType ∈ [.netSessionStarted, .netSessionEnded, .netSessionCancelled])
    (h : ∀ id, (sessions.lookup id).map NetSessionRecord.payload =
      (netSessionLedger id).replace (projection.sessionPayload id) event) :
    FollowsLedgers projection event { projection with sessions := sessions } where
  templates id := (entityLedger_apart hType (by decide)).symm
  sessions := h
  checkins id := (entityLedger_apart hType (by decide)).symm
  traffic id := (entityLedger_apart hType (by decide)).symm

theorem of_checkins {checkins : KeyMap Uuid NetCheckInRecord}
    (hType : event.eventType ∈ [.netCheckinCreated, .netCheckinUpdated, .netCheckinDeleted])
    (h : ∀ id, (checkins.lookup id).map NetCheckInRecord.payload =
      (netCheckinLedger id).replace (projection.checkinPayload id) event) :
    FollowsLedgers projection event { projection with checkins := checkins } where
  templates id := (entityLedger_apart hType (by decide)).symm
  sessions id := (entityLedger_apart hType (by decide)).symm
  checkins := h
  traffic id := (entityLedger_apart hType (by decide)).symm

theorem of_traffic {traffic : KeyMap Uuid NetTrafficRecord}
    (hType : event.eventType ∈ [.netTrafficCreated, .netTrafficUpdated])
    (h : ∀ id, (traffic.lookup id).map NetTrafficRecord.payload =
      (netTrafficLedger id).replace (projection.trafficPayload id) event) :
    FollowsLedgers projection event { projection with traffic := traffic } where
  templates id := (entityLedger_apart hType (by decide)).symm
  sessions id := (entityLedger_apart hType (by decide)).symm
  checkins id := (entityLedger_apart hType (by decide)).symm
  traffic := h

/-- The statistics are not part of any payload. -/
theorem recomputed (h : FollowsLedgers projection event next) :
    FollowsLedgers projection event next.recomputeStats :=
  { h with sessions := fun id =>
      (KeyMap.view_mapValues (fun old => by rfl) id).trans (h.sessions id) }

end FollowsLedgers

theorem followsLedgers_of_template (hKey : event.entityId = some entityId)
    (h : projection.applyRecords event entityId = .ok next)
    (hType : event.eventType ∈ [.netTemplateCreated, .netTemplateUpdated]) :
    FollowsLedgers projection event next := by
  have hPayloads : ∀ templates : KeyMap Uuid Value,
      (∀ id, (templates.lookup id).map (fun payload => payload) = (netTemplateLedger id).replace
        ((projection.templates.lookup id).map fun payload => payload) event) →
      FollowsLedgers projection event { projection with templates := templates } := by
    intro templates h
    refine .of_templates hType fun id => ?_
    simpa [templatePayload] using h id
  unfold applyRecords at h
  rcases List.mem_cons.mp hType with hCreated | hUpdated
  · rw [hCreated] at h
    obtain ⟨templates, hInsert, rfl⟩ := (except_map_eq_ok_iff ..).mp h
    refine hPayloads templates (payloads_of_created hKey (by simp [hCreated]) ?_ hInsert)
    exact fun payload hPayload => set_of_assignField hPayload
  · rw [List.mem_singleton.mp hUpdated] at h
    obtain ⟨templates, hModify, rfl⟩ := (except_map_eq_ok_iff ..).mp h
    refine hPayloads templates (payloads_of_merged hKey (by simp_all) hUpdated ?_ hModify)
    exact fun old new hMerge => eq_mergedWith hMerge

theorem followsLedgers_applyRecords (hKey : event.entityId = some entityId)
    (h : projection.applyRecords event entityId = .ok next) :
    FollowsLedgers projection event next := by
  have hStart := h
  unfold applyRecords at h
  split at h
  · next hType => exact followsLedgers_of_template hKey hStart (by simp [hType])
  · next hType => exact followsLedgers_of_template hKey hStart (by simp [hType])
  · next hType =>
      obtain ⟨sessions, hInsert, rfl⟩ := (except_map_eq_ok_iff ..).mp h
      refine .of_sessions (by simp [hType])
        (payloads_of_created hKey (by simp [hType]) ?_ hInsert)
      intro session hSession
      obtain ⟨payload, hPayload, rfl⟩ := (except_map_eq_ok_iff ..).mp hSession
      exact set_of_assignField hPayload
  · next hType =>
      obtain ⟨sessions, hModify, rfl⟩ := (except_map_eq_ok_iff ..).mp h
      refine .of_sessions (by simp [hType])
        (payloads_of_merged hKey (by simp [hType]) (by simp [hType]) ?_ hModify)
      intro old new hChange
      obtain ⟨payload, hPayload, rfl⟩ := (except_map_eq_ok_iff ..).mp hChange
      exact eq_mergedWith hPayload
  · next hType =>
      obtain ⟨sessions, hModify, rfl⟩ := (except_map_eq_ok_iff ..).mp h
      refine .of_sessions (by simp [hType])
        (payloads_of_merged hKey (by simp [hType]) (by simp [hType]) ?_ hModify)
      intro old new hChange
      obtain ⟨payload, hPayload, rfl⟩ := (except_map_eq_ok_iff ..).mp hChange
      exact eq_mergedWith hPayload
  · next hType =>
      obtain ⟨checkins, hInsert, rfl⟩ := (except_map_eq_ok_iff ..).mp h
      refine .of_checkins (by simp [hType])
        (payloads_of_created hKey (by simp [hType]) ?_ hInsert)
      intro checkin hCheckin
      unfold createdCheckin at hCheckin
      split at hCheckin
      · cases hCheckin
      · obtain ⟨payload, hPayload, rfl⟩ := (except_map_eq_ok_iff ..).mp hCheckin
        exact set_of_assignField hPayload
  · next hType =>
      obtain ⟨checkins, hModify, rfl⟩ := (except_map_eq_ok_iff ..).mp h
      refine .of_checkins (by simp [hType])
        (payloads_of_merged hKey (by simp [hType]) (by simp [hType]) ?_ hModify)
      intro old new hChange
      obtain ⟨payload, hPayload, rfl⟩ := (except_map_eq_ok_iff ..).mp hChange
      exact eq_mergedWith hPayload
  · next hType =>
      rw [← Except.ok.inj h]
      refine .of_checkins (by simp [hType]) fun id => ?_
      refine (KeyMap.view_modify_hidden (fun old => ?_) id).trans
        (entityLedger_ignores (by simp [hType]) (by simp [hType])).symm
      rfl
  · next hType =>
      obtain ⟨traffic, hInsert, rfl⟩ := (except_map_eq_ok_iff ..).mp h
      refine .of_traffic (by simp [hType])
        (payloads_of_created hKey (by simp [hType]) ?_ hInsert)
      intro record hRecord
      unfold createdTraffic at hRecord
      split at hRecord
      · cases hRecord
      · obtain ⟨payload, hPayload, rfl⟩ := (except_map_eq_ok_iff ..).mp hRecord
        exact set_of_assignField hPayload
  · next hType =>
      obtain ⟨traffic, hModify, rfl⟩ := (except_map_eq_ok_iff ..).mp h
      refine .of_traffic (by simp [hType])
        (payloads_of_merged hKey (by simp [hType]) (by simp [hType]) ?_ hModify)
      intro old new hChange
      obtain ⟨payload, hPayload, rfl⟩ := (except_map_eq_ok_iff ..).mp hChange
      exact eq_mergedWith hPayload
  · next hType =>
      rw [← Except.ok.inj h]
      constructor
      all_goals exact fun id => (entityLedger_ignores (by simp [hType]) (by simp [hType])).symm
  · rw [← Except.ok.inj h]
    constructor <;> exact fun id => (entityLedger_ignores (by simp_all) (by simp_all)).symm

/-- One event does to each net record what its ledger says. -/
theorem followsLedgers_apply (h : projection.apply event = .ok next) :
    FollowsLedgers projection event next := by
  unfold apply at h
  cases hKey : event.entityId with
  | none =>
      simp only [hKey] at h
      rw [← Except.ok.inj h]
      constructor <;> exact fun id => (entityLedger_none hKey).symm
  | some entityId =>
      simp only [hKey] at h
      obtain ⟨middle, hMiddle, rfl⟩ := (except_map_eq_ok_iff ..).mp h
      exact (followsLedgers_applyRecords hKey hMiddle).recomputed

end NetControlProjection
end HamLogger
