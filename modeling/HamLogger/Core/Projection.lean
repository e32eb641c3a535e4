import HamLogger.Core.Event
import HamLogger.Library.KeyMap
import HamLogger.Library.Replay

/-! Current-state projections of the event log: contacts and activations. A
projection is rebuilt by clearing it and applying the events in log order. -/
namespace HamLogger

/-- A projection has a cleared state and a step that can fail or panic. -/
class Projection (P : Type) (ε : outParam Type) where
  clear : P
  apply : P → CoreEventEnvelope → Outcome ε P

namespace Projection
variable {P ε : Type} [Projection P ε]

/-- Clear the projection and apply every event, stopping at the first failure. -/
def rebuild (P : Type) {ε : Type} [Projection P ε] (events : List CoreEventEnvelope) :
    Outcome ε P :=
  Replay.replay apply clear events

/-- Rebuilding returns a projection: no error and no panic. -/
def Rebuilds (P : Type) {ε : Type} [Projection P ε] (events : List CoreEventEnvelope) : Prop :=
  ∃ projection : P, rebuild P events = .ok projection

theorem rebuild_snoc {seen : List CoreEventEnvelope} {event : CoreEventEnvelope}
    {projection next : P} (hSeen : rebuild P seen = .ok projection)
    (h : apply projection event = .ok next) : rebuild P (seen ++ [event]) = .ok next := by
  rw [rebuild, Replay.replay_snoc]
  have hPrior : Replay.replay apply clear seen = .ok projection := hSeen
  rw [hPrior]
  exact h

/-- Events that come later are applied to what was rebuilt before. -/
theorem replay_of_rebuild {seen more : List CoreEventEnvelope} {projection last : P}
    (hSeen : rebuild P seen = .ok projection) (h : rebuild P (seen ++ more) = .ok last) :
    Replay.replay apply projection more = .ok last := by
  rw [rebuild, Replay.replay_append] at h
  have hPrior : Replay.replay apply clear seen = .ok projection := hSeen
  rw [hPrior] at h
  exact h

end Projection

inductive ProjectionError where
  | correctionPayloadMustBeObject
  deriving DecidableEq

def ProjectionError.toString : ProjectionError → String
  | .correctionPayloadMustBeObject => "qso correction payload must be a JSON object"

def mergeJsonObject (target patch : Value) : Outcome ProjectionError Value :=
  Value.mergeObject (.error .correctionPayloadMustBeObject) target patch

/-- Assigning a field of a payload, which panics unless the payload is an
object or null. -/
def assignField {ε : Type} (payload : Value) (key : String) (new : Value) : Outcome ε Value :=
  match payload.set key new with
  | some assigned => .ok assigned
  | none => .error .panic

theorem assignField_succeeds_iff {ε : Type} (payload : Value) (key : String) (new : Value) :
    (∃ assigned, (assignField payload key new : Outcome ε Value) = .ok assigned) ↔
      payload.isIndexable = true := by
  cases payload <;> simp [assignField, Value.set, Value.isIndexable]

variable [UuidCrate]

/-- The JSON form of an identifier. -/
def uuidJson (id : Uuid) : Value :=
  .string (UuidCrate.display id)

/-- A payload field that holds an identifier as a string. -/
def uuidField (payload : Value) (key : String) : Option Uuid :=
  ((payload.get key).bind Value.asStr).bind UuidCrate.parseStr

structure QsoRecord where
  qsoId : Uuid
  payload : Value
  noteHistory : List Value
  deleted : Bool
  lastEventHash : String
  deriving DecidableEq

/-- Contacts by identifier, and the identifiers that are deleted. -/
structure QsoCurrentStateProjection where
  records : KeyMap Uuid QsoRecord := ∅
  tombstones : List Uuid := []
  deriving DecidableEq

namespace QsoCurrentStateProjection

def get (projection : QsoCurrentStateProjection) (qsoId : Uuid) : Option QsoRecord :=
  (projection.records.lookup qsoId).filter fun record => !record.deleted

def getIncludingDeleted (projection : QsoCurrentStateProjection) (qsoId : Uuid) :
    Option QsoRecord :=
  projection.records.lookup qsoId

def isTombstoned (projection : QsoCurrentStateProjection) (qsoId : Uuid) : Bool :=
  decide (qsoId ∈ projection.tombstones)

/-- The contacts, in no meaningful order. -/
def list (projection : QsoCurrentStateProjection) (includeDeleted : Bool) : List QsoRecord :=
  projection.records.values.filter fun record => includeDeleted || !record.deleted

/-- The record that a creation event puts in place. -/
def createdRecord (event : CoreEventEnvelope) (qsoId : Uuid) : Outcome ProjectionError QsoRecord :=
  (assignField event.payload "qso_id" (uuidJson qsoId)).map fun payload =>
    { qsoId := qsoId, payload := payload, noteHistory := [], deleted := false,
      lastEventHash := event.eventHash }

/-- The record after a correction event. -/
def correctedRecord (event : CoreEventEnvelope) (record : QsoRecord) :
    Outcome ProjectionError QsoRecord :=
  (mergeJsonObject record.payload event.payload).map fun payload =>
    { record with payload := payload, lastEventHash := event.eventHash }

def apply (projection : QsoCurrentStateProjection) (event : CoreEventEnvelope) :
    Outcome ProjectionError QsoCurrentStateProjection :=
  match event.entityId with
  | none => .ok projection
  | some qsoId =>
      match event.eventType with
      | .qsoCreated =>
          (projection.records.tryInsert qsoId (createdRecord event qsoId)).map fun records =>
            { projection with records := records }
      | .qsoCorrected =>
          (projection.records.tryModify qsoId (correctedRecord event)).map fun records =>
            { projection with records := records }
      | .qsoDeleted =>
          .ok { records := projection.records.modify qsoId fun record =>
                  { record with deleted := true, lastEventHash := event.eventHash }
                tombstones := projection.tombstones.insert qsoId }
      | .qsoRestored =>
          .ok { records := projection.records.modify qsoId fun record =>
                  { record with deleted := false, lastEventHash := event.eventHash }
                tombstones := projection.tombstones.filter (· ≠ qsoId) }
      | .qsoNoteAdded =>
          .ok { projection with
                records := projection.records.modify qsoId fun record =>
                  { record with noteHistory := record.noteHistory ++ [event.payload],
                                lastEventHash := event.eventHash } }
      | _ => .ok projection

instance : Projection QsoCurrentStateProjection ProjectionError where
  clear := {}
  apply := apply

end QsoCurrentStateProjection

structure ActivationRecord where
  activationId : Uuid
  payload : Value
  status : String
  noteHistory : List Value
  linkedQsos : List Uuid
  qsoCount : Nat
  uniqueCallsignCount : Nat
  bandSummary : KeyMap String Nat
  modeSummary : KeyMap String Nat
  lastEventHash : String
  deriving DecidableEq

/-- Activations by identifier, over the contacts they refer to. -/
structure ActivationProjection where
  records : KeyMap Uuid ActivationRecord := ∅
  qsoProjection : QsoCurrentStateProjection := {}
  deriving DecidableEq

/-- Count one more occurrence of a name. -/
def tally (summary : KeyMap String Nat) (name : String) : KeyMap String Nat :=
  summary.insert name ((summary.lookup name).getD 0 + 1)

namespace ActivationProjection

def get (projection : ActivationProjection) (activationId : Uuid) : Option ActivationRecord :=
  projection.records.lookup activationId

def list (projection : ActivationProjection) (includeEndedCancelled : Bool) :
    List ActivationRecord :=
  projection.records.values.filter fun record =>
    includeEndedCancelled || !(record.status = "ended" || record.status = "cancelled")

/-- The string values of one field over the linked contacts that are visible. -/
def linkedField (qsos : QsoCurrentStateProjection) (linked : List Uuid) (key : String) :
    List String :=
  linked.filterMap fun qsoId =>
    (qsos.get qsoId).bind fun qso => (qso.payload.get key).bind Value.asStr

/-- The derived fields of one activation, recomputed from its linked contacts. -/
def recomputeRecord (qsos : QsoCurrentStateProjection) (record : ActivationRecord) :
    ActivationRecord :=
  { record with
    qsoCount := (record.linkedQsos.filter fun qsoId => (qsos.get qsoId).isSome).length
    uniqueCallsignCount :=
      ((linkedField qsos record.linkedQsos "contacted_callsign").map toAsciiUppercase).dedup.length
    bandSummary := (linkedField qsos record.linkedQsos "band").foldl tally ∅
    modeSummary := (linkedField qsos record.linkedQsos "mode").foldl tally ∅ }

def recomputeStats (projection : ActivationProjection) : ActivationProjection :=
  { projection with
    records := projection.records.mapValues (recomputeRecord projection.qsoProjection) }

/-- The record that a creation or start event puts in place. -/
def createdRecord (event : CoreEventEnvelope) (activationId : Uuid) :
    Outcome ProjectionError ActivationRecord :=
  (assignField event.payload "activation_id" (uuidJson activationId)).map fun payload =>
    { activationId := activationId
      payload := payload
      status :=
        if event.eventType = .activationStarted then "active"
        else ((payload.get "status").bind Value.asStr).getD "planned"
      noteHistory := []
      linkedQsos := []
      qsoCount := 0
      uniqueCallsignCount := 0
      bandSummary := ∅
      modeSummary := ∅
      lastEventHash := event.eventHash }

/-- The record after an event that merges its payload and may set the status. -/
def mergedRecord (event : CoreEventEnvelope) (status : Option String)
    (record : ActivationRecord) : Outcome ProjectionError ActivationRecord :=
  (mergeJsonObject record.payload event.payload).map fun payload =>
    { record with payload := payload, status := status.getD record.status,
                  lastEventHash := event.eventHash }

/-- The effect of an event on the activation records alone. -/
def applyRecords (records : KeyMap Uuid ActivationRecord) (event : CoreEventEnvelope)
    (entityId : Uuid) : Outcome ProjectionError (KeyMap Uuid ActivationRecord) :=
  match event.eventType with
  | .activationCreated | .activationStarted =>
      records.tryInsert entityId (createdRecord event entityId)
  | .activationUpdated =>
      records.tryModify entityId
        (mergedRecord event ((event.payload.get "status").bind Value.asStr))
  | .activationEnded => records.tryModify entityId (mergedRecord event (some "ended"))
  | .activationCancelled =>
      .ok (records.modify entityId fun record =>
        { record with status := "cancelled", lastEventHash := event.eventHash })
  | .activationNoteAdded =>
      .ok (records.modify entityId fun record =>
        { record with noteHistory := record.noteHistory ++ [event.payload],
                      lastEventHash := event.eventHash })
  | .qsoActivationLinked =>
      match uuidField event.payload "activation_id" with
      | none => .ok records
      | some activationId =>
          .ok (records.modify activationId fun record =>
            { record with linkedQsos := record.linkedQsos.insert entityId,
                          lastEventHash := event.eventHash })
  | .qsoActivationUnlinked =>
      match uuidField event.payload "activation_id" with
      | none => .ok records
      | some activationId =>
          .ok (records.modify activationId fun record =>
            { record with linkedQsos := record.linkedQsos.filter (· ≠ entityId),
                          lastEventHash := event.eventHash })
  | _ => .ok records

def apply (projection : ActivationProjection) (event : CoreEventEnvelope) :
    Outcome ProjectionError ActivationProjection :=
  match projection.qsoProjection.apply event with
  | .error fault => .error fault
  | .ok qsos =>
      match event.entityId with
      | none => .ok (recomputeStats { projection with qsoProjection := qsos })
      | some entityId =>
          (applyRecords projection.records event entityId).map fun records =>
            recomputeStats { records := records, qsoProjection := qsos }

instance : Projection ActivationProjection ProjectionError where
  clear := {}
  apply := apply

end ActivationProjection
end HamLogger
