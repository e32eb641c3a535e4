import HamLogger.Core.RecordLedgers
import HamLogger.Core.Crates
import Mathlib.Data.Finset.Option
import Mathlib.Data.Finset.Union

/-! The statistics of activations, computed at once. The projection keeps its
own copy of the contacts and refreshes the statistics after every event; what
it ends with is what one count over the finally linked contacts gives, in
whatever order the links and the contacts changed. -/
namespace HamLogger

open Projection (rebuild)

/-- Tallying a list counts each of its names. -/
theorem lookup_foldl_tally (names : List String) (summary : KeyMap String Nat) (name : String) :
    (names.foldl tally summary).lookup name =
      if name ∈ names then some ((summary.lookup name).getD 0 + names.count name)
      else summary.lookup name := by
  induction names generalizing summary with
  | nil => simp
  | cons first names ih =>
      rw [List.foldl_cons, ih, tally, KeyMap.lookup_insert_eq_ite]
      by_cases hSame : name = first
      · subst hSame
        rw [if_pos rfl, if_pos List.mem_cons_self, List.count_cons_self]
        split
        · simp only [Option.getD_some, Option.some.injEq]
          omega
        · next hNot =>
            rw [List.count_eq_zero_of_not_mem hNot]
      · have hCount : (first :: names).count name = names.count name :=
          List.count_cons_of_ne (Ne.symm hSame)
        simp only [List.mem_cons, hSame, false_or, hCount, if_false]

namespace ActivationProjection

/-- What a linked contact that is visible says in a field. -/
def textOf (qsos : QsoCurrentStateProjection) (key : String) (qsoId : Uuid) : Option String :=
  (qsos.get qsoId).bind fun qso => (qso.payload.get key).bind Value.asStr

/-- A summary counts the visible contacts of a set by what they say in a field. -/
def Summarizes (qsos : QsoCurrentStateProjection) (linked : Finset Uuid) (key : String)
    (summary : KeyMap String Nat) : Prop :=
  ∀ name, summary.lookup name =
    if (linked.filter fun qsoId => textOf qsos key qsoId = some name).card = 0 then none
    else some (linked.filter fun qsoId => textOf qsos key qsoId = some name).card

/-- The derived fields of an activation, as one count over a set of contacts gives them. -/
structure CountsOver (qsos : QsoCurrentStateProjection) (linked : Finset Uuid)
    (record : ActivationRecord) : Prop where
  qsoCount : record.qsoCount = (linked.filter fun qsoId => (qsos.get qsoId).isSome).card
  uniqueCallsignCount : record.uniqueCallsignCount =
    ((linked.biUnion fun qsoId => (textOf qsos "contacted_callsign" qsoId).toFinset).image
      toAsciiUppercase).card
  bandSummary : Summarizes qsos linked "band" record.bandSummary
  modeSummary : Summarizes qsos linked "mode" record.modeSummary

theorem linkedField_eq (qsos : QsoCurrentStateProjection) (linked : List Uuid) (key : String) :
    linkedField qsos linked key = linked.filterMap (textOf qsos key) :=
  rfl

theorem summarizes_linkedField {qsos : QsoCurrentStateProjection} {linked : List Uuid}
    (hNodup : linked.Nodup) (key : String) :
    Summarizes qsos linked.toFinset key ((linkedField qsos linked key).foldl tally ∅) := by
  intro name
  have hCount : (linked.toFinset.filter fun qsoId => textOf qsos key qsoId = some name).card =
      (linkedField qsos linked key).count name := by
    rw [hNodup.card_eq_countP, linkedField_eq, List.count_filterMap]
    exact List.countP_congr fun qsoId _ => by simp
  rw [lookup_foldl_tally, hCount]
  by_cases hMem : name ∈ linkedField qsos linked key
  · rw [if_pos hMem, if_neg (Nat.ne_of_gt (List.count_pos_iff.mpr hMem))]
    simp
  · rw [if_neg hMem, if_pos (List.count_eq_zero_of_not_mem hMem)]
    rfl

/-- Recomputing a record counts over its links. -/
theorem countsOver_recomputeRecord (qsos : QsoCurrentStateProjection) {record : ActivationRecord}
    (hNodup : record.linkedQsos.Nodup) :
    CountsOver qsos record.linkedQsos.toFinset (recomputeRecord qsos record) where
  qsoCount := by
    rw [hNodup.card_eq_countP, List.countP_eq_length_filter]
    exact congrArg List.length (List.filter_congr fun qsoId _ => by simp)
  uniqueCallsignCount := by
    have hTexts : (record.linkedQsos.toFinset.biUnion fun qsoId =>
        (textOf qsos "contacted_callsign" qsoId).toFinset).image toAsciiUppercase =
          ((linkedField qsos record.linkedQsos "contacted_callsign").map
            toAsciiUppercase).toFinset := by
      ext text
      simp [linkedField_eq]
    rw [hTexts, List.card_toFinset]
    rfl
  bandSummary := summarizes_linkedField hNodup "band"
  modeSummary := summarizes_linkedField hNodup "mode"

end ActivationProjection

section
variable [UuidCrate]

/-- The event puts an activation in place. -/
def CreatesActivation (id : Uuid) (event : CoreEventEnvelope) : Prop :=
  event.entityId = some id ∧ event.eventType ∈ [.activationCreated, .activationStarted]

/-- The event links a contact to an activation. -/
def LinksContact (id qsoId : Uuid) (event : CoreEventEnvelope) : Prop :=
  event.entityId = some qsoId ∧ event.eventType = .qsoActivationLinked ∧
    uuidField event.payload "activation_id" = some id

/-- The event removes such a link. -/
def UnlinksContact (id qsoId : Uuid) (event : CoreEventEnvelope) : Prop :=
  event.entityId = some qsoId ∧ event.eventType = .qsoActivationUnlinked ∧
    uuidField event.payload "activation_id" = some id

/-- A contact was linked to an activation that was there, and since then it was
not unlinked and the activation was not put in place anew. -/
def LinkedAtEnd (events : List CoreEventEnvelope) (id qsoId : Uuid) : Prop :=
  ∃ before link after, events = before ++ link :: after ∧
    (∃ created ∈ before, CreatesActivation id created) ∧ LinksContact id qsoId link ∧
      ∀ later ∈ after, ¬CreatesActivation id later ∧ ¬UnlinksContact id qsoId later

theorem linkedAtEnd_snoc (seen : List CoreEventEnvelope) (event : CoreEventEnvelope)
    (id qsoId : Uuid) : LinkedAtEnd (seen ++ [event]) id qsoId ↔
      ((∃ created ∈ seen, CreatesActivation id created) ∧ LinksContact id qsoId event) ∨
        (LinkedAtEnd seen id qsoId ∧ ¬CreatesActivation id event ∧
          ¬UnlinksContact id qsoId event) := by
  constructor
  · rintro ⟨before, link, after, hSplit, hCreated, hLink, hAfter⟩
    cases after using List.reverseRecOn with
    | nil =>
        obtain ⟨rfl, hLast⟩ := List.append_inj' hSplit rfl
        obtain rfl : event = link := by simpa using hLast
        exact Or.inl ⟨hCreated, hLink⟩
    | append_singleton after last =>
        have hCut : seen ++ [event] = (before ++ link :: after) ++ [last] := by simpa using hSplit
        obtain ⟨rfl, hLast⟩ := List.append_inj' hCut rfl
        obtain rfl : event = last := by simpa using hLast
        refine Or.inr ⟨⟨before, link, after, rfl, hCreated, hLink, ?_⟩, hAfter event (by simp)⟩
        exact fun later hMem => hAfter later (List.mem_append_left _ hMem)
  · rintro (⟨hCreated, hLink⟩ | ⟨⟨before, link, after, rfl, hCreated, hLink, hAfter⟩, hLast⟩)
    · exact ⟨seen, event, [], rfl, hCreated, hLink, by simp⟩
    · refine ⟨before, link, after ++ [event], by simp, hCreated, hLink, fun later hMem => ?_⟩
      rcases List.mem_append.mp hMem with hOld | hNew
      · exact hAfter later hOld
      · rw [List.mem_singleton.mp hNew]
        exact hLast

/-- What is known of the links of an activation after the events seen so far. -/
structure LinksTracked (seen : List CoreEventEnvelope) (id : Uuid) (links : List Uuid) :
    Prop where
  created : ∃ created ∈ seen, CreatesActivation id created
  nodup : links.Nodup
  linked : ∀ qsoId, qsoId ∈ links ↔ LinkedAtEnd seen id qsoId

/-- A new activation has no links. -/
theorem LinksTracked.of_created {seen : List CoreEventEnvelope} {event : CoreEventEnvelope}
    {id : Uuid} (h : CreatesActivation id event) : LinksTracked (seen ++ [event]) id [] where
  created := ⟨event, by simp, h⟩
  nodup := List.nodup_nil
  linked qsoId := by
    rw [linkedAtEnd_snoc]
    refine iff_of_false List.not_mem_nil ?_
    rintro (⟨_, _, hLinked, _⟩ | ⟨_, hNot, _⟩)
    · simp [CreatesActivation, hLinked] at h
    · exact hNot h

/-- Another event changes the links as the ledger of the activation says. -/
theorem LinksTracked.amended {seen : List CoreEventEnvelope} {event : CoreEventEnvelope}
    {id : Uuid} {contents : ActivationContents} (h : LinksTracked seen id contents.links)
    (hOther : ¬CreatesActivation id event) :
    LinksTracked (seen ++ [event]) id ((activationLedger id).amends event contents).links where
  created := by
    obtain ⟨created, hMem, hCreates⟩ := h.created
    exact ⟨created, List.mem_append_left _ hMem, hCreates⟩
  nodup := by
    have hNodup := h.nodup
    simp only [activationLedger]
    split <;> first | exact hNodup | (split <;> first | exact hNodup | skip)
    · exact hNodup.insert
    · exact hNodup.filter _
  linked qsoId := by
    rw [linkedAtEnd_snoc, ← h.linked]
    simp only [h.created, hOther, not_false_eq_true, true_and]
    simp only [activationLedger, LinksContact, UnlinksContact]
    split <;> (try split) <;> simp_all
    · exact or_congr_left eq_comm
    · exact fun _ => not_congr eq_comm

namespace ActivationProjection
variable {projection next : ActivationProjection} {event : CoreEventEnvelope}

/-- The event that puts an activation in place has a payload that takes its identifier. -/
theorem creates_of_apply (h : projection.apply event = .ok next) {id : Uuid}
    (hCreates : CreatesActivation id event) :
    ∃ payload, (activationLedger id).creates event = some ⟨[], [], payload⟩ := by
  obtain ⟨hKey, hType⟩ := hCreates
  have hBoth : event.entityId = some id ∧
      event.eventType ∈ [EventType.activationCreated, .activationStarted] := ⟨hKey, hType⟩
  unfold apply at h
  split at h
  · cases h
  · simp only [hKey] at h
    obtain ⟨records, hRecords, _⟩ := (except_map_eq_ok_iff ..).mp h
    have hInsert : projection.records.tryInsert id (createdRecord event id) = .ok records := by
      rcases List.mem_cons.mp hType with hCreated | hStarted
      · rw [applyRecords, hCreated] at hRecords
        exact hRecords
      · rw [applyRecords, List.mem_singleton.mp hStarted] at hRecords
        exact hRecords
    obtain ⟨record, hRecord, _⟩ := (KeyMap.tryInsert_eq_ok_iff ..).mp hInsert
    obtain ⟨payload, hPayload, _⟩ := (except_map_eq_ok_iff ..).mp hRecord
    refine ⟨payload, ?_⟩
    simp only [activationLedger]
    rw [if_pos hBoth, set_of_assignField hPayload]
    rfl

/-- Every event ends with a recomputation over the contacts it leaves. -/
theorem apply_eq_recomputed (h : projection.apply event = .ok next) :
    ∃ records qsos, projection.qsoProjection.apply event = .ok qsos ∧
      next = recomputeStats { records := records, qsoProjection := qsos } := by
  unfold apply at h
  split at h
  · cases h
  · next qsos hQsos =>
      split at h
      · exact ⟨_, qsos, hQsos, (Except.ok.inj h).symm⟩
      · obtain ⟨records, _, rfl⟩ := (except_map_eq_ok_iff ..).mp h
        exact ⟨records, qsos, hQsos, rfl⟩

/-- What is known of the activations after the events seen so far. -/
structure StatisticsTracked (seen : List CoreEventEnvelope) (projection : ActivationProjection) :
    Prop where
  contacts : rebuild QsoCurrentStateProjection seen = .ok projection.qsoProjection
  links : ∀ id contents, projection.contents id = some contents →
    LinksTracked seen id contents.links
  counts : ∀ id record, projection.get id = some record → record.linkedQsos.Nodup →
    CountsOver projection.qsoProjection record.linkedQsos.toFinset record

theorem statisticsTracked_empty :
    StatisticsTracked [] (Projection.clear : ActivationProjection) where
  contacts := rfl
  links := fun _ _ h => (by cases h)
  counts := fun _ _ h => (by cases h)

/-- The step: whatever the event is, the statistics are those of one count. -/
theorem StatisticsTracked.apply {seen : List CoreEventEnvelope}
    (hTracked : StatisticsTracked seen projection) (h : projection.apply event = .ok next) :
    StatisticsTracked (seen ++ [event]) next where
  contacts := by
    obtain ⟨records, qsos, hQsos, rfl⟩ := apply_eq_recomputed h
    exact Projection.rebuild_snoc hTracked.contacts hQsos
  links id contents hContents := by
    rw [contents_apply h id] at hContents
    by_cases hCreates : CreatesActivation id event
    · obtain ⟨payload, hPayload⟩ := creates_of_apply h hCreates
      rw [Ledger.replace, hPayload] at hContents
      rw [← Option.some.inj hContents]
      exact .of_created hCreates
    · have hNone : (activationLedger id).creates event = none := if_neg hCreates
      rw [Ledger.replace, hNone] at hContents
      obtain ⟨old, hOld, rfl⟩ := Option.map_eq_some_iff.mp hContents
      exact (hTracked.links id old hOld).amended hCreates
  counts id record hRecord hNodup := by
    obtain ⟨records, qsos, _, rfl⟩ := apply_eq_recomputed h
    have hLookup : (records.mapValues (recomputeRecord qsos)).lookup id = some record := hRecord
    rw [KeyMap.lookup_mapValues] at hLookup
    obtain ⟨old, _, rfl⟩ := Option.map_eq_some_iff.mp hLookup
    exact countsOver_recomputeRecord qsos hNodup

end ActivationProjection
end

section Examples
open scoped Crates

/-- An activation and a contact that is not linked to it. -/
def activationAndContact : List CoreEventEnvelope :=
  [(EventType.activationCreated, 5), (.qsoCreated, 2)].map fun (eventType, id) =>
    CoreEventEnvelope.fromNew (Crates.sampleEvent eventType 1 (some id) (.object [])) none
      (Crates.sampleStamp 3)

end Examples
end HamLogger
