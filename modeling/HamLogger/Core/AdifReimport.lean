import HamLogger.Core.AdifContact

/-! Exporting a contact and importing it again. The instants of the contact
come back just where it ends on the day on which it started. -/
namespace HamLogger

open ByteText

/-! The day of the start with the clock time of the end. -/

namespace DateTime

def onDayOf (ended started : DateTime) : DateTime where
  nanos := started.nanos / 86400000000000 * 86400000000000 + ended.nanos % 86400000000000
  lower := by
    have hLower := started.lower
    omega
  upper := by
    have hUpper := started.upper
    omega

theorem naive_onDayOf (ended started : DateTime) :
    (ended.onDayOf started).naive = { date := started.date, time := ended.time } := by
  simp only [naive, date, time, onDayOf, NaiveDateTime.mk.injEq, NaiveDate.mk.injEq,
    NaiveTime.mk.injEq, Fin.mk.injEq]
  omega

theorem exportable_onDayOf {ended started : DateTime} (hEnded : ended.Exportable)
    (hStarted : started.Exportable) : (ended.onDayOf started).Exportable where
  whole := by
    have hWhole := hEnded.whole
    simp only [onDayOf]
    omega
  first := by
    have hFirst := hStarted.first
    simp only [onDayOf]
    omega
  last := by
    have hLast := hStarted.last
    simp only [onDayOf]
    omega

theorem onDayOf_eq_iff (ended started : DateTime) :
    ended.onDayOf started = ended ↔ ended.date = started.date := by
  cases ended
  simp only [onDayOf, date, DateTime.mk.injEq, NaiveDate.mk.injEq]
  omega

end DateTime

theorem instantField_object [ChronoCrate] {fields : Fields} {key text : String}
    (h : Fields.get fields key = some (.string text)) :
    instantField (.object fields) key = ChronoCrate.parseFromRfc3339 text := by
  simp [instantField, textField, h, Value.asStr]

section Contacts
variable [ChronoCrate] [ChronoFormat] [FloatText]

/-- The imported payload has the instants, the callsign and the mode of the
contact, and its texts that are not blank. -/
structure Reproduces (original imported : Value) : Prop where
  startedAt : instantField imported "started_at" = instantField original "started_at"
  endedAt : instantField imported "ended_at" = instantField original "ended_at"
  contactedCallsign : textField imported "contacted_callsign" =
    (textField original "contacted_callsign").map toAsciiUppercase
  mode : textField imported "mode" = (textField original "mode").map toAsciiUppercase
  texts : ∀ key ∈ ["band", "submode", "rst_sent", "rst_received", "grid", "name", "qth", "notes"],
    nonBlank (textField imported key) = nonBlank (textField original key)

variable [UuidCrate]

/-- The record that a parser of the export reads for a contact that follows
some others: the last one of the text that is cut behind the contact, and in
the same place in the whole text. -/
def ReadsContactAs (projection : QsoCurrentStateProjection) (before : List QsoRecord)
    (contact : QsoRecord) (record : AdifRecord) : Prop :=
  ∃ earlier later,
    parseAdif (exportContacts none (before ++ [contact])) = some (earlier ++ [record]) ∧
    parseAdif (exportAdif projection false) = some (earlier ++ record :: later)

theorem closeContact_extends (contacts : List QsoRecord)
    (state : AdifRecord × List AdifRecord) :
    ∃ later, (contacts.foldl (closeContact none) state).2 = state.2 ++ later := by
  induction contacts generalizing state with
  | nil => exact ⟨[], (List.append_nil _).symm⟩
  | cons contact contacts ih =>
      obtain ⟨later, hLater⟩ := ih (closeContact none state contact)
      rw [List.foldl_cons, hLater]
      unfold closeContact
      rw [pushRecord_eq]
      exact ⟨_, List.append_assoc ..⟩

/-- The texts of the payload are those of the contact. -/
theorem texts_recordOf (before : List QsoRecord) {contact : QsoRecord}
    (options : AdifImportOptions) (call mode : String)
    (startedAt : NaiveDateTime) (endedAt : Option NaiveDateTime) :
    ∀ key ∈ ["band", "submode", "rst_sent", "rst_received", "grid", "name", "qth", "notes"],
      nonBlank (textField (.object (qsoFields (recordOf before contact) options call mode
        startedAt endedAt)) key) = nonBlank (textField contact.payload key) := by
  have hTwice : ∀ value : Option String,
      nonBlank ((((nonBlank value).map Value.string)).bind Value.asStr) = nonBlank value := by
    intro value
    cases value with
    | none => rfl
    | some value =>
        by_cases hBlank : trim value = "" <;>
          simp [nonBlank, Option.filter_some, hBlank, Value.asStr]
  have hReports : ∀ names ∈ reportFields,
      nonBlank (textField (.object (qsoFields (recordOf before contact) options call mode
        startedAt endedAt)) names.2) = nonBlank (textField contact.payload names.2) := by
    intro names hMem
    have hField : ExportField.text names.1 (textField contact.payload names.2) ∈
        exportFields none contact.payload := by
      revert names
      simp [reportFields, exportFields]
    rw [textField, Value.get_object, get_report _ _ _ _ _ _ names hMem, hTwice,
      nonBlank_recordOf before hField]
  have hNotes : nonBlank (textField (.object (qsoFields (recordOf before contact) options call
      mode startedAt endedAt)) "notes") = nonBlank (textField contact.payload "notes") := by
    have hNone : (recordOf before contact).lookup "NOTES" = none := by
      rw [recordOf, ExportField.lookup_fields_of_not_mem (by rw [names_exportFields]; decide),
        lookup_open (by decide)]
    have hField : ExportField.text "COMMENT" (textField contact.payload "notes") ∈
        exportFields none contact.payload := by
      simp [exportFields]
    have hNothing : (nonBlank (none : Option String)).map Value.string = none := rfl
    rw [textField, Value.get_object, get_notes, hNone, hNothing, Option.none_or, hTwice,
      nonBlank_recordOf before hField]
  simp only [reportFields, List.forall_mem_cons] at hReports
  simp only [List.forall_mem_cons]
  tauto

variable [LawfulChronoFormat]

theorem readsContactAs_iff {projection : QsoCurrentStateProjection}
    {before after : List QsoRecord} {contact : QsoRecord}
    (hVisible : projection.list false = before ++ contact :: after)
    (hSize : (exportAdif projection false).utf8ByteSize < 2 ^ 64)
    {name : String} (hField : ((recordOf before contact).lookup name).isSome)
    (record : AdifRecord) :
    ReadsContactAs projection before contact record ↔ record = recordOf before contact := by
  have hExport : exportAdif projection false =
      exportContacts none (before ++ contact :: after) := by
    rw [← hVisible]
    rfl
  rw [hExport] at hSize
  have hPrefix : (exportContacts none (before ++ [contact])).utf8ByteSize < 2 ^ 64 := by
    rw [← byteLength_toList, toList_exportContacts] at hSize ⊢
    simp only [List.flatMap_append, List.flatMap_cons, List.flatMap_nil, byteLength_append,
      byteLength_nil] at hSize ⊢
    omega
  obtain ⟨state, hState⟩ : ∃ state, state = before.foldl (closeContact none) headerState :=
    ⟨_, rfl⟩
  have hClosed : closeContact none state contact =
      (∅, state.2 ++ [recordOf before contact]) := by
    have hPush := pushRecord_of_field hField state.2
    rw [← hPush, hState]
    rfl
  have hFirst : parseAdif (exportContacts none (before ++ [contact])) =
      some (state.2 ++ [recordOf before contact]) := by
    rw [parseAdif_exportContacts hPrefix, List.foldl_append, ← hState, List.foldl_cons,
      List.foldl_nil, hClosed]
    rfl
  obtain ⟨later, hWhole⟩ : ∃ later, parseAdif (exportContacts none (before ++ contact :: after)) =
      some (state.2 ++ recordOf before contact :: later) := by
    obtain ⟨later, hLater⟩ := closeContact_extends after
      (∅, state.2 ++ [recordOf before contact])
    rw [parseAdif_exportContacts hSize, List.foldl_append, ← hState, List.foldl_cons, hClosed,
      pushRecord_eq, hLater]
    exact ⟨_, by rw [List.append_assoc, List.append_assoc]; rfl⟩
  unfold ReadsContactAs
  rw [hExport]
  constructor
  · rintro ⟨earlier, rest, hCut, _⟩
    have hSame := Option.some.inj (hCut.symm.trans hFirst)
    exact List.singleton_inj.mp (List.append_inj' hSame rfl).2
  · rintro rfl
    exact ⟨state.2, later, hFirst, hWhole⟩

variable (before : List QsoRecord) {contact : QsoRecord} {started : DateTime}

/-- The record of a contact has a payload just where the callsign and the
mode are not blank. -/
theorem payload_recordOf_iff (options : AdifImportOptions)
    (hStarted : instantField contact.payload "started_at" = some started)
    (hStart : started.Exportable)
    (hEnd : ∀ ended, instantField contact.payload "ended_at" = some ended → ended.Exportable)
    (payload : Value) :
    adifRecordToQsoPayload (recordOf before contact) options = .ok payload ↔
      ∃ call mode, nonBlank (textField contact.payload "contacted_callsign") = some call ∧
        nonBlank (textField contact.payload "mode") = some mode ∧
        payload = .object (qsoFields (recordOf before contact) options call mode started.naive
          ((instantField contact.payload "ended_at").map fun ended =>
            (ended.onDayOf started).naive)) := by
  have hCall : nonBlank ((recordOf before contact).lookup "CALL") =
      nonBlank (textField contact.payload "contacted_callsign") :=
    nonBlank_recordOf before (by simp [exportFields])
  have hMode : nonBlank ((recordOf before contact).lookup "MODE") =
      nonBlank (textField contact.payload "mode") :=
    nonBlank_recordOf before (by simp [exportFields])
  have hEnded := adifEnd_recordOf before hStarted hStart hEnd
  simp only [← DateTime.naive_onDayOf] at hEnded
  unfold adifRecordToQsoPayload
  simp only [except_bind_eq_ok_iff, ofExcept_required_ok_iff, hCall, hMode,
    adifDatetime_recordOf before hStarted hStart, hEnded, Except.ok.injEq, exists_eq_left']
  constructor
  · rintro ⟨call, hCall, mode, hMode, hPayload⟩
    exact ⟨call, mode, hCall, hMode, (Except.ok.inj hPayload).symm⟩
  · rintro ⟨call, mode, hCall, hMode, rfl⟩
    exact ⟨call, hCall, mode, hMode, rfl⟩

/-- The end comes back on the day of the start. -/
theorem endedAt_recordOf (options : AdifImportOptions) (call mode : String)
    (hStart : started.Exportable)
    (hEnd : ∀ ended, instantField contact.payload "ended_at" = some ended → ended.Exportable) :
    instantField (.object (qsoFields (recordOf before contact) options call mode started.naive
      ((instantField contact.payload "ended_at").map fun ended =>
        (ended.onDayOf started).naive))) "ended_at" =
      (instantField contact.payload "ended_at").map fun ended => ended.onDayOf started := by
  have hField := get_endedAt (recordOf before contact) options call mode started.naive
    ((instantField contact.payload "ended_at").map fun ended => (ended.onDayOf started).naive)
  cases hEnded : instantField contact.payload "ended_at" with
  | none =>
      rw [hEnded] at hField
      simp only [instantField, textField, Value.get_object]
      rw [Option.map_none, Option.map_none] at hField
      rw [Option.map_none, hField]
      rfl
  | some ended =>
      rw [hEnded] at hField
      have hExportable := DateTime.exportable_onDayOf (hEnd ended hEnded) hStart
      exact (instantField_object hField).trans (LawfulChronoFormat.parseFromRfc3339 hExportable)

/-- A contact survives an export and an import just where it has a callsign
and a mode and ends, if it does, on the day on which it started. -/
theorem exported_contact_reproduced_iff (projection : QsoCurrentStateProjection)
    (options : AdifImportOptions) {after : List QsoRecord}
    (hVisible : projection.list false = before ++ contact :: after)
    (hSize : (exportAdif projection false).utf8ByteSize < 2 ^ 64)
    (hStarted : instantField contact.payload "started_at" = some started)
    (hStart : started.Exportable)
    (hEnd : ∀ ended, instantField contact.payload "ended_at" = some ended → ended.Exportable) :
    (∃ record payload, ReadsContactAs projection before contact record ∧
      adifRecordToQsoPayload record options = .ok payload ∧
      Reproduces contact.payload payload) ↔
    (nonBlank (textField contact.payload "contacted_callsign")).isSome ∧
      (nonBlank (textField contact.payload "mode")).isSome ∧
      ∀ ended, instantField contact.payload "ended_at" = some ended →
        ended.date = started.date := by
  have hField : ((recordOf before contact).lookup "TIME_ON").isSome := by
    rw [lookup_timeOn before hStarted]
    rfl
  have hReads := readsContactAs_iff hVisible hSize hField
  have hPayloads := payload_recordOf_iff before options hStarted hStart hEnd
  have hEndedAt := fun call mode => endedAt_recordOf before options call mode hStart hEnd
  constructor
  · rintro ⟨record, payload, hRecord, hPayload, hReproduces⟩
    obtain rfl := (hReads record).mp hRecord
    obtain ⟨call, mode, hCall, hMode, rfl⟩ := (hPayloads payload).mp hPayload
    refine ⟨by rw [hCall]; rfl, by rw [hMode]; rfl, fun ended hEnded => ?_⟩
    have hSame := (hEndedAt call mode).symm.trans hReproduces.endedAt
    rw [hEnded] at hSame
    exact (DateTime.onDayOf_eq_iff ended started).mp (Option.some.inj hSame)
  · rintro ⟨hCall, hMode, hDay⟩
    obtain ⟨call, hCall⟩ := Option.isSome_iff_exists.mp hCall
    obtain ⟨mode, hMode⟩ := Option.isSome_iff_exists.mp hMode
    refine ⟨_, _, (hReads _).mpr rfl, (hPayloads _).mpr ⟨call, mode, hCall, hMode, rfl⟩, ?_⟩
    constructor
    case startedAt =>
      rw [instantField_object (get_startedAt ..), LawfulChronoFormat.parseFromRfc3339 hStart,
        hStarted]
    case endedAt =>
      rw [hEndedAt call mode]
      cases hEnded : instantField contact.payload "ended_at" with
      | none => rfl
      | some ended =>
          rw [Option.map_some, (DateTime.onDayOf_eq_iff ended started).mpr (hDay ended hEnded)]
    case contactedCallsign =>
      rw [textField, Value.get_object, get_contactedCallsign,
        (Option.filter_eq_some_iff.mp hCall).1]
      rfl
    case mode =>
      rw [textField, Value.get_object, get_mode, (Option.filter_eq_some_iff.mp hMode).1]
      rfl
    case texts => exact texts_recordOf before options call mode _ _

end Contacts
section
open Crates

/-- A contact that starts shortly before midnight. -/
def eveningContact (endedAt : String) : QsoRecord where
  qsoId := 1
  payload := .object
    [("contacted_callsign", .string "K1ABC"), ("ended_at", .string endedAt),
      ("mode", .string "SSB"), ("started_at", .string "2026-07-04T23:50:00Z")]
  noteHistory := []
  deleted := false
  lastEventHash := ""

def eveningLog (endedAt : String) : QsoCurrentStateProjection where
  records := (∅ : KeyMap Uuid QsoRecord).insert 1 (eveningContact endedAt)

/-- July 4, 2026, at ten minutes to midnight, and some minutes later. -/
def evening (minutes : Fin 60) : DateTime where
  nanos := (20638 * 86400 + 85800 + minutes.val * 60) * 1000000000
  lower := by omega
  upper := by omega

theorem exportable_evening (minutes : Fin 60) : (evening minutes).Exportable where
  whole := by
    simp only [evening]
    omega
  first := by
    simp only [evening]
    omega
  last := by
    simp only [evening]
    omega

theorem exported_contact_reproduced_evening :
    ∃ record payload,
      ReadsContactAs (eveningLog "2026-07-04T23:58:00Z") [] (eveningContact "2026-07-04T23:58:00Z")
        record ∧
      adifRecordToQsoPayload record (.mvpDefault "KE8YGW" "builtin" 1) = .ok payload ∧
      Reproduces (eveningContact "2026-07-04T23:58:00Z").payload payload := by
  have hVisible : (eveningLog "2026-07-04T23:58:00Z").list false =
      [] ++ eveningContact "2026-07-04T23:58:00Z" :: [] := by decide
  have hSize : (exportAdif (eveningLog "2026-07-04T23:58:00Z") false).utf8ByteSize < 2 ^ 64 := by
    decide +kernel
  have hStarted : instantField (eveningContact "2026-07-04T23:58:00Z").payload "started_at" =
      some (evening 0) := by decide
  have hEnded : instantField (eveningContact "2026-07-04T23:58:00Z").payload "ended_at" =
      some (evening 8) := by decide
  refine (exported_contact_reproduced_iff [] _ _ hVisible hSize hStarted (exportable_evening 0)
    ?_).mpr ⟨by decide, by decide, ?_⟩
  · intro ended h
    obtain rfl := Option.some.inj (hEnded.symm.trans h)
    exact exportable_evening 8
  · intro ended h
    obtain rfl := Option.some.inj (hEnded.symm.trans h)
    decide

/-- A contact that ends after midnight comes back with its end a day early. -/
theorem midnight_contact_ends_early :
    ¬ ∃ record payload,
      ReadsContactAs (eveningLog "2026-07-05T00:05:00Z") [] (eveningContact "2026-07-05T00:05:00Z")
        record ∧
      adifRecordToQsoPayload record (.mvpDefault "KE8YGW" "builtin" 1) = .ok payload ∧
      Reproduces (eveningContact "2026-07-05T00:05:00Z").payload payload := by
  have hVisible : (eveningLog "2026-07-05T00:05:00Z").list false =
      [] ++ eveningContact "2026-07-05T00:05:00Z" :: [] := by decide
  have hSize : (exportAdif (eveningLog "2026-07-05T00:05:00Z") false).utf8ByteSize < 2 ^ 64 := by
    decide +kernel
  have hStarted : instantField (eveningContact "2026-07-05T00:05:00Z").payload "started_at" =
      some (evening 0) := by decide
  have hEnded : instantField (eveningContact "2026-07-05T00:05:00Z").payload "ended_at" =
      some (evening 15) := by decide
  have hEnd : ∀ ended, instantField (eveningContact "2026-07-05T00:05:00Z").payload "ended_at" =
      some ended → ended.Exportable := by
    intro ended h
    obtain rfl := Option.some.inj (hEnded.symm.trans h)
    exact exportable_evening 15
  have hField :
      ((recordOf [] (eveningContact "2026-07-05T00:05:00Z")).lookup "TIME_ON").isSome := by
    rw [lookup_timeOn [] hStarted]
    rfl
  rintro ⟨record, payload, hRecord, hPayload, hReproduces⟩
  obtain rfl := (readsContactAs_iff hVisible hSize hField record).mp hRecord
  obtain ⟨call, mode, _, _, rfl⟩ := (payload_recordOf_iff [] _ hStarted (exportable_evening 0)
    hEnd payload).mp hPayload
  have hSame := (endedAt_recordOf [] _ call mode (exportable_evening 0) hEnd).symm.trans
    hReproduces.endedAt
  rw [hEnded] at hSame
  have hDay := (DateTime.onDayOf_eq_iff _ _).mp (Option.some.inj hSame)
  revert hDay
  decide

end
end HamLogger
