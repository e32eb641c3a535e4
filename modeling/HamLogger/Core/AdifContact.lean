import HamLogger.Core.AdifRoundTrip
import HamLogger.Core.AdifSafety

/-! One contact of an export, read back and turned into a payload again. The
end of a contact is exported without its date, so it comes back on the day of
the start. -/
namespace HamLogger

open ByteText

namespace ExportField

theorem lookup_fill (field : ExportField) (record : AdifRecord) (name : String) :
    (field.fill record).lookup name =
      if name = field.name then field.announced.or (record.lookup name)
      else record.lookup name := by
  unfold fill
  cases field.announced with
  | none => simp
  | some value =>
      dsimp only
      rw [KeyMap.lookup_insert_eq_ite]
      simp

theorem lookup_fields_of_not_mem {fields : List ExportField} {name : String}
    (h : name ∉ fields.map ExportField.name) (record : AdifRecord) :
    (fields.foldl fill record).lookup name = record.lookup name := by
  induction fields generalizing record with
  | nil => rfl
  | cons field fields ih =>
      rw [List.map_cons, List.mem_cons, not_or] at h
      rw [List.foldl_cons, ih h.2, lookup_fill, if_neg h.1]

/-- Fields with different names are kept apart. -/
theorem lookup_fields {fields : List ExportField} (hNames : (fields.map ExportField.name).Nodup)
    {field : ExportField} (hMem : field ∈ fields) (record : AdifRecord) :
    (fields.foldl fill record).lookup field.name =
      field.announced.or (record.lookup field.name) := by
  induction fields generalizing record with
  | nil => cases hMem
  | cons first fields ih =>
      rw [List.map_cons, List.nodup_cons] at hNames
      rw [List.foldl_cons]
      rcases List.mem_cons.mp hMem with rfl | hRest
      · rw [lookup_fields_of_not_mem hNames.1, lookup_fill, if_pos rfl]
      · have hOther : field.name ≠ first.name := fun hSame =>
          hNames.1 (hSame ▸ List.mem_map_of_mem hRest)
        rw [ih hNames.2 hRest, lookup_fill, if_neg hOther]

theorem announced_of_length {field : ExportField}
    (h : ∀ value, field.value = some value → byteLength value.toList = field.length) :
    field.announced = field.value := by
  unfold announced
  cases hValue : field.value with
  | none => rfl
  | some value =>
      have hCut := splitBytes_append value.toList []
      rw [List.append_nil, h value hValue] at hCut
      rw [Option.bind_some, hCut]
      simp

theorem announced_text (name : String) (value : Option String) :
    (text name value).announced = value.filter fun value => value ≠ "" := by
  refine announced_of_length fun written hWritten => ?_
  have hSome : value.filter (fun value => value ≠ "") = some written := hWritten
  rw [byteLength_toList, text, hSome]
  rfl

end ExportField

theorem nonBlank_filter (value : Option String) :
    nonBlank (value.filter fun value => value ≠ "") = nonBlank value := by
  have hBlank : trim "" = "" := by decide
  cases value with
  | none => rfl
  | some value =>
      by_cases hEmpty : value = ""
      · simp [nonBlank, Option.filter_some, hEmpty, hBlank]
      · simp [Option.filter_some, hEmpty]

theorem isWhitespace_of_isDigit {c : Char} (h : c.isDigit = true) : isWhitespace c = false := by
  simp only [Char.isDigit, Bool.and_eq_true, decide_eq_true_eq] at h
  have hLow : 48 ≤ c.toNat := UInt32.le_iff_toNat_le.mp h.1
  have hHigh : c.toNat ≤ 57 := UInt32.le_iff_toNat_le.mp h.2
  simp [isWhitespace]
  omega

section Formats
variable [ChronoCrate] [ChronoFormat] [LawfulChronoFormat]

theorem byteLength_formatTime (instant : DateTime) :
    byteLength (ChronoFormat.formatTime instant).toList = 6 := by
  rw [byteLength_of_ascii, LawfulChronoFormat.time_length]
  intro c hMem
  exact utf8Size_of_isDigit (LawfulChronoFormat.time_chars instant c hMem)

theorem byteLength_formatDate {instant : DateTime} (h : instant.Exportable) :
    byteLength (ChronoFormat.formatDate instant).toList = 8 := by
  rw [byteLength_of_ascii, LawfulChronoFormat.date_length h]
  intro c hMem
  exact (utf8Size_of_dateChar (LawfulChronoFormat.date_chars instant c hMem)).1

theorem adifTime_formatTime {instant : DateTime} (h : instant.Exportable) :
    adifTime (ChronoFormat.formatTime instant) = .ok instant.time := by
  have hPad : padTime (ChronoFormat.formatTime instant) =
      (ChronoFormat.formatTime instant).toList ++ [] := by
    unfold padTime
    rw [LawfulChronoFormat.time_length]
    rfl
  have hCut := splitBytes_append (ChronoFormat.formatTime instant).toList []
  rw [byteLength_formatTime] at hCut
  unfold adifTime
  rw [hPad, hCut]
  dsimp only
  rw [String.ofList_toList, LawfulChronoFormat.parseTime h]

theorem nonBlank_formatDate {instant : DateTime} (h : instant.Exportable) :
    nonBlank (some (ChronoFormat.formatDate instant)) =
      some (ChronoFormat.formatDate instant) := by
  have hLength := LawfulChronoFormat.date_length h
  cases hText : (ChronoFormat.formatDate instant).toList with
  | nil =>
      rw [hText] at hLength
      cases hLength
  | cons c rest =>
      have hMem : c ∈ (ChronoFormat.formatDate instant).toList := by simp [hText]
      have hVisible : isWhitespace c = false := by
        rcases LawfulChronoFormat.date_chars instant c hMem with hDigit | rfl | rfl
        · exact isWhitespace_of_isDigit hDigit
        · decide
        · decide
      have hTrim := trim_ne_empty hMem hVisible
      rw [nonBlank, Option.filter_some, if_pos (decide_eq_true hTrim)]

end Formats

section Contacts
variable [ChronoCrate] [ChronoFormat] [FloatText]

theorem names_exportFields (activation : Option ActivationRecord) (payload : Value) :
    (exportFields activation payload).map ExportField.name =
      ["CALL", "STATION_CALLSIGN", "OPERATOR", "QSO_DATE", "TIME_ON", "TIME_OFF", "BAND", "FREQ",
        "MODE", "SUBMODE", "RST_SENT", "RST_RCVD", "GRIDSQUARE", "NAME", "QTH", "COMMENT",
        "MY_SIG", "MY_SIG_INFO", "SIG", "SIG_INFO"] := rfl

variable [UuidCrate]

/-- The record that is closed with a contact. -/
def recordOf (before : List QsoRecord) (contact : QsoRecord) : AdifRecord :=
  (exportFields none contact.payload).foldl ExportField.fill
    (before.foldl (closeContact none) headerState).1

/-- A record is open before a contact only behind the header. -/
theorem lookup_open {name : String} (h : name ≠ "ADIF_VER") (before : List QsoRecord) :
    (before.foldl (closeContact none) headerState).1.lookup name = none := by
  rcases List.eq_nil_or_concat before with rfl | ⟨first, last, rfl⟩
  · change ((∅ : AdifRecord).insert "ADIF_VER" "3.1.4").lookup name = none
    rw [AList.lookup_insert_ne h]
    rfl
  · rw [List.concat_eq_append, List.foldl_append]
    rfl

theorem lookup_recordOf (before : List QsoRecord) {contact : QsoRecord} {field : ExportField}
    (hMem : field ∈ exportFields none contact.payload) :
    (recordOf before contact).lookup field.name = field.announced := by
  have hName := List.mem_map_of_mem (f := ExportField.name) hMem
  have hNodup : ((exportFields none contact.payload).map ExportField.name).Nodup := by
    rw [names_exportFields]
    decide
  have hOther : field.name ≠ "ADIF_VER" := by
    intro hSame
    rw [hSame, names_exportFields] at hName
    revert hName
    decide
  rw [recordOf, ExportField.lookup_fields hNodup hMem, lookup_open hOther, Option.or_none]

/-- A text field comes back, unless it is blank. -/
theorem nonBlank_recordOf {name key : String} (before : List QsoRecord) {contact : QsoRecord}
    (hMem : ExportField.text name (textField contact.payload key) ∈
      exportFields none contact.payload) :
    nonBlank ((recordOf before contact).lookup name) =
      nonBlank (textField contact.payload key) := by
  have hLookup : (recordOf before contact).lookup name = _ :=
    (lookup_recordOf before hMem).trans (ExportField.announced_text name _)
  rw [hLookup, nonBlank_filter]

/-! Dates and clock times. -/

section Times
variable [LawfulChronoFormat]
variable (before : List QsoRecord) {contact : QsoRecord} {started : DateTime}

theorem lookup_qsoDate (hStarted : instantField contact.payload "started_at" = some started)
    (h : started.Exportable) :
    (recordOf before contact).lookup "QSO_DATE" = some (ChronoFormat.formatDate started) := by
  have hField : ExportField.mk "QSO_DATE" 8 (some (ChronoFormat.formatDate started)) ∈
      exportFields none contact.payload := by
    simp [exportFields, dateTimeFields, hStarted]
  refine (lookup_recordOf before hField).trans (ExportField.announced_of_length ?_)
  intro value hValue
  obtain rfl := Option.some.inj hValue
  exact byteLength_formatDate h

theorem lookup_timeOn (hStarted : instantField contact.payload "started_at" = some started) :
    (recordOf before contact).lookup "TIME_ON" = some (ChronoFormat.formatTime started) := by
  have hField : ExportField.mk "TIME_ON" 6 (some (ChronoFormat.formatTime started)) ∈
      exportFields none contact.payload := by
    simp [exportFields, dateTimeFields, hStarted]
  refine (lookup_recordOf before hField).trans (ExportField.announced_of_length ?_)
  intro value hValue
  obtain rfl := Option.some.inj hValue
  exact byteLength_formatTime started

theorem lookup_timeOff (hStarted : instantField contact.payload "started_at" = some started) :
    (recordOf before contact).lookup "TIME_OFF" =
      (instantField contact.payload "ended_at").map ChronoFormat.formatTime := by
  have hField : ExportField.mk "TIME_OFF" 6
      ((instantField contact.payload "ended_at").map ChronoFormat.formatTime) ∈
        exportFields none contact.payload := by
    simp [exportFields, dateTimeFields, hStarted]
  refine (lookup_recordOf before hField).trans (ExportField.announced_of_length ?_)
  intro value hValue
  obtain ⟨ended, _, rfl⟩ := Option.map_eq_some_iff.mp hValue
  exact byteLength_formatTime ended

/-- The start of a contact comes back as it was. -/
theorem adifDatetime_recordOf
    (hStarted : instantField contact.payload "started_at" = some started)
    (h : started.Exportable) :
    adifDatetime (recordOf before contact) "QSO_DATE" "TIME_ON" = .ok started.naive := by
  have hText : nonBlank ((recordOf before contact).lookup "QSO_DATE") =
      some (ChronoFormat.formatDate started) := by
    rw [lookup_qsoDate before hStarted h, nonBlank_formatDate h]
  rw [adifDatetime_eq "TIME_ON" hText (LawfulChronoFormat.parseDate h),
    lookup_timeOn before hStarted, Option.getD_some, adifTime_formatTime h]
  rfl

/-- Its end comes back with its clock time, on the day of the start. -/
theorem adifEnd_recordOf (hStarted : instantField contact.payload "started_at" = some started)
    (h : started.Exportable)
    (hEnded : ∀ ended, instantField contact.payload "ended_at" = some ended → ended.Exportable) :
    adifEnd (recordOf before contact) =
      .ok ((instantField contact.payload "ended_at").map fun ended =>
        { date := started.date, time := ended.time }) := by
  have hText : nonBlank ((recordOf before contact).lookup "QSO_DATE") =
      some (ChronoFormat.formatDate started) := by
    rw [lookup_qsoDate before hStarted h, nonBlank_formatDate h]
  have hDatetime := adifDatetime_eq "TIME_OFF" hText (LawfulChronoFormat.parseDate h)
  have hOff := lookup_timeOff before hStarted
  unfold adifEnd
  cases hEnd : instantField contact.payload "ended_at" with
  | none =>
      rw [hOff, hEnd]
      rfl
  | some ended =>
      rw [hOff, hEnd] at hDatetime
      rw [hOff, hEnd, hDatetime, Option.map_some, Option.getD_some,
        adifTime_formatTime (hEnded ended hEnd)]
      rfl

end Times
end Contacts

/-! The payload. -/

theorem get_copy (record : AdifRecord) (payload : Fields) (names : String × String)
    (key : String) :
    Fields.get (copy record payload names) key =
      if key = names.2 then
        ((nonBlank (record.lookup names.1)).map Value.string).or (Fields.get payload key)
      else Fields.get payload key := by
  unfold copy
  cases nonBlank (record.lookup names.1) with
  | none => simp
  | some value =>
      by_cases hKey : key = names.2
      · simp [hKey]
      · simp [hKey, Fields.get_insert_of_ne hKey]

section Payload
variable [ChronoFormat] [FloatText] (record : AdifRecord) (options : AdifImportOptions)
  (call mode : String) (startedAt : NaiveDateTime) (endedAt : Option NaiveDateTime)

/-- The two fields that are set last leave the others as they are. -/
theorem get_qsoFields {key : String} (hEnded : key ≠ "ended_at") (hHertz : key ≠ "frequency_hz") :
    Fields.get (qsoFields record options call mode startedAt endedAt) key =
      Fields.get (copiedFields.foldl (copy record) (importedFields record options
        (toAsciiUppercase call) (toAsciiUppercase mode) (ChronoFormat.toRfc3339 startedAt)))
        key := by
  unfold qsoFields
  cases (record.lookup "FREQ").bind FloatText.parseMegahertz <;> cases endedAt <;>
    simp [Fields.get_insert_of_ne hEnded, Fields.get_insert_of_ne hHertz]

theorem get_contactedCallsign :
    Fields.get (qsoFields record options call mode startedAt endedAt) "contacted_callsign" =
      some (.string (toAsciiUppercase call)) := by
  rw [get_qsoFields _ _ _ _ _ _ (by decide) (by decide)]
  simp [copiedFields, get_copy, importedFields, Value.mergeFields]

theorem get_mode :
    Fields.get (qsoFields record options call mode startedAt endedAt) "mode" =
      some (.string (toAsciiUppercase mode)) := by
  rw [get_qsoFields _ _ _ _ _ _ (by decide) (by decide)]
  simp [copiedFields, get_copy, importedFields, Value.mergeFields]

theorem get_startedAt :
    Fields.get (qsoFields record options call mode startedAt endedAt) "started_at" =
      some (.string (ChronoFormat.toRfc3339 startedAt)) := by
  rw [get_qsoFields _ _ _ _ _ _ (by decide) (by decide)]
  simp [copiedFields, get_copy, importedFields, Value.mergeFields]

theorem get_endedAt :
    Fields.get (qsoFields record options call mode startedAt endedAt) "ended_at" =
      endedAt.map fun endedAt => .string (ChronoFormat.toRfc3339 endedAt) := by
  unfold qsoFields
  cases (record.lookup "FREQ").bind FloatText.parseMegahertz <;> cases endedAt <;>
    simp [copiedFields, get_copy, importedFields, Value.mergeFields, Fields.get]

/-- The fields that are exported and imported under one name each. -/
def reportFields : List (String × String) :=
  [("BAND", "band"), ("SUBMODE", "submode"), ("RST_SENT", "rst_sent"),
    ("RST_RCVD", "rst_received"), ("GRIDSQUARE", "grid"), ("NAME", "name"), ("QTH", "qth")]

theorem get_report : ∀ names ∈ reportFields,
    Fields.get (qsoFields record options call mode startedAt endedAt) names.2 =
      (nonBlank (record.lookup names.1)).map Value.string := by
  have hFields : ∀ names ∈ reportFields, names.2 ≠ "ended_at" ∧ names.2 ≠ "frequency_hz" := by
    decide
  intro names hMem
  rw [get_qsoFields _ _ _ _ _ _ (hFields names hMem).1 (hFields names hMem).2]
  revert names
  simp [reportFields, copiedFields, get_copy, importedFields, Value.mergeFields, Fields.get]

theorem get_notes :
    Fields.get (qsoFields record options call mode startedAt endedAt) "notes" =
      ((nonBlank (record.lookup "NOTES")).map Value.string).or
        ((nonBlank (record.lookup "COMMENT")).map Value.string) := by
  rw [get_qsoFields _ _ _ _ _ _ (by decide) (by decide)]
  simp [copiedFields, get_copy, importedFields, Value.mergeFields, Fields.get]

end Payload
end HamLogger
