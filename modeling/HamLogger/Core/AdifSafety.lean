import HamLogger.Core.AdifCrates
import HamLogger.Core.AdifReading

/-! When an import gets through its text. Reading stops the program where an
announced length ends inside a character or passes the range of an index, and
turning a record into a payload stops it where the sixth byte of a clock time
lies inside a character. -/
namespace HamLogger

open ByteText

/-- The sixth byte of the padded time is followed by a character. -/
def CutsTime (time : String) : Prop :=
  ∃ front back, padTime time = front ++ back ∧ byteLength front = 6

theorem cutsTime_iff (time : String) :
    CutsTime time ↔ ∃ cut, splitBytes 6 (padTime time) = some cut := by
  constructor
  · rintro ⟨front, back, hText, hLength⟩
    exact ⟨(front, back), splitBytes_eq_some_iff.mpr ⟨hText, hLength⟩⟩
  · rintro ⟨⟨front, back⟩, hCut⟩
    obtain ⟨hText, hLength⟩ := splitBytes_eq_some_iff.mp hCut
    exact ⟨front, back, hText, hLength⟩

theorem required_ok_iff (record : AdifRecord) (field value : String) :
    required record field = .ok value ↔ nonBlank (record.lookup field) = some value := by
  unfold required
  cases nonBlank (record.lookup field) <;> simp

theorem ofExcept_required_panics (record : AdifRecord) (field : String) :
    Outcome.ofExcept (required record field) ≠ .error .panic := by
  cases required record field <;> simp

theorem ofExcept_required_ok_iff (record : AdifRecord) (field value : String) :
    Outcome.ofExcept (required record field) = .ok value ↔
      nonBlank (record.lookup field) = some value := by
  rw [← required_ok_iff]
  cases required record field <;> simp

section Conversion
variable [ChronoFormat]

/-- The first six bytes of the padded time are a clock time. -/
def ReadsTime (time : String) : Prop :=
  ∃ front back value, padTime time = front ++ back ∧ byteLength front = 6 ∧
    ChronoFormat.parseTime (String.ofList front) = some value

/-- The record has a date that can be read. -/
def HasDate (record : AdifRecord) : Prop :=
  ∃ text date, nonBlank (record.lookup "QSO_DATE") = some text ∧
    ChronoFormat.parseDate text = some date

/-- The clock times that are looked at can be cut: the start of a contact,
and its end where the start could be read. Nothing is looked at in a record
without a callsign, a mode or a date. -/
def TimesCut (record : AdifRecord) : Prop :=
  (nonBlank (record.lookup "CALL")).isSome → (nonBlank (record.lookup "MODE")).isSome →
    HasDate record →
      CutsTime ((record.lookup "TIME_ON").getD "000000") ∧
        (ReadsTime ((record.lookup "TIME_ON").getD "000000") →
          ∀ timeOff, record.lookup "TIME_OFF" = some timeOff → CutsTime timeOff)

theorem adifTime_panics_iff (time : String) :
    adifTime time = .error .panic ↔ ¬ CutsTime time := by
  rw [cutsTime_iff]
  unfold adifTime
  cases splitBytes 6 (padTime time) with
  | none => simp
  | some cut =>
      dsimp only
      cases ChronoFormat.parseTime (String.ofList cut.1) <;> simp

theorem adifTime_returns_iff (time : String) :
    (∃ value, adifTime time = .ok value) ↔ ReadsTime time := by
  unfold adifTime ReadsTime
  constructor
  · rintro ⟨value, h⟩
    split at h
    · cases h
    · rename_i front back hCut
      obtain ⟨hText, hLength⟩ := splitBytes_eq_some_iff.mp hCut
      split at h
      · cases h
      · rename_i time hTime
        exact ⟨front, back, time, hText, hLength, hTime⟩
  · rintro ⟨front, back, value, hText, hLength, hTime⟩
    rw [splitBytes_eq_some_iff.mpr ⟨hText, hLength⟩]
    dsimp only
    rw [hTime]
    exact ⟨value, rfl⟩

section Dates
variable (record : AdifRecord) (timeField : String)

/-- Behind a date that can be read, the clock time decides. -/
theorem adifDatetime_eq {record : AdifRecord} {dateField text : String} {date : NaiveDate}
    (hText : nonBlank (record.lookup dateField) = some text)
    (hDate : ChronoFormat.parseDate text = some date) :
    adifDatetime record dateField timeField =
      (adifTime ((record.lookup timeField).getD "000000")).map fun time =>
        { date := date, time := time } := by
  unfold adifDatetime
  rw [(required_ok_iff record dateField text).mpr hText]
  simp only [Outcome.ofExcept_ok, bind, Except.bind, hDate]

theorem adifDatetime_of_hasDate {record : AdifRecord} (h : HasDate record) :
    ∃ date, adifDatetime record "QSO_DATE" timeField =
      (adifTime ((record.lookup timeField).getD "000000")).map fun time =>
        { date := date, time := time } := by
  obtain ⟨text, date, hText, hDate⟩ := h
  exact ⟨date, adifDatetime_eq timeField hText hDate⟩

theorem adifDatetime_of_not_hasDate {record : AdifRecord} (h : ¬ HasDate record) :
    ∃ error, adifDatetime record "QSO_DATE" timeField = .error (.error error) := by
  unfold adifDatetime
  cases hText : required record "QSO_DATE" with
  | error error => exact ⟨error, rfl⟩
  | ok text =>
      cases hDate : ChronoFormat.parseDate text with
      | none =>
          refine ⟨"invalid ADIF date " ++ text, ?_⟩
          simp only [Outcome.ofExcept_ok, bind, Except.bind, hDate]
      | some date => exact absurd ⟨text, date, (required_ok_iff ..).mp hText, hDate⟩ h

theorem adifDatetime_panics_iff :
    adifDatetime record "QSO_DATE" timeField = .error .panic ↔
      HasDate record ∧ ¬ CutsTime ((record.lookup timeField).getD "000000") := by
  by_cases hDated : HasDate record
  · obtain ⟨date, hDatetime⟩ := adifDatetime_of_hasDate timeField hDated
    rw [hDatetime, ← adifTime_panics_iff]
    cases adifTime ((record.lookup timeField).getD "000000") <;> simp [Except.map, hDated]
  · obtain ⟨error, hDatetime⟩ := adifDatetime_of_not_hasDate timeField hDated
    rw [hDatetime]
    simp [hDated]

theorem adifDatetime_returns_iff :
    (∃ instant, adifDatetime record "QSO_DATE" timeField = .ok instant) ↔
      HasDate record ∧ ReadsTime ((record.lookup timeField).getD "000000") := by
  by_cases hDated : HasDate record
  · obtain ⟨date, hDatetime⟩ := adifDatetime_of_hasDate timeField hDated
    rw [hDatetime, ← adifTime_returns_iff]
    cases adifTime ((record.lookup timeField).getD "000000") <;> simp [Except.map, hDated]
  · obtain ⟨error, hDatetime⟩ := adifDatetime_of_not_hasDate timeField hDated
    rw [hDatetime]
    simp [hDated]

theorem adifEnd_panics_iff :
    adifEnd record = .error .panic ↔
      HasDate record ∧ ∃ timeOff, record.lookup "TIME_OFF" = some timeOff ∧ ¬ CutsTime timeOff := by
  unfold adifEnd
  cases hOff : record.lookup "TIME_OFF" with
  | none => simp
  | some timeOff =>
      have hPanics := adifDatetime_panics_iff record "TIME_OFF"
      rw [hOff] at hPanics
      dsimp only
      cases hEnd : adifDatetime record "QSO_DATE" "TIME_OFF" with
      | ok endedAt => simpa [hEnd] using hPanics
      | error fault => cases fault <;> simpa [hEnd] using hPanics

end Dates

variable [FloatText]

/-- The conversion of a record panics just where a clock time cannot be cut. -/
theorem adifRecordToQsoPayload_panics_iff (record : AdifRecord) (options : AdifImportOptions) :
    adifRecordToQsoPayload record options = .error .panic ↔ ¬ TimesCut record := by
  unfold adifRecordToQsoPayload TimesCut
  simp only [except_bind_eq_error_iff, ofExcept_required_panics, ofExcept_required_ok_iff,
    adifDatetime_panics_iff, adifEnd_panics_iff, false_or, Option.isSome_iff_exists]
  constructor
  · rintro ⟨call, hCall, mode, hMode, ⟨hDated, hCut⟩ | ⟨startedAt, hStarted, hEnd⟩⟩ hTimes
    · exact hCut (hTimes ⟨call, hCall⟩ ⟨mode, hMode⟩ hDated).1
    · have hReads := ((adifDatetime_returns_iff record "TIME_ON").mp ⟨startedAt, hStarted⟩).2
      rcases hEnd with ⟨hDated, timeOff, hOff, hCut⟩ | ⟨endedAt, _, hReturned⟩
      · exact hCut ((hTimes ⟨call, hCall⟩ ⟨mode, hMode⟩ hDated).2 hReads timeOff hOff)
      · cases hReturned
  · intro hTimes
    push Not at hTimes
    obtain ⟨⟨call, hCall⟩, ⟨mode, hMode⟩, hDated, hCut⟩ := hTimes
    refine ⟨call, hCall, mode, hMode, ?_⟩
    by_cases hStart : CutsTime ((record.lookup "TIME_ON").getD "000000")
    · obtain ⟨hReads, timeOff, hOff, hEnd⟩ := hCut hStart
      obtain ⟨startedAt, hStarted⟩ := (adifDatetime_returns_iff record "TIME_ON").mpr
        ⟨hDated, hReads⟩
      exact .inr ⟨startedAt, hStarted, .inl ⟨hDated, timeOff, hOff, hEnd⟩⟩
    · exact .inl ⟨hDated, hStart⟩

theorem importedPayloads_returns_iff (options : AdifImportOptions) (records : List AdifRecord) :
    (∃ payloads, importedPayloads options records = some payloads) ↔
      ∀ record ∈ records, TimesCut record := by
  induction records with
  | nil => simp [importedPayloads]
  | cons record records ih =>
      have hPanics := adifRecordToQsoPayload_panics_iff record options
      rw [List.forall_mem_cons, ← ih, importedPayloads]
      cases hPayload : adifRecordToQsoPayload record options with
      | ok payload =>
          have hCut : TimesCut record := by simpa [hPayload] using hPanics
          simp [hCut]
      | error fault =>
          cases fault with
          | panic =>
              have hCut : ¬ TimesCut record := hPanics.mp hPayload
              simp [hCut]
          | error error =>
              have hCut : TimesCut record := by simpa [hPayload] using hPanics
              simp [hCut]

/-- Reading a text and turning its records into payloads returns just where
the text has whole elements and the clock times can be cut. -/
theorem import_returns_iff (input : String) (options : AdifImportOptions) :
    (∃ payloads, (parseAdif input).bind (importedPayloads options) = some payloads) ↔
      ∃ elements, ReadsAs 0 input.toList elements ∧
        ∀ record ∈ groupRecords ∅ elements, TimesCut record := by
  simp only [Option.bind_eq_some_iff, parseAdif_eq_some_iff]
  constructor
  · rintro ⟨payloads, records, ⟨elements, hReads, rfl⟩, hPayloads⟩
    exact ⟨elements, hReads, (importedPayloads_returns_iff options _).mp ⟨payloads, hPayloads⟩⟩
  · rintro ⟨elements, hReads, hTimes⟩
    obtain ⟨payloads, hPayloads⟩ := (importedPayloads_returns_iff options _).mpr hTimes
    exact ⟨payloads, _, ⟨elements, hReads, rfl⟩, hPayloads⟩

end Conversion

section
open Crates

/-- An announced length that ends inside a character stops the program. -/
theorem length_inside_character_panics :
    ¬ ∃ payloads, (parseAdif "<NAME:1>é<EOR>").bind
      (importedPayloads (AdifImportOptions.mvpDefault "KE8YGW" "builtin" 1)) = some payloads := by
  have hParse : parseAdif "<NAME:1>é<EOR>" = none := by decide +kernel
  rw [hParse]
  simp

end
end HamLogger
