import HamLogger.Core.AdifCrates
import HamLogger.Core.AdifReading

/-! What an export writes, contact by contact, and what a parser makes of it.
The parser takes every field back, and it keeps the version field of the
header, which the end of the header does not clear. -/
namespace HamLogger

open ByteText

/-- One field that may be written: its name, the length that is announced and
the value, if there is one. -/
structure ExportField where
  name : String
  length : Nat
  value : Option String

namespace ExportField

def chars (field : ExportField) : List Char :=
  match field.value with
  | none => []
  | some value => (adifField field.name field.length value).toList

/-- A text is announced by its own length, and left out when it is empty. -/
def text (name : String) (value : Option String) : ExportField where
  name := name
  length := ((value.filter fun value => value ≠ "").getD "").utf8ByteSize
  value := value.filter fun value => value ≠ ""

/-- The part of the value that is announced. -/
def announced (field : ExportField) : Option String :=
  field.value.bind fun value =>
    (splitBytes field.length value.toList).map fun cut => String.ofList cut.1

/-- Put the announced value into a record. -/
def fill (record : AdifRecord) (field : ExportField) : AdifRecord :=
  match field.announced with
  | none => record
  | some value => record.insert field.name value

end ExportField

theorem toList_adifField (name : String) (length : Nat) (value : String) :
    (adifField name length value).toList =
      '<' :: (name.toList ++ ':' :: (Nat.toDigits 10 length ++ '>' :: value.toList)) := by
  unfold adifField
  rw [Nat.toString_eq_ofList_toDigits]
  simp

theorem toList_appendField (output name : String) (value : Option Value) :
    (appendField output name value).toList =
      output.toList ++ (ExportField.text name (value.bind Value.asStr)).chars := by
  unfold appendField ExportField.chars ExportField.text
  cases value.bind Value.asStr with
  | none => simp
  | some value =>
      by_cases hEmpty : value = ""
      · simp [hEmpty, Option.filter_some]
      · simp [hEmpty, Option.filter_some]

theorem toList_appendFieldOrStr (output name : String) (value : Option Value)
    (fallback : Option String) :
    (appendFieldOrStr output name value fallback).toList =
      output.toList ++
        (ExportField.text name ((value.bind Value.asStr).or fallback)).chars := by
  unfold appendFieldOrStr
  cases hText : value.bind Value.asStr with
  | some text =>
      rw [if_pos (by simp), toList_appendField, hText]
      rfl
  | none =>
      rw [if_neg (by simp), Option.none_or]
      unfold ExportField.chars ExportField.text
      cases fallback.filter fun value => value ≠ "" <;> simp

def frequencyField [FloatText] (payload : Value) : ExportField :=
  let value := ((payload.get "frequency_hz").bind Value.asU64).map FloatText.formatMegahertz
  { name := "FREQ", length := (value.getD "").utf8ByteSize, value := value }

theorem toList_appendFrequency [FloatText] (output : String) (payload : Value) :
    (appendFrequency output (payload.get "frequency_hz")).toList =
      output.toList ++ (frequencyField payload).chars := by
  unfold appendFrequency frequencyField ExportField.chars
  cases (payload.get "frequency_hz").bind Value.asU64 <;> simp

/-! The header. -/

/-- The version field of the header stays in the current record. -/
theorem parseFrom_header (rest : List Char) :
    parseFrom 0 (adifHeader.toList ++ rest) ∅ [] =
      parseFrom (byteLength adifHeader.toList) rest ((∅ : AdifRecord).insert "ADIF_VER" "3.1.4")
        [] := by
  have hText : adifHeader.toList =
      "Generated by KE8YGW Logger 0.5.1\n".toList ++ '<' :: ("ADIF_VER:5".toList ++ '>' ::
        ("3.1.4".toList ++ ("\n".toList ++ '<' :: ("EOH".toList ++ '>' :: "\n".toList)))) := by
    decide +kernel
  have hFirst : '<' ∉ "Generated by KE8YGW Logger 0.5.1\n".toList := by decide
  have hNewline : '<' ∉ "\n".toList := by decide
  have hVersion : AdifTag.read "ADIF_VER:5".toList =
      .field "ADIF_VER" (byteLength "3.1.4".toList) := by decide
  have hVersionTag : '>' ∉ "ADIF_VER:5".toList := by decide
  have hBound : 0 + byteLength "Generated by KE8YGW Logger 0.5.1\n".toList +
      byteLength "ADIF_VER:5".toList + 2 + byteLength "3.1.4".toList < 2 ^ 64 := by decide
  have hEnd : AdifTag.read "EOH".toList = .endOfHeader := by decide
  have hEndTag : '>' ∉ "EOH".toList := by decide
  have hLength : byteLength adifHeader.toList =
      0 + byteLength "Generated by KE8YGW Logger 0.5.1\n".toList +
        byteLength "ADIF_VER:5".toList + 2 + byteLength "3.1.4".toList +
        byteLength "\n".toList + byteLength "EOH".toList + 2 + byteLength "\n".toList := by
    decide +kernel
  rw [hLength, hText]
  simp only [List.append_assoc, List.cons_append]
  rw [parseFrom_skip hFirst, parseFrom_field hVersionTag hVersion hBound,
    parseFrom_skip hNewline, parseFrom_tag hEndTag, hEnd]
  dsimp only
  rw [parseFrom_skip hNewline, String.ofList_toList]

/-- The value that a contact has under a name. -/
def writtenValue (fields : List ExportField) (name : String) : Option String :=
  (fields.find? fun field => field.name = name).bind ExportField.value

section Contacts
variable [ChronoCrate] [ChronoFormat]

/-- The end of a contact is written as a clock time alone. -/
def dateTimeFields (payload : Value) : List ExportField :=
  let startedAt := instantField payload "started_at"
  let endedAt := startedAt.bind fun _ => instantField payload "ended_at"
  [{ name := "QSO_DATE", length := 8, value := startedAt.map ChronoFormat.formatDate },
    { name := "TIME_ON", length := 6, value := startedAt.map ChronoFormat.formatTime },
    { name := "TIME_OFF", length := 6, value := endedAt.map ChronoFormat.formatTime }]

theorem toList_appendDateTime (output : String) (payload : Value) :
    (appendDateTime output payload).toList =
      output.toList ++ (dateTimeFields payload).flatMap ExportField.chars := by
  unfold appendDateTime dateTimeFields ExportField.chars
  cases instantField payload "started_at" with
  | none => simp
  | some startedAt => cases instantField payload "ended_at" <;> simp

variable [FloatText]

/-- The fields of one contact, in the order in which they are written. -/
def exportFields (activation : Option ActivationRecord) (payload : Value) : List ExportField :=
  [.text "CALL" (textField payload "contacted_callsign"),
    .text "STATION_CALLSIGN" (textField payload "station_callsign"),
    .text "OPERATOR" (textField payload "operator_callsign")] ++
  dateTimeFields payload ++
  [.text "BAND" (textField payload "band"),
    frequencyField payload,
    .text "MODE" (textField payload "mode"),
    .text "SUBMODE" (textField payload "submode"),
    .text "RST_SENT" (textField payload "rst_sent"),
    .text "RST_RCVD" (textField payload "rst_received"),
    .text "GRIDSQUARE" (textField payload "grid"),
    .text "NAME" (textField payload "name"),
    .text "QTH" (textField payload "qth"),
    .text "COMMENT" (textField payload "notes"),
    .text "MY_SIG" ((textField payload "my_sig").or (activation.bind fun activation =>
      (textField activation.payload "activation_type").map toAsciiUppercase)),
    .text "MY_SIG_INFO"
      ((textField payload "my_sig_info").or (activation.bind activationReference)),
    .text "SIG" (textField payload "contacted_sig"),
    .text "SIG_INFO" (textField payload "contacted_sig_info")]

/-- No contact has the field of the header. -/
theorem writtenValue_version (activation : Option ActivationRecord) (payload : Value) :
    writtenValue (exportFields activation payload) "ADIF_VER" = none := by
  simp [writtenValue, exportFields, dateTimeFields, frequencyField, ExportField.text]

variable [UuidCrate]

def contactFields (activations : Option ActivationProjection) (contact : QsoRecord) :
    List ExportField :=
  exportFields (activations.bind fun activations => activationOf activations contact)
    contact.payload

/-- The text of one contact. -/
def contactChars (activations : Option ActivationProjection) (contact : QsoRecord) : List Char :=
  (contactFields activations contact).flatMap ExportField.chars ++ "<EOR>\n".toList

theorem toList_appendRecord (activations : Option ActivationProjection) (output : String)
    (contact : QsoRecord) :
    (appendRecord activations output contact).toList =
      output.toList ++ contactChars activations contact := by
  unfold appendRecord contactChars contactFields exportFields
  simp only [String.toList_append, toList_appendField, toList_appendFieldOrStr,
    toList_appendFrequency, toList_appendDateTime, List.flatMap_append, List.flatMap_cons,
    List.flatMap_nil, List.append_assoc, List.nil_append]
  rfl

/-- The text of some contacts, behind the header. -/
def exportContacts (activations : Option ActivationProjection) (contacts : List QsoRecord) :
    String :=
  contacts.foldl (appendRecord activations) adifHeader

theorem toList_exportContacts (activations : Option ActivationProjection)
    (contacts : List QsoRecord) :
    (exportContacts activations contacts).toList =
      adifHeader.toList ++ contacts.flatMap (contactChars activations) := by
  have h : ∀ output : String, (contacts.foldl (appendRecord activations) output).toList =
      output.toList ++ contacts.flatMap (contactChars activations) := by
    induction contacts with
    | nil => simp
    | cons contact contacts ih =>
        intro output
        rw [List.foldl_cons, ih, toList_appendRecord, List.flatMap_cons, List.append_assoc]
  exact h adifHeader

/-- The export reads back as one record for each contact that is not deleted,
in some order, with the written fields and no others. -/
def RoundTrips (projection : QsoCurrentStateProjection) : Prop :=
  ∃ records, parseAdif (exportAdif projection false) = some records ∧
    (records.map fun record name => record.lookup name).Perm
      ((projection.list false).map fun contact =>
        writtenValue (exportFields none contact.payload))

theorem export_never_round_trips (projection : QsoCurrentStateProjection) :
    ¬ RoundTrips projection := by
  rintro ⟨records, hParse, hRecords⟩
  have hText : (exportAdif projection false).toList =
      adifHeader.toList ++ (projection.list false).flatMap (contactChars none) :=
    toList_exportContacts none (projection.list false)
  rw [parseAdif, hText, parseFrom_header] at hParse
  obtain ⟨elements, _, hGrouped⟩ := parseFrom_eq_some hParse
  have hField : (((∅ : AdifRecord).insert "ADIF_VER" "3.1.4").lookup "ADIF_VER").isSome := by
    rw [AList.lookup_insert]
    rfl
  obtain ⟨record, hMem, hVersion⟩ := mem_groupRecords hField elements
  rw [List.nil_append] at hGrouped
  rw [← hGrouped] at hMem
  have hWritten := hRecords.mem_iff.mp (List.mem_map_of_mem hMem)
  obtain ⟨contact, _, hContact⟩ := List.mem_map.mp hWritten
  have hSame := congrFun hContact "ADIF_VER"
  rw [writtenValue_version] at hSame
  rw [← hSame] at hVersion
  cases hVersion

end Contacts

section
open Crates

/-- Without contacts, the export still reads back as a record. -/
theorem empty_export_has_record : ¬ RoundTrips {} := by
  rintro ⟨records, hParse, hRecords⟩
  have hOne : (parseAdif (exportAdif {} false)).map List.length = some 1 := by decide +kernel
  rw [hParse] at hOne
  have hLength := hRecords.length_eq
  rw [List.length_map, Option.some.inj hOne] at hLength
  cases hLength

end
end HamLogger
