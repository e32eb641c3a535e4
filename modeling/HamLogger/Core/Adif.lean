import HamLogger.Core.Projection
import HamLogger.Library.ByteText

/-! The ADIF exchange format: reading records from text, writing the contacts
of a projection as text, and turning a record into the payload of a contact.
Positions in text are counted in bytes, and cutting text inside a character
panics. -/
namespace HamLogger

open ByteText

/-- A calendar date of the chrono crate, in days since the epoch. -/
structure NaiveDate where
  days : Int
  lower : -96465293 ≤ days
  upper : days ≤ 95026236
  deriving DecidableEq

/-- A time of day of the chrono crate. The nanoseconds pass one second within
a leap second. -/
structure NaiveTime where
  second : Fin 86400
  nanos : Fin 2000000000
  deriving DecidableEq

/-- A date with a time of day, read in UTC. -/
structure NaiveDateTime where
  date : NaiveDate
  time : NaiveTime
  deriving DecidableEq

/-- The format strings `%Y%m%d` and `%H%M%S` of the chrono crate, and its RFC
3339 form. -/
class ChronoFormat where
  formatDate : DateTime → String
  formatTime : DateTime → String
  parseDate : String → Option NaiveDate
  parseTime : String → Option NaiveTime
  toRfc3339 : NaiveDateTime → String

namespace DateTime

def date (instant : DateTime) : NaiveDate where
  days := instant.nanos / 86400000000000
  lower := by
    have hLower := instant.lower
    omega
  upper := by
    have hUpper := instant.upper
    omega

def time (instant : DateTime) : NaiveTime where
  second := ⟨(instant.nanos / 1000000000 % 86400).toNat, by omega⟩
  nanos := ⟨(instant.nanos % 1000000000).toNat, by omega⟩

def naive (instant : DateTime) : NaiveDateTime where
  date := instant.date
  time := instant.time

/-- A whole second in the years from 1000 to 9999. -/
structure Exportable (instant : DateTime) : Prop where
  whole : instant.nanos % 1000000000 = 0
  first : -30610224000 * 1000000000 ≤ instant.nanos
  last : instant.nanos < 253402300800 * 1000000000

end DateTime

/-- What the chrono crate documents: the shape of dates and clock times, and
that whole seconds of years with four digits are read back. -/
class LawfulChronoFormat [ChronoCrate] [ChronoFormat] : Prop where
  eight_le_date (instant : DateTime) : 8 ≤ (ChronoFormat.formatDate instant).toList.length
  date_chars (instant : DateTime) :
    ∀ c ∈ (ChronoFormat.formatDate instant).toList, c.isDigit ∨ c = '+' ∨ c = '-'
  time_length (instant : DateTime) : (ChronoFormat.formatTime instant).toList.length = 6
  time_chars (instant : DateTime) :
    ∀ c ∈ (ChronoFormat.formatTime instant).toList, c.isDigit
  date_length {instant : DateTime} (h : instant.Exportable) :
    (ChronoFormat.formatDate instant).toList.length = 8
  parseDate {instant : DateTime} (h : instant.Exportable) :
    ChronoFormat.parseDate (ChronoFormat.formatDate instant) = some instant.date
  parseTime {instant : DateTime} (h : instant.Exportable) :
    ChronoFormat.parseTime (ChronoFormat.formatTime instant) = some instant.time
  parseFromRfc3339 {instant : DateTime} (h : instant.Exportable) :
    ChronoCrate.parseFromRfc3339 (ChronoFormat.toRfc3339 instant.naive) = some instant

/-- Floating point numbers as text: hertz written as megahertz with six
decimals, and the hertz that a number of megahertz rounds to. -/
class FloatText where
  formatMegahertz : UInt64 → String
  parseMegahertz : String → Option UInt64

/-- The fields of one record by name. -/
abbrev AdifRecord := KeyMap String String

/-! Reading. -/

def stripPlus : List Char → List Char
  | '+' :: rest => rest
  | text => text

/-- `str::parse` for a `usize`. -/
def parseUsize (text : List Char) : Option Nat :=
  let digits := stripPlus text
  if digits ≠ [] ∧ digits.all Char.isDigit ∧ Nat.ofDigitChars 10 digits 0 < 2 ^ 64 then
    some (Nat.ofDigitChars 10 digits 0)
  else none

/-- What stands between the angle brackets. -/
inductive AdifTag where
  | endOfHeader
  | endOfRecord
  | noLength
  | field (name : String) (length : Nat)
  deriving DecidableEq

/-- A length that cannot be read counts as zero. -/
def AdifTag.read (tag : List Char) : AdifTag :=
  if toAsciiLowercase (String.ofList tag) = "eoh" then .endOfHeader
  else if toAsciiLowercase (String.ofList tag) = "eor" then .endOfRecord
  else
    match splitOnce ':' tag with
    | none => .noLength
    | some (name, lengthPart) =>
        .field (toAsciiUppercase (String.ofList name))
          ((parseUsize (lengthPart.takeWhile (· ≠ ':'))).getD 0)

/-- Close the current record, unless it is empty. -/
def pushRecord (records : List AdifRecord) (current : AdifRecord) : List AdifRecord :=
  if current.entries.isEmpty then records else records ++ [current]

/-- The loop over the text from one index on. The sum of index and length
overflows from two to the sixty-fourth on. -/
def parseFrom (index : Nat) (text : List Char) (current : AdifRecord)
    (records : List AdifRecord) : Option (List AdifRecord) :=
  match text with
  | [] => some (pushRecord records current)
  | c :: inside =>
      if c ≠ '<' then parseFrom (index + c.utf8Size) inside current records
      else
        match _hTag : splitOnce '>' inside with
        | none => some (pushRecord records current)
        | some (tag, rest) =>
            match AdifTag.read tag with
            | .endOfHeader => parseFrom (index + byteLength tag + 2) rest current records
            | .endOfRecord =>
                parseFrom (index + byteLength tag + 2) rest ∅ (pushRecord records current)
            | .noLength => parseFrom (index + byteLength tag + 2) rest current records
            | .field name length =>
                if 2 ^ 64 ≤ index + byteLength tag + 2 + length then none
                else if byteLength rest < length then some (pushRecord records current)
                else
                  match _hValue : splitBytes length rest with
                  | none => none
                  | some (value, after) =>
                      parseFrom (index + byteLength tag + 2 + length) after
                        (current.insert name (String.ofList value)) records
termination_by text.length
decreasing_by
  all_goals simp only [List.length_cons]
  · omega
  · have hRest := length_of_splitOnce _hTag
    omega
  · have hRest := length_of_splitOnce _hTag
    omega
  · have hRest := length_of_splitOnce _hTag
    omega
  · have hRest := length_of_splitOnce _hTag
    have hAfter := length_of_splitBytes _hValue
    omega

/-- The loop of the source goes byte by byte. The bytes of one character are
taken together here, since none after the first is a bracket. Nothing is
returned when the loop panics. -/
def parseAdif (input : String) : Option (List AdifRecord) :=
  parseFrom 0 input.toList ∅ []

/-! Writing. -/

/-- The value of a field that is a string. -/
def textField (payload : Value) (key : String) : Option String :=
  (payload.get key).bind Value.asStr

/-- The instant of a field that is a timestamp. -/
def instantField [ChronoCrate] (payload : Value) (key : String) : Option DateTime :=
  (textField payload key).bind ChronoCrate.parseFromRfc3339

/-- One field as text, with the length that is announced. -/
def adifField (name : String) (length : Nat) (value : String) : String :=
  "<" ++ name ++ ":" ++ toString length ++ ">" ++ value

def appendField (output name : String) (value : Option Value) : String :=
  match value.bind Value.asStr with
  | none => output
  | some value =>
      if value = "" then output else output ++ adifField name value.utf8ByteSize value

def appendFieldOrStr (output name : String) (value : Option Value) (fallback : Option String) :
    String :=
  if (value.bind Value.asStr).isSome then appendField output name value
  else
    match fallback.filter fun value => value ≠ "" with
    | none => output
    | some value => output ++ adifField name value.utf8ByteSize value

def appendFrequency [FloatText] (output : String) (value : Option Value) : String :=
  match value.bind Value.asU64 with
  | none => output
  | some hz =>
      let value := FloatText.formatMegahertz hz
      output ++ adifField "FREQ" value.utf8ByteSize value

section Writing
variable [ChronoCrate] [ChronoFormat]

def appendDateTime (output : String) (payload : Value) : String :=
  match instantField payload "started_at" with
  | none => output
  | some startedAt =>
      let output := output ++ (adifField "QSO_DATE" 8 (ChronoFormat.formatDate startedAt) ++
        adifField "TIME_ON" 6 (ChronoFormat.formatTime startedAt))
      match instantField payload "ended_at" with
      | none => output
      | some endedAt => output ++ adifField "TIME_OFF" 6 (ChronoFormat.formatTime endedAt)

def activationReference (activation : ActivationRecord) : Option String :=
  ((activation.payload.get "park_id").or (activation.payload.get "summit_id")).bind Value.asStr

variable [FloatText] [UuidCrate]

/-- The activation that a contact names, or else the first that links it. -/
def activationOf (activations : ActivationProjection) (record : QsoRecord) :
    Option ActivationRecord :=
  ((uuidField record.payload "activation_id").bind activations.get).or
    ((activations.list true).find? fun activation => record.qsoId ∈ activation.linkedQsos)

def appendRecord (activations : Option ActivationProjection) (output : String)
    (record : QsoRecord) : String :=
  let output := appendField output "CALL" (record.payload.get "contacted_callsign")
  let output := appendField output "STATION_CALLSIGN" (record.payload.get "station_callsign")
  let output := appendField output "OPERATOR" (record.payload.get "operator_callsign")
  let output := appendDateTime output record.payload
  let output := appendField output "BAND" (record.payload.get "band")
  let output := appendFrequency output (record.payload.get "frequency_hz")
  let output := appendField output "MODE" (record.payload.get "mode")
  let output := appendField output "SUBMODE" (record.payload.get "submode")
  let output := appendField output "RST_SENT" (record.payload.get "rst_sent")
  let output := appendField output "RST_RCVD" (record.payload.get "rst_received")
  let output := appendField output "GRIDSQUARE" (record.payload.get "grid")
  let output := appendField output "NAME" (record.payload.get "name")
  let output := appendField output "QTH" (record.payload.get "qth")
  let output := appendField output "COMMENT" (record.payload.get "notes")
  let activation := activations.bind fun activations => activationOf activations record
  let output := appendFieldOrStr output "MY_SIG" (record.payload.get "my_sig")
    (activation.bind fun activation =>
      (textField activation.payload "activation_type").map toAsciiUppercase)
  let output := appendFieldOrStr output "MY_SIG_INFO" (record.payload.get "my_sig_info")
    (activation.bind activationReference)
  let output := appendField output "SIG" (record.payload.get "contacted_sig")
  let output := appendField output "SIG_INFO" (record.payload.get "contacted_sig_info")
  output ++ "<EOR>\n"

/-- The version is the one of the package. -/
def adifHeader : String :=
  "Generated by KE8YGW Logger 0.5.1\n<ADIF_VER:5>3.1.4\n<EOH>\n"

def exportAdifWithActivations (projection : QsoCurrentStateProjection)
    (activations : Option ActivationProjection) (includeDeleted : Bool) : String :=
  (projection.list includeDeleted).foldl (appendRecord activations) adifHeader

def exportAdif (projection : QsoCurrentStateProjection) (includeDeleted : Bool) : String :=
  exportAdifWithActivations projection none includeDeleted

end Writing

/-! Turning a record into the payload of a contact. -/

inductive DuplicatePolicy where
  | skip
  | importAnyway
  deriving DecidableEq

structure AdifImportOptions where
  duplicateWindowMinutes : Int64
  duplicatePolicy : DuplicatePolicy
  stationCallsign : String
  operatorCallsign : Option String
  sourcePluginId : String
  authorDeviceId : Uuid

def AdifImportOptions.mvpDefault (stationCallsign sourcePluginId : String)
    (authorDeviceId : Uuid) : AdifImportOptions where
  duplicateWindowMinutes := 10
  duplicatePolicy := .skip
  stationCallsign := stationCallsign
  operatorCallsign := none
  sourcePluginId := sourcePluginId
  authorDeviceId := authorDeviceId

/-- The value of a field, unless it is blank. -/
def nonBlank (value : Option String) : Option String :=
  value.filter fun value => trim value ≠ ""

def required (record : AdifRecord) (field : String) : Except String String :=
  match nonBlank (record.lookup field) with
  | some value => .ok value
  | none => .error ("ADIF record missing required field " ++ field)

/-- Zeros on the right, up to six characters. -/
def padTime (time : String) : List Char :=
  time.toList ++ List.replicate (6 - time.toList.length) '0'

section Reading
variable [ChronoFormat]

/-- A clock time as its first six bytes after padding. Cutting them off
panics inside a character. -/
def adifTime (time : String) : Outcome String NaiveTime :=
  match splitBytes 6 (padTime time) with
  | none => .error .panic
  | some (front, _) =>
      match ChronoFormat.parseTime (String.ofList front) with
      | none => .error (.error ("invalid ADIF time " ++ String.ofList (padTime time)))
      | some time => .ok time

def adifDatetime (record : AdifRecord) (dateField timeField : String) :
    Outcome String NaiveDateTime := do
  let date ← Outcome.ofExcept (required record dateField)
  let time := (record.lookup timeField).getD "000000"
  match ChronoFormat.parseDate date with
  | none => .error (.error ("invalid ADIF date " ++ date))
  | some date => (adifTime time).map fun time => { date := date, time := time }

/-- The end of a contact, if the record has one that can be read. -/
def adifEnd (record : AdifRecord) : Outcome String (Option NaiveDateTime) :=
  match record.lookup "TIME_OFF" with
  | none => .ok none
  | some _ =>
      match adifDatetime record "QSO_DATE" "TIME_OFF" with
      | .ok endedAt => .ok (some endedAt)
      | .error (.error _) => .ok none
      | .error .panic => .error .panic

def copy (record : AdifRecord) (payload : Fields) (names : String × String) : Fields :=
  match nonBlank (record.lookup names.1) with
  | some value => Fields.insert payload names.2 (.string value)
  | none => payload

/-- The fields that are copied, with their names in a payload. -/
def copiedFields : List (String × String) :=
  [("BAND", "band"), ("SUBMODE", "submode"), ("RST_SENT", "rst_sent"),
    ("RST_RCVD", "rst_received"), ("GRIDSQUARE", "grid"), ("NAME", "name"), ("QTH", "qth"),
    ("COMMENT", "notes"), ("NOTES", "notes"), ("MY_SIG", "my_sig"),
    ("MY_SIG_INFO", "my_sig_info"), ("SIG", "contacted_sig"), ("SIG_INFO", "contacted_sig_info")]

/-- The JSON form of a record. -/
def rawAdif (record : AdifRecord) : Value :=
  .object (Value.mergeFields [] (record.entries.map fun entry => (entry.1, .string entry.2)))

/-- The fields every imported contact has. -/
def importedFields (record : AdifRecord) (options : AdifImportOptions)
    (contactedCallsign mode startedAt : String) : Fields :=
  Value.mergeFields []
    [("station_callsign",
        .string ((record.lookup "STATION_CALLSIGN").getD options.stationCallsign)),
      ("operator_callsign",
        .string (((record.lookup "OPERATOR").or options.operatorCallsign).getD
          options.stationCallsign)),
      ("contacted_callsign", .string contactedCallsign),
      ("started_at", .string startedAt),
      ("mode", .string mode),
      ("source", .string "imported/adif"),
      ("import_metadata", .object [("raw_adif", rawAdif record)])]

variable [FloatText]

/-- The fields of the contact that a record describes. -/
def qsoFields (record : AdifRecord) (options : AdifImportOptions)
    (contactedCallsign mode : String) (startedAt : NaiveDateTime)
    (endedAt : Option NaiveDateTime) : Fields :=
  let payload := importedFields record options (toAsciiUppercase contactedCallsign)
    (toAsciiUppercase mode) (ChronoFormat.toRfc3339 startedAt)
  let payload := copiedFields.foldl (copy record) payload
  let payload :=
    match endedAt with
    | some endedAt => Fields.insert payload "ended_at" (.string (ChronoFormat.toRfc3339 endedAt))
    | none => payload
  match (record.lookup "FREQ").bind FloatText.parseMegahertz with
  | some hz => Fields.insert payload "frequency_hz" (.number (.posInt hz))
  | none => payload

def adifRecordToQsoPayload (record : AdifRecord) (options : AdifImportOptions) :
    Outcome String Value := do
  let contactedCallsign ← Outcome.ofExcept (required record "CALL")
  let mode ← Outcome.ofExcept (required record "MODE")
  let startedAt ← adifDatetime record "QSO_DATE" "TIME_ON"
  let endedAt ← adifEnd record
  return .object (qsoFields record options contactedCallsign mode startedAt endedAt)

/-- What an import makes of its records before it looks at the logbook: a
payload or the error of each. Nothing is returned when one of them panics. -/
def importedPayloads (options : AdifImportOptions) :
    List AdifRecord → Option (List (Except String Value))
  | [] => some []
  | record :: records =>
      match adifRecordToQsoPayload record options with
      | .error .panic => none
      | .error (.error error) =>
          (importedPayloads options records).map fun payloads => .error error :: payloads
      | .ok payload =>
          (importedPayloads options records).map fun payloads => .ok payload :: payloads

end Reading
end HamLogger
