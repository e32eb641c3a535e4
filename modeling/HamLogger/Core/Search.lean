import HamLogger.Core.AdifCrates
import Mathlib

/-! Searching contacts: the query text with its field terms, and the days that
its date term names. -/
namespace HamLogger

open ByteText

inductive SearchError where
  | invalidDateRange (text : String)
  deriving DecidableEq

namespace NaiveDateTime

/-- Dates are compared before times of day, and seconds before nanoseconds. -/
def Before (first second : NaiveDateTime) : Prop :=
  first.date.days < second.date.days ∨ first.date.days = second.date.days ∧
    (first.time.second < second.time.second ∨
      first.time.second = second.time.second ∧ first.time.nanos < second.time.nanos)

instance : LT NaiveDateTime := ⟨Before⟩

instance (first second : NaiveDateTime) : Decidable (first < second) := by
  change Decidable (Before first second)
  unfold Before
  infer_instance

end NaiveDateTime

/-- The crates that a search reads text with: `NaiveDate::parse_from_str` with
`%Y-%m-%d`, `DateTime::parse_from_rfc3339` converted to UTC with its leap
seconds, and the JSON text of a value. -/
class SearchCrates where
  parseDashedDate : String → Option NaiveDate
  parseStarted : String → Option NaiveDateTime
  displayValue : Value → String

structure DateRange where
  start : Option NaiveDateTime
  ending : Option NaiveDateTime
  deriving DecidableEq

structure SearchFilter where
  field : String
  value : String
  deriving DecidableEq

structure SearchQuery where
  raw : String
  filters : List SearchFilter := []
  textTerms : List String := []
  dateRange : Option DateRange := none
  includeDeleted : Bool := false
  deriving DecidableEq

structure SearchResult where
  qsoId : Uuid
  score : UInt16
  matchedFields : List String
  payload : Value
  deleted : Bool
  deriving DecidableEq

/-- `str::split_whitespace`. -/
def splitWhitespace (text : String) : List String :=
  ((text.toList.splitOnP isWhitespace).filter fun word => !word.isEmpty).map String.ofList

/-- `split_once` at two dots. -/
def splitDots : List Char → Option (List Char × List Char)
  | [] => none
  | c :: rest =>
      if c = '.' ∧ rest.head? = some '.' then some ([], rest.tail)
      else (splitDots rest).map fun (front, back) => (c :: front, back)

/-- The values that ask for deleted contacts. -/
def asksForDeleted (value : String) : Bool :=
  decide (toAsciiLowercase value ∈ ["true", "yes", "1", "include"])

instance neZero_secondsOfDay : NeZero 86400 := ⟨by decide⟩

instance neZero_nanosOfSecond : NeZero 2000000000 := ⟨by decide⟩

section Parsing
variable [SearchCrates]

/-- The first second of a day or its last one. -/
def parseDateEndpoint (input : String) (endOfDay : Bool) :
    Except SearchError (Option NaiveDateTime) :=
  let input := trim input
  if input = "" then .ok none
  else
    match SearchCrates.parseDashedDate input with
    | none => .error (.invalidDateRange input)
    | some date =>
        .ok (some { date := date, time := if endOfDay then ⟨86399, 0⟩ else ⟨0, 0⟩ })

def parseDateRange (input : String) : Except SearchError DateRange :=
  match splitDots input.toList with
  | some (first, last) => do
      let start ← parseDateEndpoint (String.ofList first) false
      let ending ← parseDateEndpoint (String.ofList last) true
      pure { start := start, ending := ending }
  | none => do
      let start ← parseDateEndpoint input false
      let ending ← parseDateEndpoint input true
      pure { start := start, ending := ending }

/-- The field of a token, which ends at the first colon, and what follows it. -/
def fieldTerm (token : String) : Option (String × String) :=
  (splitOnce ':' token.toList).map fun (field, value) =>
    (toAsciiLowercase (trim (String.ofList field)), trim (String.ofList value))

def readToken (query : SearchQuery) (token : String) : Except SearchError SearchQuery :=
  match fieldTerm token with
  | some (field, value) =>
      if field = "date" then
        (parseDateRange value).map fun range => { query with dateRange := some range }
      else if field = "deleted" then
        .ok { query with
          includeDeleted := asksForDeleted value
          filters := query.filters ++ [{ field := field, value := value }] }
      else .ok { query with filters := query.filters ++ [{ field := field, value := value }] }
  | none =>
      if trim token = "" then .ok query
      else .ok { query with textTerms := query.textTerms ++ [toAsciiLowercase (trim token)] }

def parseSearchQuery (input : String) : Except SearchError SearchQuery :=
  (splitWhitespace input).foldlM readToken { raw := input }

end Parsing

section Matching
variable [SearchCrates]

/-- The start of a contact in UTC. -/
def startedAt (payload : Value) : Option NaiveDateTime :=
  (textField payload "started_at").bind SearchCrates.parseStarted

def matchesDate (qso : QsoRecord) (range : Option DateRange) : Bool :=
  match range with
  | none => true
  | some range =>
      match startedAt qso.payload with
      | none => false
      | some started =>
          if range.start.any fun start => decide (started < start) then false
          else if range.ending.any fun ending => decide (ending < started) then false
          else true

/-- The field of a payload that a search term names. -/
def payloadField (field : String) : String :=
  if field = "callsign" then "contacted_callsign"
  else if field = "park" then "park_id"
  else if field = "summit" then "summit_id"
  else if field = "operator" then "operator_callsign"
  else if field = "station" then "station_callsign"
  else if field = "profile" then "station_profile_id"
  else if field = "tag" then "tags"
  else field

def fieldValue (qso : QsoRecord) (field : String) : Option String :=
  (qso.payload.get (payloadField field)).map fun value =>
    match value with
    | .string text => text
    | .array elements => " ".intercalate (elements.filterMap Value.asStr)
    | other => SearchCrates.displayValue other

/-- The fields that matched are collected, up to the first filter that fails. -/
def matchesFilters (qso : QsoRecord) : List SearchFilter → List String → Option (List String)
  | [], matched => some matched
  | filter :: rest, matched =>
      if filter.field = "date" then matchesFilters qso rest matched
      else if filter.field = "deleted" then
        if qso.deleted = asksForDeleted filter.value then
          matchesFilters qso rest (matched ++ ["deleted"])
        else none
      else
        match fieldValue qso filter.field with
        | none => none
        | some actual =>
            if containsText (toAsciiLowercase actual) (toAsciiLowercase filter.value) then
              matchesFilters qso rest (matched ++ [filter.field])
            else none

def matchesText (qso : QsoRecord) (terms matched : List String) : Option (List String) :=
  if terms = [] then some matched
  else
    let haystack := toAsciiLowercase (" ".intercalate
      (["contacted_callsign", "notes", "name", "qth", "tags"].filterMap (fieldValue qso)))
    if terms.all fun term => containsText haystack term then some (matched ++ ["text"]) else none

/-- One contact of a search. -/
def searchQso (query : SearchQuery) (qso : QsoRecord) : Option SearchResult :=
  if qso.deleted && !query.includeDeleted then none
  else if !matchesDate qso query.dateRange then none
  else do
    let matched ← matchesFilters qso query.filters []
    let matched ← matchesText qso query.textTerms matched
    some {
      qsoId := qso.qsoId
      score := UInt16.ofNat matched.length
      matchedFields := matched
      payload := qso.payload
      deleted := qso.deleted }

def searchQsos (qsos : List QsoRecord) (query : SearchQuery) : List SearchResult :=
  qsos.filterMap (searchQso query)

end Matching

end HamLogger
