import HamLogger.Core.Event

/-! Reference functions for the crates the core links against: the text forms
of identifiers and instants, JSON text in the compact form, and SHA-256. They
let the model run on concrete values; no general result depends on them.
Floating point numbers have no text here and are written as null. -/
namespace HamLogger.Crates

/-! Text of identifiers. -/

def uuidDigit (id : Uuid) (index : Nat) : Char :=
  hexDigit (id.toNat / 16 ^ (31 - index) % 16)

/-- The hyphenated form. -/
def displayUuid (id : Uuid) : String :=
  let digits := (List.range 32).map (uuidDigit id)
  String.ofList (digits.take 8 ++ '-' :: (digits.drop 8).take 4 ++ '-' :: (digits.drop 12).take 4 ++
    '-' :: (digits.drop 16).take 4 ++ '-' :: digits.drop 20)

def hexValue (c : Char) : Option Nat :=
  if c.isDigit then some (c.toNat - 48)
  else if 97 ≤ c.toNat ∧ c.toNat ≤ 102 then some (c.toNat - 87)
  else if 65 ≤ c.toNat ∧ c.toNat ≤ 70 then some (c.toNat - 55)
  else none

def parseHex (digits : List Char) : Option Nat :=
  digits.foldl (fun total digit => total.bind fun value =>
    (hexValue digit).map fun next => value * 16 + next) (some 0)

def parseSimple (digits : List Char) : Option Uuid :=
  if digits.length = 32 then (parseHex digits).map fun value => BitVec.ofNat 128 value else none

def parseHyphenated (text : List Char) : Option Uuid :=
  if text.length = 36 ∧ text[8]? = some '-' ∧ text[13]? = some '-' ∧ text[18]? = some '-' ∧
      text[23]? = some '-' then
    parseSimple (text.take 8 ++ (text.drop 9).take 4 ++ (text.drop 14).take 4 ++
      (text.drop 19).take 4 ++ text.drop 24)
  else none

/-- Simple, hyphenated, braced and URN forms. -/
def parseUuid (text : String) : Option Uuid :=
  match text.toList with
  | '{' :: rest => if rest.getLast? = some '}' then parseHyphenated rest.dropLast else none
  | 'u' :: 'r' :: 'n' :: ':' :: 'u' :: 'u' :: 'i' :: 'd' :: ':' :: rest => parseHyphenated rest
  | all => if all.length = 32 then parseSimple all else parseHyphenated all

scoped instance uuidCrate : UuidCrate where
  parseStr := parseUuid
  display := displayUuid

theorem eq_of_hexDigits {n a b : Nat} (ha : a < 16 ^ n) (hb : b < 16 ^ n)
    (h : ∀ index < n, a / 16 ^ index % 16 = b / 16 ^ index % 16) : a = b := by
  induction n generalizing a b with
  | zero => omega
  | succ n ih =>
      have hHigh : a / 16 = b / 16 := by
        refine ih (by omega) (by omega) fun index hIndex => ?_
        have hDigit := h (index + 1) (by omega)
        rw [Nat.pow_succ', ← Nat.div_div_eq_div_mul, ← Nat.div_div_eq_div_mul] at hDigit
        exact hDigit
      have hLow := h 0 (by omega)
      omega

/-- The hyphenated form is as the crate documents it. -/
theorem displaysIdentifiers : DisplaysIdentifiers where
  length id := by
    have hDigits : ((List.range 32).map (uuidDigit id)).length = 32 := by simp
    show (displayUuid id).length = 36
    rw [displayUuid, String.length_ofList]
    simp only [List.length_append, List.length_cons, List.length_take, List.length_drop, hDigits]
    rfl
  injective := by
    intro a b h
    have hDigits : (List.range 32).map (uuidDigit a) = (List.range 32).map (uuidDigit b) := by
      have hTexts := String.ofList_injective h
      simpa [List.range, List.range.loop] using hTexts
    have hHex : ∀ x < 16, ∀ y < 16, hexDigit x = hexDigit y → x = y := by decide
    refine BitVec.eq_of_toNat_eq (eq_of_hexDigits (n := 32) a.isLt b.isLt fun index hIndex => ?_)
    have hSame := List.map_inj_left.mp hDigits (31 - index) (List.mem_range.mpr (by omega))
    have hBack : 31 - (31 - index) = index := by omega
    rw [uuidDigit, uuidDigit, hBack] at hSame
    exact hHex _ (Nat.mod_lt _ (by decide)) _ (Nat.mod_lt _ (by decide)) hSame

/-! Text of instants. -/

/-- Decimal digits, padded with zeros on the left. -/
def padded (width value : Nat) : List Char :=
  let digits := Nat.toDigits 10 value
  List.replicate (width - digits.length) '0' ++ digits

/-- Year, month and day of a day count since the epoch. -/
def civilFromDays (days : Int) : Int × Nat × Nat :=
  let shifted := days + 719468
  let era := shifted.fdiv 146097
  let dayOfEra := (shifted - era * 146097).toNat
  let yearOfEra := (dayOfEra - dayOfEra / 1460 + dayOfEra / 36524 - dayOfEra / 146096) / 365
  let dayOfYear := dayOfEra - (365 * yearOfEra + yearOfEra / 4 - yearOfEra / 100)
  let shiftedMonth := (5 * dayOfYear + 2) / 153
  let day := dayOfYear - (153 * shiftedMonth + 2) / 5 + 1
  let month := if shiftedMonth < 10 then shiftedMonth + 3 else shiftedMonth - 9
  (yearOfEra + era * 400 + (if month ≤ 2 then 1 else 0), month, day)

def daysFromCivil (year month day : Nat) : Int :=
  let shiftedYear : Int := year - (if month ≤ 2 then 1 else 0)
  let era := shiftedYear.fdiv 400
  let yearOfEra := shiftedYear - era * 400
  let shiftedMonth : Nat := (month + 9) % 12
  let dayOfYear : Int := (153 * shiftedMonth + 2) / 5 + day - 1
  era * 146097 + (yearOfEra * 365 + yearOfEra / 4 - yearOfEra / 100 + dayOfYear) - 719468

def writeYear (year : Int) : List Char :=
  if 0 ≤ year ∧ year ≤ 9999 then padded 4 year.toNat
  else (if year < 0 then '-' else '+') :: padded 4 year.natAbs

def writeFraction (nanos : Nat) : List Char :=
  if nanos = 0 then []
  else if nanos % 1000000 = 0 then '.' :: padded 3 (nanos / 1000000)
  else if nanos % 1000 = 0 then '.' :: padded 6 (nanos / 1000)
  else '.' :: padded 9 nanos

/-- RFC 3339 with the suffix for UTC. -/
def displayInstant (instant : DateTime) : String :=
  let seconds := instant.nanos.fdiv 1000000000
  let nanos := (instant.nanos - seconds * 1000000000).toNat
  let days := seconds.fdiv 86400
  let secondOfDay := (seconds - days * 86400).toNat
  let (year, month, day) := civilFromDays days
  String.ofList (writeYear year ++ '-' :: padded 2 month ++ '-' :: padded 2 day ++ 'T' ::
    padded 2 (secondOfDay / 3600) ++ ':' :: padded 2 (secondOfDay / 60 % 60) ++ ':' ::
    padded 2 (secondOfDay % 60) ++ writeFraction nanos ++ ['Z'])

/-- An instant from whole seconds since the epoch, where the range allows. -/
def instant? (seconds : Int) : Option DateTime :=
  DateTime.addSeconds ⟨0, by decide, by decide⟩ seconds

def digitsValue (digits : List Char) : Nat :=
  digits.foldl (fun total digit => total * 10 + (digit.toNat - 48)) 0

/-- Instants in UTC with whole seconds, and either suffix for UTC. -/
def parseInstant (text : String) : Option DateTime :=
  match text.toList with
  | y1 :: y2 :: y3 :: y4 :: p1 :: m1 :: m2 :: p2 :: d1 :: d2 :: p3 :: h1 :: h2 :: p4 ::
      n1 :: n2 :: p5 :: s1 :: s2 :: zone =>
      let year := digitsValue [y1, y2, y3, y4]
      let month := digitsValue [m1, m2]
      let day := digitsValue [d1, d2]
      let hour := digitsValue [h1, h2]
      let minute := digitsValue [n1, n2]
      let second := digitsValue [s1, s2]
      let days := daysFromCivil year month day
      if [y1, y2, y3, y4, m1, m2, d1, d2, h1, h2, n1, n2, s1, s2].all Char.isDigit ∧
          [p1, p2, p3, p4, p5] = ['-', '-', 'T', ':', ':'] ∧
          (zone = ['Z'] ∨ zone = ['+', '0', '0', ':', '0', '0']) ∧
          civilFromDays days = ((year : Int), month, day) ∧
          hour < 24 ∧ minute < 60 ∧ second < 60 then
        instant? (days * 86400 + hour * 3600 + minute * 60 + second)
      else none
  | _ => none

scoped instance chronoCrate : ChronoCrate where
  parseFromRfc3339 := parseInstant

/-! JSON text. -/

def escapeChar (c : Char) : List Char :=
  if c = '"' then ['\\', '"']
  else if c = '\\' then ['\\', '\\']
  else if c = '\n' then ['\\', 'n']
  else if c = '\r' then ['\\', 'r']
  else if c = '\t' then ['\\', 't']
  else if c.toNat = 8 then ['\\', 'b']
  else if c.toNat = 12 then ['\\', 'f']
  else if c.toNat < 32 then
    ['\\', 'u', '0', '0', hexDigit (c.toNat / 16), hexDigit (c.toNat % 16)]
  else [c]

def writeString (text : String) : List Char :=
  '"' :: text.toList.flatMap escapeChar ++ ['"']

def writeNumber : Number → List Char
  | .posInt value => Nat.toDigits 10 value.toNat
  | .negInt value =>
      if value.toInt < 0 then '-' :: Nat.toDigits 10 value.toInt.natAbs
      else Nat.toDigits 10 value.toInt.natAbs
  | .float _ => ['n', 'u', 'l', 'l']

/-- Members separated by commas. -/
def commaSeparated : List (List Char) → List Char
  | [] => []
  | [last] => last
  | first :: second :: rest => first ++ ',' :: commaSeparated (second :: rest)

mutual

def writeValue : Value → List Char
  | .null => ['n', 'u', 'l', 'l']
  | .bool true => ['t', 'r', 'u', 'e']
  | .bool false => ['f', 'a', 'l', 's', 'e']
  | .number value => writeNumber value
  | .string text => writeString text
  | .array elements => '[' :: commaSeparated (writeElements elements) ++ [']']
  | .object fields => '{' :: commaSeparated (writeFields fields) ++ ['}']

def writeElements : List Value → List (List Char)
  | [] => []
  | value :: rest => writeValue value :: writeElements rest

def writeFields : List (String × Value) → List (List Char)
  | [] => []
  | (key, value) :: rest => (writeString key ++ ':' :: writeValue value) :: writeFields rest

end

def writeUuid (id : Uuid) : List Char :=
  writeString (displayUuid id)

def writeOption {α : Type} (write : α → List Char) : Option α → List Char
  | none => ['n', 'u', 'l', 'l']
  | some value => write value

def writeMember (name : String) (value : List Char) : List Char :=
  writeString name ++ ':' :: value

/-- The members of an event, with those between the previous hash and the
time of the event given separately. -/
def writeMembers (event : CanonicalEvent) (between : List (List Char)) : List Char :=
  '{' :: commaSeparated
    ([writeMember "event_id" (writeUuid event.eventId),
      writeMember "event_type" (writeString event.eventType.name),
      writeMember "logbook_id" (writeUuid event.logbookId),
      writeMember "entity_id" (writeOption writeUuid event.entityId),
      writeMember "previous_hash" (writeOption writeString event.previousHash)] ++ between ++
     [writeMember "timestamp" (writeString (displayInstant event.timestamp)),
      writeMember "author_operator_id" (writeOption writeUuid event.authorOperatorId),
      writeMember "station_callsign" (writeString event.stationCallsign),
      writeMember "operator_callsign" (writeOption writeString event.operatorCallsign),
      writeMember "author_device_id" (writeUuid event.authorDeviceId),
      writeMember "source_device_id" (writeUuid event.sourceDeviceId),
      writeMember "correlation_id" (writeUuid event.correlationId),
      writeMember "source_plugin_id" (writeOption writeString event.sourcePluginId),
      writeMember "schema_version" (Nat.toDigits 10 event.schemaVersion.toNat),
      writeMember "payload" (writeValue event.payload)]) ++ ['}']

def toBytes (text : List Char) : List UInt8 :=
  text.flatMap String.utf8EncodeChar

scoped instance canonicalJson : CanonicalJson where
  toVec event := toBytes (writeMembers event [])

/-- The JSON text of a whole event. -/
def writeEvent (event : CoreEventEnvelope) : List Char :=
  writeMembers event.canonical [writeMember "event_hash" (writeString event.eventHash)]

/-! SHA-256. -/

def roundConstants : List UInt32 :=
  [0x428a2f98, 0x71374491, 0xb5c0fbcf, 0xe9b5dba5, 0x3956c25b, 0x59f111f1, 0x923f82a4, 0xab1c5ed5,
   0xd807aa98, 0x12835b01, 0x243185be, 0x550c7dc3, 0x72be5d74, 0x80deb1fe, 0x9bdc06a7, 0xc19bf174,
   0xe49b69c1, 0xefbe4786, 0x0fc19dc6, 0x240ca1cc, 0x2de92c6f, 0x4a7484aa, 0x5cb0a9dc, 0x76f988da,
   0x983e5152, 0xa831c66d, 0xb00327c8, 0xbf597fc7, 0xc6e00bf3, 0xd5a79147, 0x06ca6351, 0x14292967,
   0x27b70a85, 0x2e1b2138, 0x4d2c6dfc, 0x53380d13, 0x650a7354, 0x766a0abb, 0x81c2c92e, 0x92722c85,
   0xa2bfe8a1, 0xa81a664b, 0xc24b8b70, 0xc76c51a3, 0xd192e819, 0xd6990624, 0xf40e3585, 0x106aa070,
   0x19a4c116, 0x1e376c08, 0x2748774c, 0x34b0bcb5, 0x391c0cb3, 0x4ed8aa4a, 0x5b9cca4f, 0x682e6ff3,
   0x748f82ee, 0x78a5636f, 0x84c87814, 0x8cc70208, 0x90befffa, 0xa4506ceb, 0xbef9a3f7, 0xc67178f2]

def initialWords : List UInt32 :=
  [0x6a09e667, 0xbb67ae85, 0x3c6ef372, 0xa54ff53a, 0x510e527f, 0x9b05688c, 0x1f83d9ab, 0x5be0cd19]

def rotateRight (word : UInt32) (count : UInt32) : UInt32 :=
  (word >>> count) ||| (word <<< (32 - count))

/-- The message with its padding and its length in bits. -/
def padMessage (message : List UInt8) : List UInt8 :=
  message ++ 0x80 :: List.replicate ((119 - message.length % 64) % 64) 0 ++
    (List.range 8).map fun index => UInt8.ofNat (message.length * 8 / 256 ^ (7 - index) % 256)

def bigEndianWords : List UInt8 → List UInt32
  | a :: b :: c :: d :: rest =>
      (a.toUInt32 <<< 24 ||| b.toUInt32 <<< 16 ||| c.toUInt32 <<< 8 ||| d.toUInt32) ::
        bigEndianWords rest
  | _ => []

/-- The message schedule, newest word first. -/
def extendSchedule : Nat → List UInt32 → List UInt32
  | 0, words => words
  | rounds + 1, words =>
      let w15 := words.getD 14 0
      let w2 := words.getD 1 0
      let s0 := rotateRight w15 7 ^^^ rotateRight w15 18 ^^^ (w15 >>> 3)
      let s1 := rotateRight w2 17 ^^^ rotateRight w2 19 ^^^ (w2 >>> 10)
      extendSchedule rounds ((words.getD 15 0 + s0 + words.getD 6 0 + s1) :: words)

def compressRound (state : List UInt32) (input : UInt32 × UInt32) : List UInt32 :=
  match state with
  | [a, b, c, d, e, f, g, h] =>
      let s1 := rotateRight e 6 ^^^ rotateRight e 11 ^^^ rotateRight e 25
      let choice := (e &&& f) ^^^ ((~~~e) &&& g)
      let t1 := h + s1 + choice + input.1 + input.2
      let s0 := rotateRight a 2 ^^^ rotateRight a 13 ^^^ rotateRight a 22
      let majority := (a &&& b) ^^^ (a &&& c) ^^^ (b &&& c)
      [t1 + (s0 + majority), a, b, c, d + t1, e, f, g]
  | other => other

def compressBlocks : Nat → List UInt32 → List UInt32 → List UInt32
  | 0, state, _ => state
  | blocks + 1, state, words =>
      let schedule := (extendSchedule 48 (words.take 16).reverse).reverse
      let mixed := (roundConstants.zip schedule).foldl compressRound state
      compressBlocks blocks (List.zipWith (· + ·) state mixed) (words.drop 16)

def sha256 (message : List UInt8) : List UInt8 :=
  let words := bigEndianWords (padMessage message)
  (compressBlocks (words.length / 16) initialWords words).flatMap fun word : UInt32 =>
    [(word >>> 24).toUInt8, (word >>> 16).toUInt8, (word >>> 8).toUInt8, word.toUInt8]

scoped instance sha2Crate : Sha2Crate where
  digest := sha256

/-! The debug form of strings. -/

def debugChar (c : Char) : List Char :=
  if c = '"' then ['\\', '"']
  else if c = '\\' then ['\\', '\\']
  else if c = '\n' then ['\\', 'n']
  else if c = '\r' then ['\\', 'r']
  else if c = '\t' then ['\\', 't']
  else if c.toNat = 0 then ['\\', '0']
  else if c.toNat < 32 ∨ c.toNat = 127 then
    ['\\', 'u', '\x7b'] ++ Nat.toDigits 16 c.toNat ++ ['\x7d']
  else [c]

scoped instance rustFmt : RustFmt where
  debugStr text := String.ofList ('"' :: text.toList.flatMap debugChar ++ ['"'])

/-! Concrete events. -/

/-- The start of the Unix epoch. -/
def epoch : DateTime := ⟨0, by decide, by decide⟩

/-- A new event whose other fields do not matter. -/
def sampleEvent (eventType : EventType) (logbookId : Uuid) (entityId : Option Uuid)
    (payload : Value) : NewLogbookEvent where
  eventType := eventType
  logbookId := logbookId
  entityId := entityId
  authorOperatorId := none
  stationCallsign := "KE8YGW"
  operatorCallsign := none
  authorDeviceId := 1
  sourceDeviceId := 1
  correlationId := 1
  sourcePluginId := none
  schemaVersion := 1
  payload := payload

/-- A proposal of the first version whose other fields do not matter. -/
def sampleProposal (proposalType : ProposalType) (logbookId : Uuid) (entityId : Option Uuid)
    (payload : Value) : ProposalEnvelope where
  proposalId := 1
  proposalType := proposalType
  logbookId := logbookId
  entityId := entityId
  timestamp := ⟨0, by decide, by decide⟩
  authorOperatorId := none
  authorDeviceId := 1
  sourcePluginId := "builtin"
  schemaVersion := 1
  payload := payload

/-- A plugin that holds one permission. -/
def sampleManifest (capability : PluginCapability) : PluginManifest where
  pluginId := "builtin"
  requestedPermissions := [capability]
  capabilities := []

/-- A stamp at the epoch. -/
def sampleStamp (eventId : Uuid) : EventStamp where
  eventId := eventId
  timestamp := ⟨0, by decide, by decide⟩

end HamLogger.Crates
