import HamLogger.Core.AdifImport
import HamLogger.Core.EmComm
import HamLogger.Library.KeyMap
import Mathlib.Data.List.Sort

/-! Contest rules as data: a definition of a contest, the checks a definition
and a pack of definitions have to pass, and the exchange a contact reports. -/
namespace HamLogger

/-- The pack schema version of this build. -/
def contestRuleSchemaVersion : UInt32 := 1

/-- The kind every pack of definitions carries. -/
def contestDefinitionPackKind : String := "ke8ygw.contest.definition-pack"

inductive ContestSchemaError where
  | invalidJson (message : String)
  | unsupportedPackKind (found expected : String)
  | unsupportedSchemaVersion (found supported : UInt32)
  | duplicateContestId (contestId : String)
  | invalidDefinition (contestId reason : String)
  | emptyPack (packId : String)
  | missingExchangeField (key : String)
  | unknownExchangeField (key : String)
  | invalidExchangeField (key reason : String)
  deriving DecidableEq

inductive ExchangeDirection where
  | sent | received
  deriving DecidableEq

/-- The value shape of one exchange field. -/
inductive ExchangeFieldKind where
  | serial
  | rst
  | callsign
  | grid
  | text (maxLen : UInt64)
  | integer (min max : Int64)
  | choice (options : List String)
  deriving DecidableEq

structure ExchangeField where
  key : String
  label : String
  kind : ExchangeFieldKind
  required : Bool := true
  deriving DecidableEq

structure ContestExchange where
  sent : List ExchangeField
  received : List ExchangeField
  deriving DecidableEq

namespace ContestExchange

def fields (exchange : ContestExchange) : ExchangeDirection → List ExchangeField
  | .sent => exchange.sent
  | .received => exchange.received

def field (exchange : ContestExchange) (direction : ExchangeDirection) (key : String) :
    Option ExchangeField :=
  (exchange.fields direction).find? fun field => field.key = key

end ContestExchange

/-- The entry categories of a contest; an empty list is a dimension it does not use. -/
structure ContestCategories where
  operator : List String := []
  transmitter : List String := []
  power : List String := []
  band : List String := []
  mode : List String := []
  assisted : List String := []
  overlay : List String := []
  deriving DecidableEq

inductive DuplicateScope where
  | perContest | perBand | perMode | perBandMode
  deriving DecidableEq

structure DuplicateRule where
  scope : DuplicateScope
  repeatAfterMinutes : Option UInt32 := none
  deriving DecidableEq

inductive SerialPolicy where
  | none | perContest | perBand | perBandMode
  deriving DecidableEq

inductive MultiplierSource where
  | receivedExchangeField (fieldKey : String)
  | dxccEntity
  | gridSquare (precision : UInt64)
  deriving DecidableEq

inductive MultiplierScope where
  | perContest | perBand | perMode | perBandMode
  deriving DecidableEq

structure MultiplierRule where
  key : String
  label : String
  source : MultiplierSource
  scope : MultiplierScope
  deriving DecidableEq

structure PointRule where
  bands : List String := []
  modes : List String := []
  points : Int64
  deriving DecidableEq

structure ContestScoring where
  defaultPoints : Int64
  rules : List PointRule := []
  deriving DecidableEq

structure ContestTimeWindow where
  startsAt : DateTime
  endsAt : DateTime
  deriving DecidableEq

structure ContestExportProfile where
  cabrilloName : String
  cabrilloVersion : String
  deriving DecidableEq

/-- The rules of one contest. -/
structure ContestDefinition where
  contestId : String
  name : String
  sponsor : String
  ruleVersion : UInt32
  ruleSource : String
  bands : List String
  modes : List String
  timeWindows : List ContestTimeWindow := []
  maxOperatingMinutes : Option UInt32 := none
  exchange : ContestExchange
  categories : ContestCategories := {}
  duplicateRule : DuplicateRule
  serialPolicy : SerialPolicy
  multipliers : List MultiplierRule := []
  scoring : ContestScoring
  «export» : ContestExportProfile
  deriving DecidableEq

def matchesAny (allowed : List String) (value : String) : Bool :=
  allowed.isEmpty || allowed.any fun candidate => eqIgnoreAsciiCase candidate (trim value)

/-! The value of one exchange field. -/

/-- What the byte at a place of a grid square has to be. -/
def gridClass (index : Nat) (character : Char) : Bool :=
  match index with
  | 0 | 1 => character.isAlpha
  | 2 | 3 => character.isDigit
  | 4 | 5 => character.isAlpha
  | _ => character.isDigit

def gridCase (index : Nat) (character : Char) : Char :=
  match index with
  | 0 | 1 => character.toUpper
  | 4 | 5 => character.toLower
  | _ => character

/-- The length is counted in bytes. A byte of a character outside ASCII is
neither a letter nor a digit, so walking over characters refuses it as well. -/
def normalizeGrid (value : String) : Option String :=
  let trimmed := trim value
  if trimmed.utf8ByteSize ∈ [4, 6, 8] ∧
      trimmed.toList.zipIdx.all fun place => gridClass place.2 place.1 then
    some (String.ofList (trimmed.toList.mapIdx gridCase))
  else none

def normalizeExchangeValue (field : ExchangeField) (value : String) :
    Except ContestSchemaError String :=
  let invalid (reason : String) : Except ContestSchemaError String :=
    .error (.invalidExchangeField field.key reason)
  match field.kind with
  | .serial => match parseU32 value with
      | none => invalid "a serial must be a whole number"
      | some parsed =>
          if parsed = 0 then invalid "a serial must be greater than zero"
          else .ok (toString parsed)
  | .rst =>
      let upper := toAsciiUppercase value
      if 2 ≤ upper.utf8ByteSize ∧ upper.utf8ByteSize ≤ 4 ∧
          upper.toList.all fun character => character.isDigit || character = 'A' then
        .ok upper
      else invalid "a signal report must be 2 to 4 report characters"
  | .callsign =>
      let upper := toAsciiUppercase value
      if 3 ≤ upper.utf8ByteSize ∧
          upper.toList.all fun character => character.isAlphanum || character = '/' then
        .ok upper
      else invalid "a callsign must be alphanumeric with optional `/`"
  | .grid => match normalizeGrid value with
      | none => invalid "a grid square must be 4, 6, or 8 characters"
      | some normalized => .ok normalized
  | .text maxLen =>
      if maxLen.toNat < value.length then
        invalid ("text must be " ++ toString maxLen ++ " characters or fewer")
      else .ok value
  | .integer min max => match parseI64 value with
      | none => invalid "a whole number is required"
      | some parsed =>
          if parsed < min.toInt ∨ max.toInt < parsed then
            invalid ("value must be between " ++ toString min ++ " and " ++ toString max)
          else .ok (toString parsed)
  | .choice options => match options.find? fun option => eqIgnoreAsciiCase option value with
      | none => invalid ("value must be one of: " ++ ", ".intercalate options)
      | some option => .ok option

namespace ContestDefinition

def supportsBand (definition : ContestDefinition) (band : String) : Bool :=
  matchesAny definition.bands band

def supportsMode (definition : ContestDefinition) (mode : String) : Bool :=
  matchesAny definition.modes mode

/-- The value sent for a field, without the blanks around it, unless nothing is left. -/
def rawValue (values : KeyMap String String) (field : ExchangeField) : Option String :=
  ((values.lookup field.key).map trim).filter (· ≠ "")

/-- One step of the loop over the declared fields. -/
def normalizeField (values normalized : KeyMap String String) (field : ExchangeField) :
    Except ContestSchemaError (KeyMap String String) :=
  match rawValue values field with
  | none =>
      if field.required then .error (.missingExchangeField field.key) else .ok normalized
  | some value => (normalizeExchangeValue field value).map (normalized.insert field.key)

/-- The keys are visited in their order, so the first undeclared one is reported. -/
def unknownKey (fields : List ExchangeField) (values : KeyMap String String) : Option String :=
  (values.keys.insertionSort (· ≤ ·)).find? fun key =>
    !fields.any fun field => field.key = key

def validateExchange (definition : ContestDefinition) (direction : ExchangeDirection)
    (values : KeyMap String String) : Except ContestSchemaError (KeyMap String String) :=
  let fields := definition.exchange.fields direction
  match unknownKey fields values with
  | some key => .error (.unknownExchangeField key)
  | none => fields.foldlM (normalizeField values) ∅

/-! The checks of a definition. -/

def invalid {α : Type} (definition : ContestDefinition) (reason : String) :
    Except ContestSchemaError α :=
  .error (.invalidDefinition definition.contestId reason)

def validateWindow (definition : ContestDefinition) (window : ContestTimeWindow) :
    Except ContestSchemaError Unit :=
  if window.endsAt ≤ window.startsAt then
    definition.invalid "every time window must end after it starts"
  else .ok ()

def validateKind (definition : ContestDefinition) (field : ExchangeField) :
    Except ContestSchemaError Unit :=
  match field.kind with
  | .text maxLen =>
      if maxLen = 0 then
        definition.invalid ("text exchange field `" ++ field.key ++ "` needs a non-zero max_len")
      else .ok ()
  | .integer min max =>
      if max < min then
        definition.invalid ("integer exchange field `" ++ field.key ++ "` has an inverted range")
      else .ok ()
  | .choice options =>
      if options.isEmpty then
        definition.invalid ("choice exchange field `" ++ field.key ++
          "` needs at least one option")
      else .ok ()
  | _ => .ok ()

def validateFields (definition : ContestDefinition) (seen : List String) :
    List ExchangeField → Except ContestSchemaError Unit
  | [] => .ok ()
  | field :: rest =>
      if trim field.key = "" then definition.invalid "exchange field keys must not be blank"
      else if field.key ∈ seen then
        definition.invalid ("exchange field `" ++ field.key ++ "` is declared twice")
      else do
        definition.validateKind field
        definition.validateFields (field.key :: seen) rest

/-- A key is remembered together with its direction, so the two directions do
not see each other's keys. -/
def validateDirection (definition : ContestDefinition) (direction : ExchangeDirection) :
    Except ContestSchemaError Unit :=
  let fields := definition.exchange.fields direction
  if fields.isEmpty then
    definition.invalid "both exchange directions require at least one field"
  else definition.validateFields [] fields

def declaresSerial (definition : ContestDefinition) : Bool :=
  (definition.exchange.sent ++ definition.exchange.received).any fun field =>
    field.kind = .serial

def validateSerials (definition : ContestDefinition) : Except ContestSchemaError Unit :=
  if definition.serialPolicy = .none ∧ definition.declaresSerial then
    definition.invalid "the exchange declares a serial field but the serial policy is none"
  else if definition.serialPolicy ≠ .none ∧ !definition.declaresSerial then
    definition.invalid
      "the serial policy allocates serials but no exchange field receives them"
  else .ok ()

def validateSource (definition : ContestDefinition) (multiplier : MultiplierRule) :
    Except ContestSchemaError Unit :=
  match multiplier.source with
  | .receivedExchangeField fieldKey =>
      if (definition.exchange.field .received fieldKey).isNone then
        definition.invalid ("multiplier `" ++ multiplier.key ++
          "` reads received exchange field `" ++ fieldKey ++ "`, which is not declared")
      else .ok ()
  | .gridSquare precision =>
      if precision = 0 ∨ precision % 2 ≠ 0 ∨ 8 < precision then
        definition.invalid ("multiplier `" ++ multiplier.key ++
          "` needs an even grid precision between 2 and 8")
      else .ok ()
  | .dxccEntity => .ok ()

def validateMultipliers (definition : ContestDefinition) (seen : List String) :
    List MultiplierRule → Except ContestSchemaError Unit
  | [] => .ok ()
  | multiplier :: rest =>
      if multiplier.key ∈ seen then
        definition.invalid ("multiplier `" ++ multiplier.key ++ "` is declared twice")
      else do
        definition.validateSource multiplier
        definition.validateMultipliers (multiplier.key :: seen) rest

def validateRule (definition : ContestDefinition) (rule : PointRule) :
    Except ContestSchemaError Unit := do
  rule.bands.forM fun band =>
    if definition.supportsBand band then .ok ()
    else definition.invalid ("a scoring rule references band `" ++ band ++
      "`, which the contest does not use")
  rule.modes.forM fun mode =>
    if definition.supportsMode mode then .ok ()
    else definition.invalid ("a scoring rule references mode `" ++ mode ++
      "`, which the contest does not use")

def validateExport (definition : ContestDefinition) : Except ContestSchemaError Unit :=
  if trim definition.export.cabrilloName = "" then
    definition.invalid "export.cabrillo_name must not be blank"
  else .ok ()

def validateSelf (definition : ContestDefinition) : Except ContestSchemaError Unit :=
  if trim definition.contestId = "" then definition.invalid "contest_id must not be blank"
  else if trim definition.name = "" then definition.invalid "name must not be blank"
  else if definition.ruleVersion = 0 then
    definition.invalid "rule_version must be greater than zero"
  else if definition.bands.isEmpty then definition.invalid "at least one band is required"
  else if definition.modes.isEmpty then definition.invalid "at least one mode is required"
  else do
    definition.timeWindows.forM definition.validateWindow
    definition.validateDirection .sent
    definition.validateDirection .received
    definition.validateSerials
    definition.validateMultipliers [] definition.multipliers
    definition.scoring.rules.forM definition.validateRule
    definition.validateExport

end ContestDefinition

/-! What the checks leave of a definition. -/

namespace ContestDefinition
variable {definition : ContestDefinition}

theorem nodup_of_validateFields {seen : List String} {fields : List ExchangeField}
    (h : definition.validateFields seen fields = .ok ()) :
    (fields.map ExchangeField.key).Nodup ∧ ∀ field ∈ fields, field.key ∉ seen := by
  induction fields generalizing seen with
  | nil => simp
  | cons field rest ih =>
      unfold validateFields at h
      split at h
      · cases h
      · split at h
        · cases h
        · rename_i hSeen
          obtain ⟨_, _, hRest⟩ := (except_bind_eq_ok_iff _ _ _).mp h
          obtain ⟨hNodup, hFresh⟩ := ih hRest
          refine ⟨List.nodup_cons.mpr ⟨fun hMem => ?_, hNodup⟩, fun other hOther => ?_⟩
          · obtain ⟨other, hOther, hKey⟩ := List.mem_map.mp hMem
            exact hFresh other hOther (by rw [hKey]; simp)
          · rcases List.mem_cons.mp hOther with rfl | hRest
            · exact hSeen
            · exact fun hOld => hFresh other hRest (List.mem_cons_of_mem _ hOld)

theorem nodup_of_validateDirection {direction : ExchangeDirection}
    (h : definition.validateDirection direction = .ok ()) :
    ((definition.exchange.fields direction).map ExchangeField.key).Nodup := by
  unfold validateDirection at h
  dsimp only at h
  split at h
  · cases h
  · exact (nodup_of_validateFields h).1

/-- In a definition that passes its checks no direction declares a key twice. -/
theorem nodup_of_validateSelf (h : definition.validateSelf = .ok ())
    (direction : ExchangeDirection) :
    ((definition.exchange.fields direction).map ExchangeField.key).Nodup := by
  unfold validateSelf at h
  split at h
  · cases h
  · split at h
    · cases h
    · split at h
      · cases h
      · split at h
        · cases h
        · split at h
          · cases h
          · obtain ⟨_, _, hSent⟩ := (except_bind_eq_ok_iff _ _ _).mp h
            obtain ⟨_, hSentOk, hReceived⟩ := (except_bind_eq_ok_iff _ _ _).mp hSent
            obtain ⟨_, hReceivedOk, _⟩ := (except_bind_eq_ok_iff _ _ _).mp hReceived
            cases direction with
            | sent => exact nodup_of_validateDirection hSentOk
            | received => exact nodup_of_validateDirection hReceivedOk

end ContestDefinition

/-! Packs of definitions. -/

structure ContestDefinitionPack where
  kind : String
  schemaVersion : UInt32
  packId : String
  packVersion : UInt32
  generatedAt : DateTime
  definitions : List ContestDefinition
  deriving DecidableEq

namespace ContestDefinitionPack

def validateDefinitions (seen : List String) :
    List ContestDefinition → Except ContestSchemaError Unit
  | [] => .ok ()
  | definition :: rest =>
      if definition.contestId ∈ seen then .error (.duplicateContestId definition.contestId)
      else do
        definition.validateSelf
        validateDefinitions (definition.contestId :: seen) rest

def validate (pack : ContestDefinitionPack) : Except ContestSchemaError Unit :=
  if pack.kind ≠ contestDefinitionPackKind then
    .error (.unsupportedPackKind pack.kind contestDefinitionPackKind)
  else if pack.schemaVersion ≠ contestRuleSchemaVersion then
    .error (.unsupportedSchemaVersion pack.schemaVersion contestRuleSchemaVersion)
  else if pack.definitions.isEmpty then .error (.emptyPack pack.packId)
  else validateDefinitions [] pack.definitions

theorem of_validateDefinitions {seen : List String} {definitions : List ContestDefinition}
    (h : validateDefinitions seen definitions = .ok ()) :
    (definitions.map ContestDefinition.contestId).Nodup ∧
      (∀ definition ∈ definitions, definition.contestId ∉ seen) ∧
      ∀ definition ∈ definitions, definition.validateSelf = .ok () := by
  induction definitions generalizing seen with
  | nil => simp
  | cons definition rest ih =>
      unfold validateDefinitions at h
      split at h
      · cases h
      · rename_i hSeen
        obtain ⟨_, hSelf, hRest⟩ := (except_bind_eq_ok_iff _ _ _).mp h
        obtain ⟨hNodup, hFresh, hValid⟩ := ih hRest
        refine ⟨List.nodup_cons.mpr ⟨fun hMem => ?_, hNodup⟩, fun other hOther => ?_,
          fun other hOther => ?_⟩
        · obtain ⟨other, hOther, hId⟩ := List.mem_map.mp hMem
          exact hFresh other hOther (by rw [hId]; simp)
        · rcases List.mem_cons.mp hOther with rfl | hRest
          · exact hSeen
          · exact fun hOld => hFresh other hRest (List.mem_cons_of_mem _ hOld)
        · rcases List.mem_cons.mp hOther with rfl | hRest
          · exact hSelf
          · exact hValid other hRest

/-- An accepted pack names every contest once, and every definition of it passes
its own checks. -/
theorem of_validate {pack : ContestDefinitionPack} (h : pack.validate = .ok ()) :
    (pack.definitions.map ContestDefinition.contestId).Nodup ∧
      ∀ definition ∈ pack.definitions, definition.validateSelf = .ok () := by
  unfold validate at h
  split at h
  · cases h
  · split at h
    · cases h
    · split at h
      · cases h
      · have hAll := of_validateDefinitions h
        exact ⟨hAll.1, hAll.2.2⟩

end ContestDefinitionPack
end HamLogger
