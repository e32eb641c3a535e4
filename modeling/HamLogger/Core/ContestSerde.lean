import HamLogger.Core.Contest
import HamLogger.Core.Crates

/-! The JSON form of a pack of contest definitions, as the derived serde code
writes it and reads it back. A document keeps the members of its objects in
the order of the text and each as often as it stands there. -/
namespace HamLogger

/-- The serde code of an instant in the chrono crate. -/
class ChronoSerde where
  serialize : DateTime → String
  deserialize : String → Option DateTime

namespace ContestSerde

/-! ### Forms of derived code -/

/-- The members of a struct that denies unknown fields. An object names each
field at most once; an array gives the fields in their order. -/
def structFields (names : List String) : Value → Option (List (String × Value))
  | .object members =>
      if (members.map Prod.fst).Nodup ∧ ∀ name ∈ members.map Prod.fst, name ∈ names then
        some members
      else none
  | .array values => if values.length ≤ names.length then some (names.zip values) else none
  | _ => none

section Members
variable {α : Type}

/-- A field that has to be there. -/
def required (decode : Value → Option α) (members : List (String × Value)) (name : String) :
    Option α :=
  (members.lookup name).bind decode

/-- A field with a default. -/
def withDefault (default : α) (decode : Value → Option α) (members : List (String × Value))
    (name : String) : Option α :=
  match members.lookup name with
  | none => some default
  | some value => decode value

def decodeList (decode : Value → Option α) : Value → Option (List α)
  | .array values => values.mapM decode
  | _ => none

def decodeOption (decode : Value → Option α) : Value → Option (Option α)
  | .null => some none
  | value => (decode value).map some

def encodeOption (encode : α → Value) : Option α → Value
  | none => .null
  | some value => encode value

/-- An enum without contents is a text, or an object with one member that is null. -/
def decodeEnum (variants : List (String × α)) : Value → Option α
  | .string name => variants.lookup name
  | .object [(name, .null)] => variants.lookup name
  | _ => none

end Members

/-- The tag of an enum and what is left for its contents. -/
def taggedContent : Value → Option (String × Value)
  | .object members =>
      match members.filter fun member => member.1 = "type" with
      | [(_, .string tag)] => some (tag, .object (members.filter fun member => member.1 ≠ "type"))
      | _ => none
  | .array (.string tag :: values) => some (tag, .array values)
  | _ => none

/-- Members are not looked at where a variant has no contents. -/
def unitContent : Value → Bool
  | .object _ => true
  | .array values => values.isEmpty
  | _ => false

def decodeString : Value → Option String
  | .string text => some text
  | _ => none

def decodeBool : Value → Option Bool
  | .bool value => some value
  | _ => none

def decodeU32 : Value → Option UInt32
  | .number (.posInt value) => if value.toNat < 2 ^ 32 then some value.toUInt32 else none
  | _ => none

def encodeU32 (value : UInt32) : Value := .number (.posInt value.toUInt64)

def decodeUsize : Value → Option UInt64
  | .number (.posInt value) => some value
  | _ => none

def decodeI64 : Value → Option Int64
  | .number (.posInt value) => if value.toNat < 2 ^ 63 then some value.toInt64 else none
  | .number (.negInt value) => some value
  | _ => none

def encodeI64 (value : Int64) : Value :=
  if value.toInt < 0 then .number (.negInt value) else .number (.posInt value.toUInt64)

def strings (values : List String) : Value := .array (values.map .string)

/-! ### The types of a pack -/

def decodeKind (value : Value) : Option ExchangeFieldKind := do
  let (tag, content) ← taggedContent value
  match tag with
  | "serial" => if unitContent content then some .serial else none
  | "rst" => if unitContent content then some .rst else none
  | "callsign" => if unitContent content then some .callsign else none
  | "grid" => if unitContent content then some .grid else none
  | "text" =>
      let members ← structFields ["max_len"] content
      return .text (← required decodeUsize members "max_len")
  | "integer" =>
      let members ← structFields ["min", "max"] content
      return .integer (← required decodeI64 members "min") (← required decodeI64 members "max")
  | "choice" =>
      let members ← structFields ["options"] content
      return .choice (← required (decodeList decodeString) members "options")
  | _ => none

def encodeKind : ExchangeFieldKind → Value
  | .serial => .object [("type", .string "serial")]
  | .rst => .object [("type", .string "rst")]
  | .callsign => .object [("type", .string "callsign")]
  | .grid => .object [("type", .string "grid")]
  | .text maxLen => .object [("type", .string "text"), ("max_len", .number (.posInt maxLen))]
  | .integer min max =>
      .object [("type", .string "integer"), ("min", encodeI64 min), ("max", encodeI64 max)]
  | .choice options => .object [("type", .string "choice"), ("options", strings options)]

def decodeField (value : Value) : Option ExchangeField := do
  let members ← structFields ["key", "label", "kind", "required"] value
  return { key := ← required decodeString members "key"
           label := ← required decodeString members "label"
           kind := ← required decodeKind members "kind"
           required := ← withDefault true decodeBool members "required" }

def encodeField (field : ExchangeField) : Value :=
  .object [("key", .string field.key), ("label", .string field.label),
    ("kind", encodeKind field.kind), ("required", .bool field.required)]

def decodeExchange (value : Value) : Option ContestExchange := do
  let members ← structFields ["sent", "received"] value
  return { sent := ← required (decodeList decodeField) members "sent"
           received := ← required (decodeList decodeField) members "received" }

def encodeExchange (exchange : ContestExchange) : Value :=
  .object [("sent", .array (exchange.sent.map encodeField)),
    ("received", .array (exchange.received.map encodeField))]

def decodeCategories (value : Value) : Option ContestCategories := do
  let members ← structFields
    ["operator", "transmitter", "power", "band", "mode", "assisted", "overlay"] value
  let list := withDefault [] (decodeList decodeString) members
  return { operator := ← list "operator", transmitter := ← list "transmitter"
           power := ← list "power", band := ← list "band", mode := ← list "mode"
           assisted := ← list "assisted", overlay := ← list "overlay" }

def encodeCategories (categories : ContestCategories) : Value :=
  .object [("operator", strings categories.operator),
    ("transmitter", strings categories.transmitter), ("power", strings categories.power),
    ("band", strings categories.band), ("mode", strings categories.mode),
    ("assisted", strings categories.assisted), ("overlay", strings categories.overlay)]

def decodeDuplicateScope : Value → Option DuplicateScope :=
  decodeEnum [("per_contest", .perContest), ("per_band", .perBand), ("per_mode", .perMode),
    ("per_band_mode", .perBandMode)]

def encodeDuplicateScope : DuplicateScope → Value
  | .perContest => .string "per_contest"
  | .perBand => .string "per_band"
  | .perMode => .string "per_mode"
  | .perBandMode => .string "per_band_mode"

def decodeDuplicateRule (value : Value) : Option DuplicateRule := do
  let members ← structFields ["scope", "repeat_after_minutes"] value
  return { scope := ← required decodeDuplicateScope members "scope"
           repeatAfterMinutes :=
             ← withDefault none (decodeOption decodeU32) members "repeat_after_minutes" }

def encodeDuplicateRule (rule : DuplicateRule) : Value :=
  .object [("scope", encodeDuplicateScope rule.scope),
    ("repeat_after_minutes", encodeOption encodeU32 rule.repeatAfterMinutes)]

def decodeSerialPolicy : Value → Option SerialPolicy :=
  decodeEnum [("none", .none), ("per_contest", .perContest), ("per_band", .perBand),
    ("per_band_mode", .perBandMode)]

def encodeSerialPolicy : SerialPolicy → Value
  | .none => .string "none"
  | .perContest => .string "per_contest"
  | .perBand => .string "per_band"
  | .perBandMode => .string "per_band_mode"

def decodeSource (value : Value) : Option MultiplierSource := do
  let (tag, content) ← taggedContent value
  match tag with
  | "received_exchange_field" =>
      let members ← structFields ["field_key"] content
      return .receivedExchangeField (← required decodeString members "field_key")
  | "dxcc_entity" => if unitContent content then some .dxccEntity else none
  | "grid_square" =>
      let members ← structFields ["precision"] content
      return .gridSquare (← required decodeUsize members "precision")
  | _ => none

def encodeSource : MultiplierSource → Value
  | .receivedExchangeField fieldKey =>
      .object [("type", .string "received_exchange_field"), ("field_key", .string fieldKey)]
  | .dxccEntity => .object [("type", .string "dxcc_entity")]
  | .gridSquare precision =>
      .object [("type", .string "grid_square"), ("precision", .number (.posInt precision))]

def decodeMultiplierScope : Value → Option MultiplierScope :=
  decodeEnum [("per_contest", .perContest), ("per_band", .perBand), ("per_mode", .perMode),
    ("per_band_mode", .perBandMode)]

def encodeMultiplierScope : MultiplierScope → Value
  | .perContest => .string "per_contest"
  | .perBand => .string "per_band"
  | .perMode => .string "per_mode"
  | .perBandMode => .string "per_band_mode"

def decodeMultiplier (value : Value) : Option MultiplierRule := do
  let members ← structFields ["key", "label", "source", "scope"] value
  return { key := ← required decodeString members "key"
           label := ← required decodeString members "label"
           source := ← required decodeSource members "source"
           scope := ← required decodeMultiplierScope members "scope" }

def encodeMultiplier (rule : MultiplierRule) : Value :=
  .object [("key", .string rule.key), ("label", .string rule.label),
    ("source", encodeSource rule.source), ("scope", encodeMultiplierScope rule.scope)]

def decodePointRule (value : Value) : Option PointRule := do
  let members ← structFields ["bands", "modes", "points"] value
  return { bands := ← withDefault [] (decodeList decodeString) members "bands"
           modes := ← withDefault [] (decodeList decodeString) members "modes"
           points := ← required decodeI64 members "points" }

def encodePointRule (rule : PointRule) : Value :=
  .object [("bands", strings rule.bands), ("modes", strings rule.modes),
    ("points", encodeI64 rule.points)]

def decodeScoring (value : Value) : Option ContestScoring := do
  let members ← structFields ["default_points", "rules"] value
  return { defaultPoints := ← required decodeI64 members "default_points"
           rules := ← withDefault [] (decodeList decodePointRule) members "rules" }

def encodeScoring (scoring : ContestScoring) : Value :=
  .object [("default_points", encodeI64 scoring.defaultPoints),
    ("rules", .array (scoring.rules.map encodePointRule))]

def decodeExport (value : Value) : Option ContestExportProfile := do
  let members ← structFields ["cabrillo_name", "cabrillo_version"] value
  return { cabrilloName := ← required decodeString members "cabrillo_name"
           cabrilloVersion := ← required decodeString members "cabrillo_version" }

def encodeExport (profile : ContestExportProfile) : Value :=
  .object [("cabrillo_name", .string profile.cabrilloName),
    ("cabrillo_version", .string profile.cabrilloVersion)]

section Instants
variable [ChronoSerde]

def decodeTime (value : Value) : Option DateTime :=
  (decodeString value).bind ChronoSerde.deserialize

def encodeTime (time : DateTime) : Value := .string (ChronoSerde.serialize time)

def decodeWindow (value : Value) : Option ContestTimeWindow := do
  let members ← structFields ["starts_at", "ends_at"] value
  return { startsAt := ← required decodeTime members "starts_at"
           endsAt := ← required decodeTime members "ends_at" }

def encodeWindow (window : ContestTimeWindow) : Value :=
  .object [("starts_at", encodeTime window.startsAt), ("ends_at", encodeTime window.endsAt)]

def definitionNames : List String :=
  ["contest_id", "name", "sponsor", "rule_version", "rule_source", "bands", "modes",
    "time_windows", "max_operating_minutes", "exchange", "categories", "duplicate_rule",
    "serial_policy", "multipliers", "scoring", "export"]

def decodeDefinition (value : Value) : Option ContestDefinition := do
  let members ← structFields definitionNames value
  return { contestId := ← required decodeString members "contest_id"
           name := ← required decodeString members "name"
           sponsor := ← required decodeString members "sponsor"
           ruleVersion := ← required decodeU32 members "rule_version"
           ruleSource := ← required decodeString members "rule_source"
           bands := ← required (decodeList decodeString) members "bands"
           modes := ← required (decodeList decodeString) members "modes"
           timeWindows := ← withDefault [] (decodeList decodeWindow) members "time_windows"
           maxOperatingMinutes :=
             ← withDefault none (decodeOption decodeU32) members "max_operating_minutes"
           exchange := ← required decodeExchange members "exchange"
           categories := ← withDefault {} decodeCategories members "categories"
           duplicateRule := ← required decodeDuplicateRule members "duplicate_rule"
           serialPolicy := ← required decodeSerialPolicy members "serial_policy"
           multipliers := ← withDefault [] (decodeList decodeMultiplier) members "multipliers"
           scoring := ← required decodeScoring members "scoring"
           «export» := ← required decodeExport members "export" }

def encodeDefinition (definition : ContestDefinition) : Value :=
  .object [("contest_id", .string definition.contestId), ("name", .string definition.name),
    ("sponsor", .string definition.sponsor),
    ("rule_version", encodeU32 definition.ruleVersion),
    ("rule_source", .string definition.ruleSource), ("bands", strings definition.bands),
    ("modes", strings definition.modes),
    ("time_windows", .array (definition.timeWindows.map encodeWindow)),
    ("max_operating_minutes", encodeOption encodeU32 definition.maxOperatingMinutes),
    ("exchange", encodeExchange definition.exchange),
    ("categories", encodeCategories definition.categories),
    ("duplicate_rule", encodeDuplicateRule definition.duplicateRule),
    ("serial_policy", encodeSerialPolicy definition.serialPolicy),
    ("multipliers", .array (definition.multipliers.map encodeMultiplier)),
    ("scoring", encodeScoring definition.scoring), ("export", encodeExport definition.export)]

def decodePack (value : Value) : Option ContestDefinitionPack := do
  let members ← structFields
    ["kind", "schema_version", "pack_id", "pack_version", "generated_at", "definitions"] value
  return { kind := ← required decodeString members "kind"
           schemaVersion := ← required decodeU32 members "schema_version"
           packId := ← required decodeString members "pack_id"
           packVersion := ← required decodeU32 members "pack_version"
           generatedAt := ← required decodeTime members "generated_at"
           definitions := ← required (decodeList decodeDefinition) members "definitions" }

def encodePack (pack : ContestDefinitionPack) : Value :=
  .object [("kind", .string pack.kind), ("schema_version", encodeU32 pack.schemaVersion),
    ("pack_id", .string pack.packId), ("pack_version", encodeU32 pack.packVersion),
    ("generated_at", encodeTime pack.generatedAt),
    ("definitions", .array (pack.definitions.map encodeDefinition))]

end Instants
/-! ### What is written is read back -/

theorem structFields_object {names : List String} {members : List (String × Value)}
    (hNames : members.map Prod.fst = names) (hNodup : names.Nodup) :
    structFields names (.object members) = some members := by
  subst hNames
  exact if_pos ⟨hNodup, fun _ hMem => hMem⟩

/-- A struct that is read from an object with all its fields. -/
theorem bind_structFields {α : Type} {names : List String} {members : List (String × Value)}
    (hNames : members.map Prod.fst = names) (hNodup : names.Nodup)
    (next : List (String × Value) → Option α) :
    (structFields names (.object members) >>= next) = next members := by
  rw [structFields_object hNames hNodup]
  rfl

section Members
variable {α : Type} (decode : Value → Option α) (value : Value) (rest : List (String × Value))

@[simp] theorem required_self (name : String) :
    required decode ((name, value) :: rest) name = decode value := by
  simp [required]

theorem required_ne {name other : String} (h : name ≠ other) :
    required decode ((other, value) :: rest) name = required decode rest name := by
  simp [required, List.lookup_cons, beq_false_of_ne h]

@[simp] theorem withDefault_self (default : α) (name : String) :
    withDefault default decode ((name, value) :: rest) name = decode value := by
  simp [withDefault]

theorem withDefault_ne (default : α) {name other : String} (h : name ≠ other) :
    withDefault default decode ((other, value) :: rest) name =
      withDefault default decode rest name := by
  simp [withDefault, List.lookup_cons, beq_false_of_ne h]

end Members

theorem mapM_map_of_inverse {α : Type} {decode : Value → Option α} {encode : α → Value}
    {values : List α} (h : ∀ value ∈ values, decode (encode value) = some value) :
    (values.map encode).mapM decode = some values := by
  induction values with
  | nil => rfl
  | cons value rest ih =>
      have hValue := h value List.mem_cons_self
      have hRest := ih fun other hMem => h other (List.mem_cons_of_mem value hMem)
      rw [List.map_cons, List.mapM_cons, hValue, hRest]
      rfl

theorem decodeList_array {α : Type} {decode : Value → Option α} {encode : α → Value}
    {values : List α} (h : ∀ value ∈ values, decode (encode value) = some value) :
    decodeList decode (.array (values.map encode)) = some values :=
  mapM_map_of_inverse h

@[simp] theorem decodeString_string (text : String) : decodeString (.string text) = some text :=
  rfl

@[simp] theorem decodeList_strings (values : List String) :
    decodeList decodeString (strings values) = some values :=
  decodeList_array fun _ _ => rfl

@[simp] theorem decodeU32_encodeU32 (value : UInt32) :
    decodeU32 (encodeU32 value) = some value := by
  unfold decodeU32 encodeU32
  have hValue := value.toNat_lt
  simp only [UInt32.toNat_toUInt64, UInt32.toUInt32_toUInt64]
  rw [if_pos hValue]

@[simp] theorem decodeI64_encodeI64 (value : Int64) :
    decodeI64 (encodeI64 value) = some value := by
  unfold encodeI64
  split
  · rfl
  · rename_i hNonneg
    unfold decodeI64
    have hBits : value.toInt = value.toBitVec.toInt := rfl
    have hNat : value.toBitVec.toNat = value.toUInt64.toNat := Int64.toNat_toBitVec value
    rw [hBits, BitVec.toInt_eq_toNat_cond, hNat] at hNonneg
    dsimp only
    rw [if_pos (by split at hNonneg <;> omega), Int64.toInt64_toUInt64]

@[simp] theorem decodeOption_encodeOption (value : Option UInt32) :
    decodeOption decodeU32 (encodeOption encodeU32 value) = some value := by
  cases value with
  | none => rfl
  | some value =>
      change (decodeU32 (encodeU32 value)).map some = _
      rw [decodeU32_encodeU32]
      rfl

@[simp] theorem decodeKind_encodeKind (kind : ExchangeFieldKind) :
    decodeKind (encodeKind kind) = some kind := by
  cases kind with
  | serial => rfl
  | rst => rfl
  | callsign => rfl
  | grid => rfl
  | text maxLen => rfl
  | integer min max =>
      simp [decodeKind, encodeKind, taggedContent, structFields, required_ne]
  | choice options =>
      simp [decodeKind, encodeKind, taggedContent, structFields]

@[simp] theorem decodeField_encodeField (field : ExchangeField) :
    decodeField (encodeField field) = some field := by
  refine Eq.trans (bind_structFields (by rfl) (by decide) _) ?_
  simp [required_ne, withDefault_ne, decodeBool]

@[simp] theorem decodeExchange_encodeExchange (exchange : ContestExchange) :
    decodeExchange (encodeExchange exchange) = some exchange := by
  refine Eq.trans (bind_structFields (by rfl) (by decide) _) ?_
  simp [required_ne, decodeList_array]

@[simp] theorem decodeCategories_encodeCategories (categories : ContestCategories) :
    decodeCategories (encodeCategories categories) = some categories := by
  refine Eq.trans (bind_structFields (by rfl) (by decide) _) ?_
  simp [withDefault_ne]

@[simp] theorem decodeDuplicateRule_encodeDuplicateRule (rule : DuplicateRule) :
    decodeDuplicateRule (encodeDuplicateRule rule) = some rule := by
  have hScope (scope : DuplicateScope) :
      decodeDuplicateScope (encodeDuplicateScope scope) = some scope := by
    cases scope <;> rfl
  refine Eq.trans (bind_structFields (by rfl) (by decide) _) ?_
  simp [withDefault_ne, hScope]

@[simp] theorem decodeSerialPolicy_encodeSerialPolicy (policy : SerialPolicy) :
    decodeSerialPolicy (encodeSerialPolicy policy) = some policy := by
  cases policy <;> rfl

@[simp] theorem decodeMultiplier_encodeMultiplier (rule : MultiplierRule) :
    decodeMultiplier (encodeMultiplier rule) = some rule := by
  have hSource (source : MultiplierSource) :
      decodeSource (encodeSource source) = some source := by
    cases source <;> rfl
  have hScope (scope : MultiplierScope) :
      decodeMultiplierScope (encodeMultiplierScope scope) = some scope := by
    cases scope <;> rfl
  refine Eq.trans (bind_structFields (by rfl) (by decide) _) ?_
  simp [required_ne, hSource, hScope]

@[simp] theorem decodePointRule_encodePointRule (rule : PointRule) :
    decodePointRule (encodePointRule rule) = some rule := by
  refine Eq.trans (bind_structFields (by rfl) (by decide) _) ?_
  simp [required_ne, withDefault_ne]

@[simp] theorem decodeScoring_encodeScoring (scoring : ContestScoring) :
    decodeScoring (encodeScoring scoring) = some scoring := by
  refine Eq.trans (bind_structFields (by rfl) (by decide) _) ?_
  simp [withDefault_ne, decodeList_array]

@[simp] theorem decodeExport_encodeExport (profile : ContestExportProfile) :
    decodeExport (encodeExport profile) = some profile := by
  refine Eq.trans (bind_structFields (by rfl) (by decide) _) ?_
  simp [required_ne]

section Instants
variable [ChronoSerde]

/-- The text of an instant is read back as the instant. -/
def TimeReadsBack (time : DateTime) : Prop :=
  ChronoSerde.deserialize (ChronoSerde.serialize time) = some time

/-- The instants of a pack. -/
def times (pack : ContestDefinitionPack) : List DateTime :=
  pack.generatedAt :: pack.definitions.flatMap fun definition =>
    definition.timeWindows.flatMap fun window => [window.startsAt, window.endsAt]

theorem decodeTime_encodeTime {time : DateTime} (h : TimeReadsBack time) :
    decodeTime (encodeTime time) = some time := h

theorem decodeWindow_encodeWindow {window : ContestTimeWindow}
    (hStart : TimeReadsBack window.startsAt) (hEnd : TimeReadsBack window.endsAt) :
    decodeWindow (encodeWindow window) = some window := by
  refine Eq.trans (bind_structFields (by rfl) (by decide) _) ?_
  simp [required_ne, decodeTime_encodeTime hStart, decodeTime_encodeTime hEnd]

theorem decodeDefinition_encodeDefinition {definition : ContestDefinition}
    (h : ∀ window ∈ definition.timeWindows,
      TimeReadsBack window.startsAt ∧ TimeReadsBack window.endsAt) :
    decodeDefinition (encodeDefinition definition) = some definition := by
  have hWindows : decodeList decodeWindow (.array (definition.timeWindows.map encodeWindow)) =
      some definition.timeWindows :=
    decodeList_array fun window hMem =>
      decodeWindow_encodeWindow (h window hMem).1 (h window hMem).2
  refine Eq.trans (bind_structFields (by rfl) (by decide) _) ?_
  simp [required_ne, withDefault_ne, decodeList_array, hWindows]

/-- Reading is the inverse of writing, on every pack. -/
theorem decodePack_encodePack {pack : ContestDefinitionPack}
    (h : ∀ time ∈ times pack, TimeReadsBack time) : decodePack (encodePack pack) = some pack := by
  have hGenerated := h pack.generatedAt List.mem_cons_self
  have hDefinitions : decodeList decodeDefinition
      (.array (pack.definitions.map encodeDefinition)) = some pack.definitions := by
    refine decodeList_array fun definition hMem => decodeDefinition_encodeDefinition ?_
    intro window hWindow
    have hIn (time : DateTime) (hTime : time ∈ [window.startsAt, window.endsAt]) :
        time ∈ times pack :=
      List.mem_cons_of_mem _ (List.mem_flatMap.mpr
        ⟨definition, hMem, List.mem_flatMap.mpr ⟨window, hWindow, hTime⟩⟩)
    exact ⟨h _ (hIn _ (by simp)), h _ (hIn _ (by simp))⟩
  refine Eq.trans (bind_structFields (by rfl) (by decide) _) ?_
  simp [required_ne, decodeTime_encodeTime hGenerated, hDefinitions]

end Instants
end ContestSerde
end HamLogger
