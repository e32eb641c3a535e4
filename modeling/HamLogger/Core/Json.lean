import Mathlib.Data.List.Basic

/-! The JSON values of the serde_json crate, as far as the core looks into
them. An object keeps its fields in key order, each key once, as the sorted
map behind it does. A float is kept as its bit pattern and never computed. -/
namespace HamLogger

/-- The three representations of a JSON number. -/
inductive Number where
  | posInt (value : UInt64)
  | negInt (value : Int64)
  | float (bits : UInt64)
  deriving DecidableEq

/-- A JSON value. -/
inductive Value where
  | null
  | bool (value : Bool)
  | number (value : Number)
  | string (value : String)
  | array (elements : List Value)
  | object (fields : List (String × Value))

/-- The fields of a JSON object. -/
abbrev Fields := List (String × Value)

/-! Equality of values is decided along their structure. -/
mutual

def Value.beq : Value → Value → Bool
  | .null, .null => true
  | .bool a, .bool b => a == b
  | .number a, .number b => decide (a = b)
  | .string a, .string b => a == b
  | .array a, .array b => Value.beqElements a b
  | .object a, .object b => Value.beqFields a b
  | _, _ => false

def Value.beqElements : List Value → List Value → Bool
  | [], [] => true
  | a :: as, b :: bs => Value.beq a b && Value.beqElements as bs
  | _, _ => false

def Value.beqFields : List (String × Value) → List (String × Value) → Bool
  | [], [] => true
  | (j, a) :: as, (k, b) :: bs => j == k && Value.beq a b && Value.beqFields as bs
  | _, _ => false

end

mutual

theorem Value.beq_iff : ∀ a b : Value, Value.beq a b = true ↔ a = b
  | .null, b => by cases b <;> simp [Value.beq]
  | .bool _, b => by cases b <;> simp [Value.beq]
  | .number _, b => by cases b <;> simp [Value.beq]
  | .string _, b => by cases b <;> simp [Value.beq]
  | .array a, b => by
      cases b with
      | array b => simp [Value.beq, Value.beqElements_iff a b]
      | _ => simp [Value.beq]
  | .object a, b => by
      cases b with
      | object b => simp [Value.beq, Value.beqFields_iff a b]
      | _ => simp [Value.beq]

theorem Value.beqElements_iff : ∀ a b : List Value, Value.beqElements a b = true ↔ a = b
  | [], b => by cases b <;> simp [Value.beqElements]
  | a :: as, b => by
      cases b with
      | nil => simp [Value.beqElements]
      | cons b bs => simp [Value.beqElements, Value.beq_iff a b, Value.beqElements_iff as bs]

theorem Value.beqFields_iff : ∀ a b : List (String × Value), Value.beqFields a b = true ↔ a = b
  | [], b => by cases b <;> simp [Value.beqFields]
  | (j, a) :: as, b => by
      cases b with
      | nil => simp [Value.beqFields]
      | cons b bs =>
          obtain ⟨k, b⟩ := b
          simp [Value.beqFields, Value.beq_iff a b, Value.beqFields_iff as bs, and_assoc]

end

instance : DecidableEq Value := fun a b => decidable_of_iff _ (Value.beq_iff a b)

namespace Fields

/-- `Map::get`. -/
def get : Fields → String → Option Value
  | [], _ => none
  | (name, value) :: rest, key => if key = name then some value else get rest key

/-- `Map::insert`: replace the field, or add it at its place in key order. -/
def insert : Fields → String → Value → Fields
  | [], key, value => [(key, value)]
  | (name, old) :: rest, key, value =>
      if key = name then (name, value) :: rest
      else if key < name then (key, value) :: (name, old) :: rest
      else (name, old) :: insert rest key value

/-- `Map::contains_key`. -/
def containsKey (fields : Fields) (key : String) : Bool :=
  (get fields key).isSome

@[simp] theorem get_insert_self (fields : Fields) (key : String) (value : Value) :
    get (insert fields key value) key = some value := by
  induction fields with
  | nil => simp [insert, get]
  | cons field rest ih =>
      obtain ⟨name, old⟩ := field
      unfold insert
      split
      · rename_i h
        simp [get, h]
      · rename_i h
        split <;> simp [get, h, ih]

@[simp] theorem get_insert_of_ne {key other : String} (h : other ≠ key) (fields : Fields)
    (value : Value) : get (insert fields key value) other = get fields other := by
  induction fields with
  | nil => simp [insert, get, h]
  | cons field rest ih =>
      obtain ⟨name, old⟩ := field
      unfold insert
      split
      · rename_i hKey
        subst hKey
        simp [get, h]
      · split
        · simp [get, h]
        · simp [get, ih]

end Fields

namespace Value

/-- `Value::as_object`. -/
def asObject : Value → Option Fields
  | .object fields => some fields
  | _ => none

/-- `Value::is_object`. -/
def isObject (value : Value) : Bool :=
  value.asObject.isSome

/-- `Value::as_str`. -/
def asStr : Value → Option String
  | .string text => some text
  | _ => none

/-- `Value::is_string`. -/
def isString (value : Value) : Bool :=
  value.asStr.isSome

/-- `Value::as_bool`. -/
def asBool : Value → Option Bool
  | .bool value => some value
  | _ => none

/-- `Value::is_number`. -/
def isNumber : Value → Bool
  | .number _ => true
  | _ => false

/-- `Value::as_u64`. -/
def asU64 : Value → Option UInt64
  | .number (.posInt value) => some value
  | _ => none

/-- `Value::get` with a string index: a field of an object. -/
def get (value : Value) (key : String) : Option Value :=
  value.asObject.bind fun fields => Fields.get fields key

/-- Assigning `value[key] = new`. A null first becomes an empty object;
on every other value that is not an object the assignment panics. -/
def set : Value → String → Value → Option Value
  | .null, key, new => some (.object (Fields.insert [] key new))
  | .object fields, key, new => some (.object (Fields.insert fields key new))
  | _, _, _ => none

/-- The values on which an assignment to a field does not panic. -/
def isIndexable : Value → Bool
  | .null => true
  | .object _ => true
  | _ => false

@[simp] theorem get_object (fields : Fields) (key : String) :
    (Value.object fields).get key = Fields.get fields key := rfl

@[simp] theorem asObject_object (fields : Fields) :
    (Value.object fields).asObject = some fields := rfl

@[simp] theorem isObject_object (fields : Fields) : (Value.object fields).isObject = true := rfl

theorem isObject_iff (value : Value) :
    value.isObject = true ↔ ∃ fields, value = .object fields := by
  cases value <;> simp [isObject, asObject]

@[simp] theorem set_object (fields : Fields) (key : String) (new : Value) :
    (Value.object fields).set key new = some (.object (Fields.insert fields key new)) := rfl

/-- What an assignment leaves is an object, whatever it started from. -/
theorem isObject_of_set {value result : Value} {key : String} {new : Value}
    (h : value.set key new = some result) : result.isObject = true := by
  cases value <;> simp [set] at h <;> subst h <;> rfl

/-- Only objects have fields. -/
theorem isObject_of_get {value field : Value} {key : String} (h : value.get key = some field) :
    value.isObject = true := by
  cases value <;> simp_all [get, asObject]

theorem isIndexable_of_isObject {value : Value} (h : value.isObject = true) :
    value.isIndexable = true := by
  obtain ⟨fields, rfl⟩ := (isObject_iff value).mp h
  rfl

/-- Insert every field of a patch into the fields of a target. -/
def mergeFields (target patch : Fields) : Fields :=
  patch.foldl (fun fields field => Fields.insert fields field.1 field.2) target

/-- Merge a patch into a target, which first becomes an object if it is none.
A patch that is no object is refused with the given error. -/
def mergeObject {ε : Type} (refused : ε) (target patch : Value) : Except ε Value :=
  match patch.asObject with
  | none => .error refused
  | some fields => .ok (.object (mergeFields (target.asObject.getD []) fields))

theorem mergeObject_succeeds_iff {ε : Type} (refused : ε) (target patch : Value) :
    (∃ merged, mergeObject refused target patch = .ok merged) ↔ patch.isObject = true := by
  unfold mergeObject isObject
  split <;> simp_all

end Value
end HamLogger
