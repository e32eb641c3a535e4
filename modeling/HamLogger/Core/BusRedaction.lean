import HamLogger.Core.DiagnosticRedaction
import HamLogger.Core.ContactRules

/-! What of a payload a runtime event shows on the bus. Redaction replaces what
stands under a key that looks like a secret, wherever it stands, and nothing
else. Official events are published as they are stored. -/
namespace HamLogger

/-- A step into a value: to a field of an object or to an element of an array. -/
inductive PathStep where
  | field (key : String)
  | element (index : Nat)

namespace Value

def step : PathStep → Value → Option Value
  | .field key, value => value.get key
  | .element index, .array elements => elements[index]?
  | .element _, _ => none

/-- What stands at the end of a path. -/
def follow : List PathStep → Value → Option Value
  | [], value => some value
  | first :: rest, value => (value.step first).bind (follow rest)

/-- A value that has no parts. -/
def isScalar : Value → Bool
  | .object _ | .array _ => false
  | _ => true

end Value

section Masks
variable (hides : String → Bool)

/-- The step does not go under a key that is hidden. -/
def PathStep.isOpen : PathStep → Bool
  | .field key => !hides key
  | .element _ => true

theorem maskElements_eq_map (values : List Value) :
    maskElements hides values = values.map (mask hides) := by
  induction values with
  | nil => rfl
  | cons value rest ih => rw [maskElements, List.map_cons, ih]

theorem keys_maskFields (fields : Fields) :
    (maskFields hides fields).map Prod.fst = fields.map Prod.fst := by
  induction fields with
  | nil => rfl
  | cons field rest ih =>
      obtain ⟨key, value⟩ := field
      rw [maskFields, List.map_cons, List.map_cons, ih]

theorem get_maskFields (fields : Fields) (key : String) :
    Fields.get (maskFields hides fields) key = (Fields.get fields key).map fun value =>
      if hides key then .string "[REDACTED]" else mask hides value := by
  induction fields with
  | nil => rfl
  | cons field rest ih =>
      obtain ⟨name, value⟩ := field
      unfold maskFields Fields.get
      by_cases hSame : key = name
      · subst hSame
        simp
      · simp [hSame, ih]

theorem step_mask (first : PathStep) (h : first.isOpen hides = true) (value : Value) :
    (mask hides value).step first = (value.step first).map (mask hides) := by
  cases first with
  | field key =>
      have hShown : hides key = false := by simpa [PathStep.isOpen] using h
      cases value with
      | object fields =>
          rw [mask]
          show Fields.get (maskFields hides fields) key = _
          rw [get_maskFields, hShown]
          rfl
      | _ => rfl
  | element index =>
      cases value with
      | array elements =>
          rw [mask, maskElements_eq_map]
          exact List.getElem?_map
      | _ => rfl

/-- Along a path that goes under no hidden key, the mask shows what is there. -/
theorem follow_mask (path : List PathStep) (h : ∀ step ∈ path, step.isOpen hides = true)
    (value : Value) :
    (mask hides value).follow path = (value.follow path).map (mask hides) := by
  induction path generalizing value with
  | nil => rfl
  | cons first rest ih =>
      obtain ⟨hFirst, hRest⟩ := List.forall_mem_cons.mp h
      rw [Value.follow, Value.follow, step_mask hides first hFirst]
      cases value.step first with
      | none => rfl
      | some inner => exact ih hRest inner

theorem follow_append (path : List PathStep) (last : PathStep) (value : Value) :
    value.follow (path ++ [last]) = (value.follow path).bind (Value.step last) := by
  induction path generalizing value with
  | nil =>
      rw [List.nil_append, Value.follow, Value.follow, Option.bind_some]
      cases value.step last <;> rfl
  | cons first rest ih =>
      rw [List.cons_append, Value.follow, Value.follow]
      cases value.step first with
      | none => rfl
      | some inner => exact ih inner

mutual

theorem mask_mask : ∀ value, mask hides (mask hides value) = mask hides value
  | .object fields => by rw [mask, mask, maskFields_maskFields fields]
  | .array values => by rw [mask, mask, maskElements_maskElements values]
  | .null => rfl
  | .bool _ => rfl
  | .number _ => rfl
  | .string _ => rfl

theorem maskElements_maskElements : ∀ values,
    maskElements hides (maskElements hides values) = maskElements hides values
  | [] => rfl
  | value :: rest => by
      rw [maskElements, maskElements, mask_mask value, maskElements_maskElements rest]

theorem maskFields_maskFields : ∀ fields,
    maskFields hides (maskFields hides fields) = maskFields hides fields
  | [] => rfl
  | (key, value) :: rest => by
      rw [maskFields, maskFields, maskFields_maskFields rest]
      split
      · rfl
      · rw [mask_mask value]

end
end Masks

/-- The path goes under no key that looks like a secret. -/
def IsOpenPath (path : List PathStep) : Prop :=
  ∀ step ∈ path, step.isOpen isSecretLikeKey = true

/-- What is redacted of a value and what is kept. -/
structure Redacts (value redacted : Value) : Prop where
  secret : ∀ path key, IsOpenPath path → isSecretLikeKey key = true →
    redacted.follow (path ++ [.field key]) =
      (value.follow (path ++ [.field key])).map fun _ => .string "[REDACTED]"
  scalar : ∀ path inner, IsOpenPath path → value.follow path = some inner →
    inner.isScalar = true → redacted.follow path = some inner
  array : ∀ path elements, IsOpenPath path → value.follow path = some (.array elements) →
    ∃ others, redacted.follow path = some (.array others) ∧ others.length = elements.length
  object : ∀ path fields, IsOpenPath path → value.follow path = some (.object fields) →
    ∃ others, redacted.follow path = some (.object others) ∧
      others.map Prod.fst = fields.map Prod.fst

theorem redacts_redactPayload (value : Value) : Redacts value (redactPayload value) := by
  rw [redactPayload_eq_mask]
  constructor
  · intro path key hOpen hKey
    rw [follow_append, follow_append, follow_mask _ path hOpen]
    cases value.follow path with
    | none => rfl
    | some inner =>
        cases inner with
        | object fields =>
            rw [Option.map_some, Option.bind_some, Option.bind_some, mask]
            show Fields.get (maskFields isSecretLikeKey fields) key = _
            rw [get_maskFields, hKey]
            rfl
        | _ => rfl
  · intro path inner hOpen hInner hScalar
    rw [follow_mask _ path hOpen, hInner]
    cases inner with
    | object _ => cases hScalar
    | array _ => cases hScalar
    | _ => rfl
  · intro path elements hOpen hElements
    rw [follow_mask _ path hOpen, hElements]
    exact ⟨_, by rw [Option.map_some, mask], by rw [maskElements_eq_map, List.length_map]⟩
  · intro path fields hOpen hFields
    rw [follow_mask _ path hOpen, hFields]
    exact ⟨_, by rw [Option.map_some, mask], keys_maskFields _ _⟩

/-- A bus with one subscriber, who keeps what it receives. -/
structure SubscribedBus where
  received : List BusEvent := []

instance : EventBus SubscribedBus :=
  ⟨fun bus event => ({ received := bus.received ++ [event] }, .ok 1)⟩

section
open Crates

def secretContact : ProposalEnvelope :=
  sampleProposal .qsoCreate 1 none
    (.object [("contacted_callsign", .string "W1AW"), ("mode", .string "CW"),
      ("password", .string "hunter2"), ("started_at", .string "2026-07-06T12:00:00Z"),
      ("station_callsign", .string "KE8YGW")])

def secretSubmission : Submission InMemoryLogbookEventStore SubscribedBus ProposalOutcome :=
  submitProposal sampleContact.context secretContact
    { freshEntityId := 2, event := sampleStamp 4 }

/-- The event carries the password in clear. -/
def showsPassword : BusEvent → Bool
  | .officialLogbookEvent event =>
      event.payload.follow [.field "password"] = some (.string "hunter2")
  | .runtime _ => false

end
end HamLogger
