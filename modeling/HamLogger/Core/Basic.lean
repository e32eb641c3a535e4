import Mathlib.Data.BitVec
import Mathlib.Data.List.Infix
import Mathlib.Data.List.TakeWhile

/-! Values shared by the whole core: identifiers, instants, outcomes that may
panic, and the functions of the crates the core links against. The crates are
not part of the repository, so their functions are parameters. -/
namespace HamLogger

/-- A 128-bit identifier. -/
abbrev Uuid := BitVec 128

instance : DecidableEq Uuid := inferInstanceAs (DecidableEq (BitVec 128))
instance : LawfulBEq Uuid := inferInstance

/-- An instant of the chrono crate in UTC, in nanoseconds since the epoch.
Only instants inside the range of the crate can be built. -/
structure DateTime where
  nanos : Int
  lower : -8334601315200 * 1000000000 ≤ nanos
  upper : nanos ≤ 8210266876799 * 1000000000 + 999999999
  deriving DecidableEq

namespace DateTime

instance : LE DateTime := ⟨fun a b => a.nanos ≤ b.nanos⟩
instance : LT DateTime := ⟨fun a b => a.nanos < b.nanos⟩

instance (a b : DateTime) : Decidable (a ≤ b) := inferInstanceAs (Decidable (a.nanos ≤ b.nanos))
instance (a b : DateTime) : Decidable (a < b) := inferInstanceAs (Decidable (a.nanos < b.nanos))

/-- Adding whole seconds leaves the range of the crate or gives an instant. -/
def addSeconds (now : DateTime) (seconds : Int) : Option DateTime :=
  if h : -8334601315200 * 1000000000 ≤ now.nanos + seconds * 1000000000 ∧
      now.nanos + seconds * 1000000000 ≤ 8210266876799 * 1000000000 + 999999999 then
    some ⟨now.nanos + seconds * 1000000000, h.1, h.2⟩
  else none

theorem addSeconds_nanos {now later : DateTime} {seconds : Int}
    (h : now.addSeconds seconds = some later) :
    later.nanos = now.nanos + seconds * 1000000000 := by
  unfold addSeconds at h
  split at h
  · obtain rfl := Option.some.inj h
    rfl
  · cases h

end DateTime

/-- How a call that does not return a value ends. -/
inductive Fault (ε : Type) where
  | error (error : ε)
  | panic
  deriving DecidableEq

/-- The outcome of code that can panic as well as return an error. -/
abbrev Outcome (ε α : Type) := Except (Fault ε) α

namespace Outcome
variable {ε δ α : Type}

/-- Lift the outcome of code that cannot panic. -/
def ofExcept : Except ε α → Outcome ε α
  | .ok value => .ok value
  | .error error => .error (.error error)

/-- Convert the error, as `map_err` and the question mark operator do. -/
def mapError (convert : ε → δ) : Outcome ε α → Outcome δ α
  | .ok value => .ok value
  | .error (.error error) => .error (.error (convert error))
  | .error .panic => .error .panic

@[simp] theorem ofExcept_ok (value : α) : ofExcept (.ok value : Except ε α) = .ok value := rfl

@[simp] theorem ofExcept_error (error : ε) :
    ofExcept (.error error : Except ε α) = .error (.error error) := rfl

@[simp] theorem mapError_ok (convert : ε → δ) (value : α) :
    mapError convert (.ok value : Outcome ε α) = .ok value := rfl

end Outcome

/-- A sequence of two computations returns exactly when both return. -/
theorem except_bind_eq_ok_iff {ε α β : Type} (first : Except ε α) (next : α → Except ε β)
    (value : β) :
    (first >>= next) = .ok value ↔ ∃ middle, first = .ok middle ∧ next middle = .ok value := by
  cases first with
  | error error => simp [bind, Except.bind]
  | ok middle => simp [bind, Except.bind]

/-- It fails where one of the two fails. -/
theorem except_bind_eq_error_iff {ε α β : Type} (first : Except ε α) (next : α → Except ε β)
    (error : ε) :
    (first >>= next) = .error error ↔
      first = .error error ∨ ∃ middle, first = .ok middle ∧ next middle = .error error := by
  cases first with
  | error error => simp [bind, Except.bind]
  | ok middle => simp [bind, Except.bind]

theorem except_map_eq_ok_iff {ε α β : Type} (convert : α → β) (outcome : Except ε α)
    (value : β) :
    outcome.map convert = .ok value ↔ ∃ inner, outcome = .ok inner ∧ convert inner = value := by
  cases outcome <;> simp [Except.map]

theorem except_toOption_eq_some_iff {ε α : Type} (outcome : Except ε α) (value : α) :
    outcome.toOption = some value ↔ outcome = .ok value := by
  cases outcome <;> simp [Except.toOption]

/-- `Uuid::parse_str` and the `Display` instance of the uuid crate. -/
class UuidCrate where
  parseStr : String → Option Uuid
  display : Uuid → String

/-- The hyphenated form of an identifier has 36 characters and tells it from
the others. -/
structure DisplaysIdentifiers [UuidCrate] : Prop where
  length : ∀ id, (UuidCrate.display id).length = 36
  injective : Function.Injective UuidCrate.display

theorem DisplaysIdentifiers.toList_length [UuidCrate] (hDisplay : DisplaysIdentifiers)
    (left right : Uuid) :
    (UuidCrate.display left).toList.length = (UuidCrate.display right).toList.length := by
  rw [String.length_toList, String.length_toList, hDisplay.length, hDisplay.length]

/-- An identifier is told from the text after it. -/
theorem DisplaysIdentifiers.append_inj [UuidCrate] (hDisplay : DisplaysIdentifiers)
    {left right : Uuid} {first second : String}
    (h : UuidCrate.display left ++ "-" ++ first = UuidCrate.display right ++ "-" ++ second) :
    left = right ∧ first = second := by
  have hText := congrArg String.toList h
  simp only [String.toList_append, List.append_assoc] at hText
  obtain ⟨hStart, hEnd⟩ := List.append_inj hText (hDisplay.toList_length left right)
  have hRest := List.append_cancel_left hEnd
  exact ⟨hDisplay.injective (String.toList_injective hStart), String.toList_injective hRest⟩

/-- `DateTime::parse_from_rfc3339` of the chrono crate, converted to UTC. -/
class ChronoCrate where
  parseFromRfc3339 : String → Option DateTime

/-- `Sha256::digest` of the sha2 crate. -/
class Sha2Crate where
  digest : List UInt8 → List UInt8

/-- The `Debug` form of a string, which needs the Unicode tables of the
standard library to decide what is printable. -/
class RustFmt where
  debugStr : String → String

/-- The `Debug` form of an optional string. -/
def debugOptionStr [RustFmt] : Option String → String
  | none => "None"
  | some text => "Some(" ++ RustFmt.debugStr text ++ ")"

def hexDigit (value : Nat) : Char :=
  if value < 10 then Char.ofNat (48 + value) else Char.ofNat (87 + value)

/-- Lowercase hexadecimal, two digits for each byte. -/
def bytesToHex (bytes : List UInt8) : String :=
  String.ofList (bytes.flatMap fun byte =>
    [hexDigit (byte.toNat / 16), hexDigit (byte.toNat % 16)])

/-- The Unicode `White_Space` property, as `char::is_whitespace` uses it. -/
def isWhitespace (c : Char) : Bool :=
  let code := c.toNat
  (9 ≤ code && code ≤ 13) || code = 0x20 || code = 0x85 || code = 0xA0 || code = 0x1680 ||
    (0x2000 ≤ code && code ≤ 0x200A) || code = 0x2028 || code = 0x2029 || code = 0x202F ||
    code = 0x205F || code = 0x3000

/-- `str::trim`. -/
def trim (text : String) : String :=
  String.ofList ((text.toList.dropWhile isWhitespace).reverse.dropWhile isWhitespace).reverse

/-- A character that is not white space is not trimmed away with all the rest. -/
theorem trim_ne_empty {text : String} {c : Char} (hMem : c ∈ text.toList)
    (hVisible : isWhitespace c = false) : trim text ≠ "" := by
  intro hEmpty
  have hNil := congrArg String.toList hEmpty
  rw [trim, String.toList_ofList] at hNil
  have hBack : (text.toList.dropWhile isWhitespace).reverse.dropWhile isWhitespace = [] :=
    List.reverse_eq_nil_iff.mp hNil
  have hAll := List.dropWhile_eq_nil_iff.mp hBack
  have hFront : text.toList.dropWhile isWhitespace = [] := by
    cases hRest : text.toList.dropWhile isWhitespace with
    | nil => rfl
    | cons first rest =>
        have hFirst := hAll first (by rw [hRest]; simp)
        have hHead := List.head?_dropWhile_not isWhitespace text.toList
        rw [hRest] at hHead
        simp [hFirst] at hHead
  have hSpace := List.dropWhile_eq_nil_iff.mp hFront c hMem
  rw [hVisible] at hSpace
  cases hSpace

/-- `str::to_ascii_lowercase`. -/
def toAsciiLowercase (text : String) : String :=
  String.ofList (text.toList.map Char.toLower)

/-- `str::to_ascii_uppercase`. -/
def toAsciiUppercase (text : String) : String :=
  String.ofList (text.toList.map Char.toUpper)

/-- `str::eq_ignore_ascii_case`. -/
def eqIgnoreAsciiCase (first second : String) : Bool :=
  toAsciiLowercase first = toAsciiLowercase second

/-- A text occurs in another one. -/
def containsText (text part : String) : Bool :=
  decide (part.toList <:+: text.toList)

/-- `str::parse` for a 64-bit signed integer. -/
def parseI64 (text : String) : Option Int :=
  let (negative, digits) := match text.toList with
    | '-' :: rest => (true, rest)
    | '+' :: rest => (false, rest)
    | all => (false, all)
  if digits = [] ∨ digits.any (fun digit => !digit.isDigit) then none
  else
    let magnitude : Int :=
      (digits.foldl (fun total digit => total * 10 + (digit.toNat - 48)) 0 : Nat)
    let value := if negative then -magnitude else magnitude
    if -9223372036854775808 ≤ value ∧ value ≤ 9223372036854775807 then some value else none

end HamLogger
