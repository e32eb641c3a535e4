import Mathlib

/-! Numbers in a fixed count of bytes, the lowest byte first, and records of
such numbers one after the other. -/
namespace HamLogger.LittleEndian

/-- The lowest bytes of a number. -/
def encode : Nat → Nat → List UInt8
  | 0, _ => []
  | count + 1, value => UInt8.ofNat value :: encode count (value / 256)

def decode : List UInt8 → Nat
  | [] => 0
  | byte :: rest => byte.toNat + 256 * decode rest

@[simp] theorem length_encode (count value : Nat) : (encode count value).length = count := by
  induction count generalizing value with
  | zero => rfl
  | succ count ih => rw [encode, List.length_cons, ih]

theorem decode_encode (count value : Nat) :
    decode (encode count value) = value % 256 ^ count := by
  induction count generalizing value with
  | zero => simp [encode, decode, Nat.mod_one]
  | succ count ih =>
      have hByte : (UInt8.ofNat value).toNat = value % 256 := UInt8.toNat_ofNat' ..
      rw [encode, decode, ih, hByte, Nat.pow_succ', Nat.mod_mul]

theorem decode_encode_of_lt {count value : Nat} (h : value < 256 ^ count) :
    decode (encode count value) = value := by
  rw [decode_encode, Nat.mod_eq_of_lt h]

/-- Read a number from the front of a text, and what comes after it. -/
def readNumber (count : Nat) (bytes : List UInt8) : Option (Nat × List UInt8) :=
  if count ≤ bytes.length then some (decode (bytes.take count), bytes.drop count) else none

theorem readNumber_encode {count value : Nat} (h : value < 256 ^ count) (rest : List UInt8) :
    readNumber count (encode count value ++ rest) = some (value, rest) := by
  have hLength := length_encode count value
  unfold readNumber
  rw [if_pos (by simp), List.take_left' hLength, List.drop_left' hLength, decode_encode_of_lt h]

/-- Read a given number of bytes. -/
def readBytes (count : Nat) (bytes : List UInt8) : Option (List UInt8 × List UInt8) :=
  if count ≤ bytes.length then some (bytes.take count, bytes.drop count) else none

theorem readBytes_append (first rest : List UInt8) :
    readBytes first.length (first ++ rest) = some (first, rest) := by
  unfold readBytes
  rw [if_pos (by simp), List.take_left, List.drop_left]

/-- A record of numbers in the given counts of bytes. -/
def encodeAll (record : List (Nat × Nat)) : List UInt8 :=
  record.flatMap fun (count, value) => encode count value

def readAll : List Nat → List UInt8 → Option (List Nat × List UInt8)
  | [], bytes => some ([], bytes)
  | count :: counts, bytes =>
      (readNumber count bytes).bind fun (value, rest) =>
        (readAll counts rest).map fun (values, rest) => (value :: values, rest)

/-- A record is read back if its numbers fit. -/
theorem readAll_encodeAll {record : List (Nat × Nat)}
    (h : ∀ field ∈ record, field.2 < 256 ^ field.1) (rest : List UInt8) :
    readAll (record.map Prod.fst) (encodeAll record ++ rest) =
      some (record.map Prod.snd, rest) := by
  induction record with
  | nil => rfl
  | cons field fields ih =>
      have hField := h field List.mem_cons_self
      have hFields := ih fun other hMem => h other (List.mem_cons_of_mem field hMem)
      have hSplit : encodeAll (field :: fields) ++ rest =
          encode field.1 field.2 ++ (encodeAll fields ++ rest) := by
        simp [encodeAll]
      rw [hSplit, List.map_cons, readAll, readNumber_encode hField, Option.bind_some]
      change (readAll (fields.map Prod.fst) (encodeAll fields ++ rest)).map _ = _
      rw [hFields]
      rfl

@[simp] theorem length_encodeAll (record : List (Nat × Nat)) :
    (encodeAll record).length = (record.map Prod.fst).sum := by
  induction record with
  | nil => rfl
  | cons field fields ih =>
      have hSplit : encodeAll (field :: fields) = encode field.1 field.2 ++ encodeAll fields := by
        simp [encodeAll]
      rw [hSplit, List.length_append, length_encode, ih]
      simp

end HamLogger.LittleEndian
