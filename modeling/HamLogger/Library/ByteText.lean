import Mathlib.Data.List.Basic

/-! Text whose positions are counted in bytes of its UTF-8 form, as Rust
strings are. A position inside a character is no place where text can be cut. -/
namespace HamLogger.ByteText

/-- The length of a text in bytes. -/
def byteLength : List Char → Nat
  | [] => 0
  | c :: rest => c.utf8Size + byteLength rest

@[simp] theorem byteLength_nil : byteLength [] = 0 := rfl

@[simp] theorem byteLength_cons (c : Char) (rest : List Char) :
    byteLength (c :: rest) = c.utf8Size + byteLength rest := rfl

@[simp] theorem byteLength_append (front back : List Char) :
    byteLength (front ++ back) = byteLength front + byteLength back := by
  induction front with
  | nil => simp
  | cons c rest ih => simp [ih, Nat.add_assoc]

theorem byteLength_eq_utf8ByteSize (text : List Char) :
    byteLength text = (String.ofList text).utf8ByteSize := by
  induction text with
  | nil => rfl
  | cons c rest ih =>
      have hCons : String.ofList (c :: rest) = String.singleton c ++ String.ofList rest := by
        rw [String.singleton_eq_ofList, ← String.ofList_append]
        rfl
      rw [byteLength_cons, hCons, String.utf8ByteSize_append, String.utf8ByteSize_singleton, ih]

@[simp] theorem byteLength_toList (text : String) :
    byteLength text.toList = text.utf8ByteSize := by
  rw [byteLength_eq_utf8ByteSize, String.ofList_toList]

/-- Characters of one byte each. -/
theorem byteLength_of_ascii {text : List Char} (h : ∀ c ∈ text, c.utf8Size = 1) :
    byteLength text = text.length := by
  induction text with
  | nil => rfl
  | cons c rest ih =>
      have hRest := ih fun other hMem => h other (List.mem_cons_of_mem c hMem)
      rw [byteLength_cons, List.length_cons, h c List.mem_cons_self, hRest, Nat.add_comm]

/-- Cut a text after a number of bytes, which fails past its end and inside a
character. -/
def splitBytes : Nat → List Char → Option (List Char × List Char)
  | 0, text => some ([], text)
  | _ + 1, [] => none
  | count + 1, c :: rest =>
      if c.utf8Size ≤ count + 1 then
        (splitBytes (count + 1 - c.utf8Size) rest).map fun (front, back) => (c :: front, back)
      else none

theorem splitBytes_append (front back : List Char) :
    splitBytes (byteLength front) (front ++ back) = some (front, back) := by
  induction front with
  | nil => simp [splitBytes]
  | cons c rest ih =>
      have hSize := c.utf8Size_pos
      obtain ⟨count, hCount⟩ : ∃ count, c.utf8Size + byteLength rest = count + 1 :=
        ⟨c.utf8Size + byteLength rest - 1, by omega⟩
      have hFits : c.utf8Size ≤ count + 1 := by omega
      have hLeft : count + 1 - c.utf8Size = byteLength rest := by omega
      rw [byteLength_cons, hCount, List.cons_append, splitBytes, if_pos hFits, hLeft, ih]
      rfl

theorem splitBytes_eq_some_iff {count : Nat} {text front back : List Char} :
    splitBytes count text = some (front, back) ↔
      text = front ++ back ∧ byteLength front = count := by
  constructor
  · intro h
    induction text generalizing count front with
    | nil =>
        cases count with
        | zero =>
            obtain ⟨rfl, rfl⟩ := Prod.mk.inj (Option.some.inj h)
            exact ⟨rfl, rfl⟩
        | succ count => cases h
    | cons c rest ih =>
        cases count with
        | zero =>
            obtain ⟨rfl, rfl⟩ := Prod.mk.inj (Option.some.inj h)
            exact ⟨rfl, rfl⟩
        | succ count =>
            rw [splitBytes] at h
            split at h
            · rename_i hFits
              obtain ⟨⟨first, other⟩, hRest, hPair⟩ := Option.map_eq_some_iff.mp h
              obtain ⟨rfl, rfl⟩ := Prod.mk.inj hPair
              obtain ⟨rfl, hLength⟩ := ih hRest
              refine ⟨rfl, ?_⟩
              rw [byteLength_cons, hLength]
              omega
            · cases h
  · rintro ⟨rfl, rfl⟩
    exact splitBytes_append front back

/-- Cut a text at the first place where a character stands, which is dropped. -/
def splitOnce (delimiter : Char) : List Char → Option (List Char × List Char)
  | [] => none
  | c :: rest =>
      if c = delimiter then some ([], rest)
      else (splitOnce delimiter rest).map fun (front, back) => (c :: front, back)

theorem splitOnce_append {delimiter : Char} {front : List Char} (h : delimiter ∉ front)
    (back : List Char) :
    splitOnce delimiter (front ++ delimiter :: back) = some (front, back) := by
  induction front with
  | nil => simp [splitOnce]
  | cons c rest ih =>
      have hFirst : c ≠ delimiter := fun hSame => h (by simp [hSame])
      have hRest : delimiter ∉ rest := fun hMem => h (List.mem_cons_of_mem c hMem)
      rw [List.cons_append, splitOnce, if_neg hFirst, ih hRest]
      rfl

theorem splitOnce_eq_some_iff {delimiter : Char} {text front back : List Char} :
    splitOnce delimiter text = some (front, back) ↔
      text = front ++ delimiter :: back ∧ delimiter ∉ front := by
  constructor
  · intro h
    induction text generalizing front with
    | nil => cases h
    | cons c rest ih =>
        rw [splitOnce] at h
        split at h
        · rename_i hSame
          obtain ⟨rfl, rfl⟩ := Prod.mk.inj (Option.some.inj h)
          exact ⟨by rw [hSame]; rfl, List.not_mem_nil⟩
        · rename_i hOther
          obtain ⟨⟨first, other⟩, hRest, hPair⟩ := Option.map_eq_some_iff.mp h
          obtain ⟨rfl, rfl⟩ := Prod.mk.inj hPair
          obtain ⟨rfl, hAbsent⟩ := ih hRest
          refine ⟨rfl, fun hMem => ?_⟩
          rcases List.mem_cons.mp hMem with hFirst | hLater
          · exact hOther hFirst.symm
          · exact hAbsent hLater
  · rintro ⟨rfl, h⟩
    exact splitOnce_append h back

theorem splitOnce_eq_none_iff {delimiter : Char} {text : List Char} :
    splitOnce delimiter text = none ↔ delimiter ∉ text := by
  induction text with
  | nil => simp [splitOnce]
  | cons c rest ih =>
      by_cases hSame : c = delimiter
      · simp [splitOnce, hSame]
      · have hOther : delimiter ≠ c := fun h => hSame h.symm
        simp [splitOnce, hSame, hOther, ih]

/-- What follows the cut is shorter than the text. -/
theorem length_of_splitOnce {delimiter : Char} {text front back : List Char}
    (h : splitOnce delimiter text = some (front, back)) : back.length < text.length := by
  obtain ⟨rfl, _⟩ := splitOnce_eq_some_iff.mp h
  simp
  omega

theorem length_of_splitBytes {count : Nat} {text front back : List Char}
    (h : splitBytes count text = some (front, back)) : back.length ≤ text.length := by
  obtain ⟨rfl, _⟩ := splitBytes_eq_some_iff.mp h
  simp

end HamLogger.ByteText
