import HamLogger.Core.AdifContact
import HamLogger.Core.Contest
import HamLogger.Core.TextForms
import HamLogger.Library.ByteText

/-! An exchange after the checks of a contest: every value in one form, so that
exchanges that mean the same compare as the same. -/
namespace HamLogger

open ByteText (byteLength_of_ascii byteLength_toList)

/-! Numbers in their decimal form. -/

theorem toList_toString_nat (number : Nat) :
    (toString number).toList = Nat.toDigits 10 number := by
  rw [Nat.toString_eq_ofList_toDigits, String.toList_ofList]

theorem isDigit_of_mem_toString {number : Nat} {c : Char} (h : c ∈ (toString number).toList) :
    c.isDigit = true := by
  rw [toList_toString_nat] at h
  exact Nat.isDigit_of_mem_toDigits (by decide) (by decide) h

theorem digitsValue_toDigits (number : Nat) :
    (Nat.toDigits 10 number).foldl (fun total digit => total * 10 + (digit.toNat - 48)) 0 =
      number := by
  have hValue := Nat.ofDigitChars_ten_toDigits (n := number)
  rw [Nat.ofDigitChars_eq_foldl] at hValue
  simpa [Nat.mul_comm] using hValue

theorem digit_ne_plus {c : Char} (h : c.isDigit = true) : c ≠ '+' := by
  rintro rfl
  cases h

theorem digit_ne_minus {c : Char} (h : c.isDigit = true) : c ≠ '-' := by
  rintro rfl
  cases h

theorem isAlpha_of_isDigit {c : Char} (h : c.isDigit = true) : c.isAlpha = false := by
  rw [Char.isDigit_iff_between] at h
  rw [← Bool.not_eq_true, Char.isAlpha_iff_between]
  omega

theorem parseU32_toString (number : UInt32) : parseU32 (toString number) = some number := by
  have hDigits : ∀ c ∈ Nat.toDigits 10 number.toNat, c.isDigit = true := fun c hMem =>
    Nat.isDigit_of_mem_toDigits (by decide) (by decide) hMem
  have hText : (toString number).toList = Nat.toDigits 10 number.toNat :=
    toList_toString_nat number.toNat
  unfold parseU32
  rw [hText]
  split
  · rename_i rest hPlus
    exact absurd rfl (digit_ne_plus (hDigits '+' (by rw [hPlus]; simp)))
  · dsimp only
    rw [digitsValue_toDigits,
      if_pos ⟨Nat.toDigits_ne_nil, List.all_eq_true.mpr hDigits, number.toNat_lt⟩]
    simp

theorem parseI64_toString {number : Int} (hLow : -9223372036854775808 ≤ number)
    (hHigh : number ≤ 9223372036854775807) : parseI64 (toString number) = some number := by
  have hDigits : ∀ size, ∀ c ∈ Nat.toDigits 10 size, c.isDigit = true := fun size c hMem =>
    Nat.isDigit_of_mem_toDigits (by decide) (by decide) hMem
  have hAny : ∀ size, ¬ (Nat.toDigits 10 size = [] ∨
      (Nat.toDigits 10 size).any (fun digit => !digit.isDigit) = true) := by
    rintro size (hNil | hBad)
    · exact Nat.toDigits_ne_nil hNil
    · obtain ⟨c, hMem, hNot⟩ := List.any_eq_true.mp hBad
      simp [hDigits size c hMem] at hNot
  unfold parseI64
  cases number with
  | ofNat size =>
      have hText : (toString (Int.ofNat size)).toList = Nat.toDigits 10 size :=
        toList_toString_nat size
      rw [hText]
      split
      rename_i negative digits hSplit
      split at hSplit
      · rename_i rest hMinus
        exact absurd rfl (digit_ne_minus (hDigits size '-' (by rw [hMinus]; simp)))
      · rename_i rest hPlus
        exact absurd rfl (digit_ne_plus (hDigits size '+' (by rw [hPlus]; simp)))
      · obtain ⟨rfl, rfl⟩ := Prod.mk.inj hSplit
        rw [if_neg (hAny size), digitsValue_toDigits]
        exact if_pos ⟨hLow, hHigh⟩
  | negSucc size =>
      have hText : (toString (Int.negSucc size)).toList = '-' :: Nat.toDigits 10 (size + 1) := by
        change ("-" ++ toString (size + 1)).toList = _
        rw [String.toList_append, toList_toString_nat]
        rfl
      rw [hText]
      split
      rename_i negative digits hSplit
      obtain ⟨rfl, rfl⟩ := Prod.mk.inj hSplit
      rw [if_neg (hAny (size + 1)), digitsValue_toDigits]
      exact if_pos ⟨hLow, hHigh⟩

/-- A text that reads as a number has no letter. -/
theorem isAlpha_of_parseU32 {text : String} {number : UInt32} (h : parseU32 text = some number) :
    ∀ c ∈ text.toList, c.isAlpha = false := by
  unfold parseU32 at h
  dsimp only at h
  split at h
  · rename_i rest hPlus
    split at h
    · rename_i hAll
      intro c hMem
      rw [hPlus] at hMem
      rcases List.mem_cons.mp hMem with rfl | hRest
      · rfl
      · exact isAlpha_of_isDigit (List.all_eq_true.mp hAll.2.1 c hRest)
    · cases h
  · split at h
    · rename_i hAll
      exact fun c hMem => isAlpha_of_isDigit (List.all_eq_true.mp hAll.2.1 c hMem)
    · cases h

theorem isAlpha_of_parseI64 {text : String} {number : Int} (h : parseI64 text = some number) :
    ∀ c ∈ text.toList, c.isAlpha = false := by
  unfold parseI64 at h
  split at h
  rename_i negative digits hSplit
  split at h
  · cases h
  · rename_i hAll
    have hDigit : ∀ c ∈ digits, c.isDigit = true := by
      intro c hMem
      by_contra hBad
      exact hAll (.inr (List.any_eq_true.mpr ⟨c, hMem, by simpa using hBad⟩))
    intro c hMem
    split at hSplit
    · rename_i rest hMinus
      obtain ⟨_, rfl⟩ := Prod.mk.inj hSplit
      rw [hMinus] at hMem
      rcases List.mem_cons.mp hMem with rfl | hRest
      · rfl
      · exact isAlpha_of_isDigit (hDigit c hRest)
    · rename_i rest hPlus
      obtain ⟨_, rfl⟩ := Prod.mk.inj hSplit
      rw [hPlus] at hMem
      rcases List.mem_cons.mp hMem with rfl | hRest
      · rfl
      · exact isAlpha_of_isDigit (hDigit c hRest)
    · obtain ⟨_, rfl⟩ := Prod.mk.inj hSplit
      exact isAlpha_of_isDigit (hDigit c hMem)

/-- A reading that fails on letters cannot tell the case of letters. -/
theorem parse_congr {α : Type} {parse : String → Option α}
    (hPlain : ∀ text value, parse text = some value → ∀ c ∈ text.toList, c.isAlpha = false)
    {first second : String} (h : toAsciiLowercase first = toAsciiLowercase second) :
    parse first = parse second := by
  cases hFirst : parse first with
  | some value => rw [← eq_of_caseless h (hPlain first value hFirst), hFirst]
  | none =>
      cases hSecond : parse second with
      | none => rfl
      | some value =>
          rw [eq_of_caseless h.symm (hPlain second value hSecond), hFirst] at hSecond
          cases hSecond

/-! Grid squares. -/

theorem isAlphanum_of_gridClass {index : Nat} {c : Char} (h : gridClass index c = true) :
    c.isAlphanum = true := by
  rw [Char.isAlphanum, Bool.or_eq_true]
  unfold gridClass at h
  split at h <;> simp [h]

theorem gridClass_toLower (index : Nat) (c : Char) :
    gridClass index c.toLower = gridClass index c := by
  unfold gridClass
  split <;> simp only [Char.isAlpha_toLower, Char.isDigit_toLower]

theorem gridClass_gridCase (index : Nat) (c : Char) :
    gridClass index (gridCase index c) = gridClass index c := by
  unfold gridClass gridCase
  split <;> simp only [Char.isAlpha_toLower, Char.isAlpha_toUpper]

theorem gridCase_gridCase (index : Nat) (c : Char) :
    gridCase index (gridCase index c) = gridCase index c := by
  unfold gridCase
  split <;> simp only [Char.toUpper_idem, Char.toLower_idem]

/-- The case of a digit is not changed, so the case of a letter does not show. -/
theorem gridCase_toLower {index : Nat} {c : Char} (h : gridClass index c = true) :
    gridCase index c.toLower = gridCase index c := by
  unfold gridClass at h
  unfold gridCase
  split at h
  · exact Char.toUpper_toLower c
  · exact Char.toUpper_toLower c
  · exact (Char.eq_of_toLower_eq (Char.toLower_idem c).symm (isAlpha_of_isDigit h)).symm
  · exact (Char.eq_of_toLower_eq (Char.toLower_idem c).symm (isAlpha_of_isDigit h)).symm
  · exact Char.toLower_idem c
  · exact Char.toLower_idem c
  · rename_i h0 h1 _ _ h4 h5
    have hDigit := (Char.eq_of_toLower_eq (Char.toLower_idem c).symm (isAlpha_of_isDigit h)).symm
    split
    all_goals first | contradiction | exact hDigit

/-- The characters of a grid square stand where they have to. -/
def GridPlaces (characters : List Char) : Prop :=
  ∀ index c, characters[index]? = some c → gridClass index c = true

theorem gridPlaces_iff (characters : List Char) :
    (characters.zipIdx.all fun place => gridClass place.2 place.1) = true ↔
      GridPlaces characters := by
  rw [List.all_eq_true]
  constructor
  · intro h index c hAt
    exact h (c, index) (List.mem_zipIdx_iff_getElem?.mpr hAt)
  · intro h place hMem
    exact h place.2 place.1 (List.mem_zipIdx_iff_getElem?.mp hMem)

theorem GridPlaces.isAlphanum {characters : List Char} (h : GridPlaces characters) {c : Char}
    (hMem : c ∈ characters) : c.isAlphanum = true := by
  obtain ⟨index, hAt⟩ := List.mem_iff_getElem?.mp hMem
  exact isAlphanum_of_gridClass (h index c hAt)

/-- A text of characters of one byte is as long in bytes as in characters. -/
theorem utf8ByteSize_of_ascii {text : String} (h : ∀ c ∈ text.toList, c.utf8Size = 1) :
    text.utf8ByteSize = text.length := by
  rw [← byteLength_toList, byteLength_of_ascii h, String.length_toList]

theorem normalizeGrid_eq_some_iff (value grid : String) :
    normalizeGrid value = some grid ↔
      (trim value).length ∈ [4, 6, 8] ∧ GridPlaces (trim value).toList ∧
        grid = String.ofList ((trim value).toList.mapIdx gridCase) := by
  unfold normalizeGrid
  dsimp only
  rw [Option.ite_none_right_eq_some, and_assoc, gridPlaces_iff, Option.some.injEq,
    @eq_comm _ grid]
  have hSize : GridPlaces (trim value).toList →
      (trim value).utf8ByteSize = (trim value).length := fun hPlaces =>
    utf8ByteSize_of_ascii fun c hMem => Char.utf8Size_of_isAlphanum (hPlaces.isAlphanum hMem)
  constructor
  · rintro ⟨hLength, hPlaces, rfl⟩
    exact ⟨hSize hPlaces ▸ hLength, hPlaces, rfl⟩
  · rintro ⟨hLength, hPlaces, rfl⟩
    exact ⟨hSize hPlaces ▸ hLength, hPlaces, rfl⟩

theorem isWhitespace_of_isAlphanum {c : Char} (h : c.isAlphanum = true) :
    isWhitespace c = false := by
  rcases (Bool.or_eq_true _ _).mp h with hAlpha | hDigit
  · exact isWhitespace_of_isAlpha hAlpha
  · exact isWhitespace_of_isDigit hDigit

theorem GridPlaces.mapIdx {characters : List Char} (h : GridPlaces characters) :
    GridPlaces (characters.mapIdx gridCase) := by
  intro index c hAt
  rw [List.getElem?_mapIdx, Option.map_eq_some_iff] at hAt
  obtain ⟨d, hOld, rfl⟩ := hAt
  rw [gridClass_gridCase]
  exact h index d hOld

/-- A normalized grid square is normalized to itself. -/
theorem normalizeGrid_normalized {value grid : String} (h : normalizeGrid value = some grid) :
    normalizeGrid grid = some grid ∧ trim grid = grid := by
  obtain ⟨hLength, hPlaces, rfl⟩ := (normalizeGrid_eq_some_iff value grid).mp h
  have hMapped := hPlaces.mapIdx
  have hTrim : trim (String.ofList ((trim value).toList.mapIdx gridCase)) =
      String.ofList ((trim value).toList.mapIdx gridCase) :=
    trim_eq_self fun c hMem => isWhitespace_of_isAlphanum
      (hMapped.isAlphanum (by rwa [String.toList_ofList] at hMem))
  refine ⟨(normalizeGrid_eq_some_iff _ _).mpr ?_, hTrim⟩
  rw [hTrim, String.toList_ofList]
  refine ⟨?_, hMapped, ?_⟩
  · rwa [String.length_ofList, List.length_mapIdx, String.length_toList]
  · have hTwice : ((trim value).toList.mapIdx gridCase).mapIdx gridCase =
        (trim value).toList.mapIdx gridCase := by
      rw [List.mapIdx_mapIdx]
      exact List.mapIdx_eq_mapIdx_iff.mpr fun index hIndex => gridCase_gridCase index _
    rw [hTwice]

/-- The case of the letters does not show in a normalized grid square. -/
theorem normalizeGrid_congr {first second : String} (hFirst : trim first = first)
    (hSecond : trim second = second)
    (h : toAsciiLowercase first = toAsciiLowercase second) :
    normalizeGrid first = normalizeGrid second := by
  have hOne : ∀ {left right grid : String}, trim left = left → trim right = right →
      toAsciiLowercase left = toAsciiLowercase right → normalizeGrid left = some grid →
        normalizeGrid right = some grid := by
    intro left right grid hLeft hRight hLower hSome
    obtain ⟨hLength, hPlaces, rfl⟩ := (normalizeGrid_eq_some_iff left grid).mp hSome
    rw [hLeft] at hLength hPlaces ⊢
    have hMap := map_toLower_eq hLower
    have hSize : left.toList.length = right.toList.length := by
      have hEq := congrArg List.length hMap
      rwa [List.length_map, List.length_map] at hEq
    have hAt : ∀ index (hl : index < left.toList.length) (hr : index < right.toList.length),
        (left.toList[index]).toLower = (right.toList[index]).toLower := by
      intro index hl hr
      have hEq := congrArg (fun list => list[index]?) hMap
      simpa [hl, hr] using hEq
    have hClass : ∀ index (hr : index < right.toList.length),
        gridClass index right.toList[index] = true := by
      intro index hr
      have hl : index < left.toList.length := hSize ▸ hr
      rw [← gridClass_toLower, ← hAt index hl hr, gridClass_toLower]
      exact hPlaces index _ (List.getElem?_eq_getElem hl)
    rw [normalizeGrid_eq_some_iff, hRight]
    refine ⟨?_, fun index c hChar => ?_, ?_⟩
    · rw [String.length_toList] at hSize
      rwa [← String.length_toList, ← hSize]
    · obtain ⟨hr, rfl⟩ := List.getElem?_eq_some_iff.mp hChar
      exact hClass index hr
    · congr 1
      refine List.ext_getElem (by simpa using hSize) fun index hl hr => ?_
      rw [List.length_mapIdx] at hl hr
      rw [List.getElem_mapIdx, List.getElem_mapIdx, ← gridCase_toLower (hClass index hr),
        ← hAt index hl hr]
      exact (gridCase_toLower (hPlaces index _ (List.getElem?_eq_getElem hl))).symm
  cases hLeft : normalizeGrid first with
  | some grid => rw [hOne hFirst hSecond h hLeft]
  | none =>
      cases hRight : normalizeGrid second with
      | none => rfl
      | some grid =>
          rw [hOne hSecond hFirst h.symm hRight] at hLeft
          cases hLeft

/-! One value. -/

namespace ExchangeFieldKind

/-- What a stored value of each kind looks like. -/
def Satisfies : ExchangeFieldKind → String → Prop
  | .serial, value => ∃ number : UInt32, number ≠ 0 ∧ value = toString number
  | .rst, value =>
      2 ≤ value.length ∧ value.length ≤ 4 ∧ ∀ c ∈ value.toList, c.isDigit = true ∨ c = 'A'
  | .callsign, value =>
      3 ≤ value.length ∧ ∀ c ∈ value.toList, c.isUpper = true ∨ c.isDigit = true ∨ c = '/'
  | .grid, value => value.length ∈ [4, 6, 8] ∧ ∀ index c, value.toList[index]? = some c →
      gridClass index c = true ∧ gridCase index c = c
  | .text maxLen, value => value.length ≤ maxLen.toNat
  | .integer min max, value =>
      ∃ number : Int, min.toInt ≤ number ∧ number ≤ max.toInt ∧ value = toString number
  | .choice options, value => value ∈ options

/-- Two values of a kind that differ in the blanks around them or, unless the
kind is free text, in the case of ASCII letters. -/
def ReadsAlike : ExchangeFieldKind → String → String → Prop
  | .text _, first, second => trim first = trim second
  | _, first, second => toAsciiLowercase (trim first) = toAsciiLowercase (trim second)

theorem ReadsAlike.lower {kind : ExchangeFieldKind} {first second : String}
    (h : kind.ReadsAlike first second) :
    toAsciiLowercase (trim first) = toAsciiLowercase (trim second) := by
  cases kind with
  | text maxLen =>
      have hSame : trim first = trim second := h
      rw [hSame]
  | _ => exact h

end ExchangeFieldKind

/-- A value that its field normalizes to itself. -/
def Canonical (field : ExchangeField) (text : String) : Prop :=
  field.kind.Satisfies text ∧ trim text = text ∧ text ≠ "" ∧
    normalizeExchangeValue field text = .ok text

theorem isWhitespace_of_decimal {number : Nat} {c : Char} (h : c ∈ (toString number).toList) :
    isWhitespace c = false :=
  isWhitespace_of_isDigit (isDigit_of_mem_toString h)

theorem toString_int_cases (number : Int) :
    (∃ size : Nat, toString number = toString size) ∨
      ∃ size : Nat, toString number = "-" ++ toString size := by
  cases number with
  | ofNat size => exact .inl ⟨size, rfl⟩
  | negSucc size => exact .inr ⟨size + 1, rfl⟩

theorem toString_nat_ne_empty (number : Nat) : toString number ≠ "" := by
  intro hEmpty
  have hList := congrArg String.toList hEmpty
  rw [toList_toString_nat] at hList
  exact Nat.toDigits_ne_nil hList

theorem trim_toString_int (number : Int) :
    trim (toString number) = toString number ∧ toString number ≠ "" := by
  rcases toString_int_cases number with ⟨size, hText⟩ | ⟨size, hText⟩ <;> rw [hText]
  · exact ⟨trim_eq_self fun c hMem => isWhitespace_of_decimal hMem, toString_nat_ne_empty size⟩
  · refine ⟨trim_eq_self fun c hMem => ?_, fun hEmpty => ?_⟩
    · rw [String.toList_append] at hMem
      rcases List.mem_append.mp hMem with hSign | hRest
      · obtain rfl : c = '-' := List.mem_singleton.mp hSign
        decide
      · exact isWhitespace_of_decimal hRest
    · have hList := congrArg String.toList hEmpty
      rw [String.toList_append] at hList
      simp at hList

/-- The characters that an upper-case text keeps of a class are in upper case. -/
theorem toUpper_of_mem_toAsciiUppercase {text : String} {c : Char}
    (h : c ∈ (toAsciiUppercase text).toList) : c.toUpper = c := by
  rw [toAsciiUppercase, String.toList_ofList] at h
  obtain ⟨d, _, rfl⟩ := List.mem_map.mp h
  exact Char.toUpper_idem d

theorem isUpper_of_isAlpha {c : Char} (h : c.isAlpha = true) (hUpper : c.toUpper = c) :
    c.isUpper = true := by
  rw [Char.isAlpha_iff_between] at h
  have hCode := congrArg Char.toNat hUpper
  rw [Char.toNat_toUpper] at hCode
  have hRange : 65 ≤ c.toNat ∧ c.toNat ≤ 90 := by
    split_ifs at hCode <;> omega
  simpa [Char.isUpper, UInt32.le_iff_toNat_le] using hRange

theorem ne_empty_of_length {text : String} (h : 0 < text.length) : text ≠ "" := by
  rintro rfl
  cases h

theorem canonical_of_normalizeExchangeValue {field : ExchangeField} {value text : String}
    (hTrim : trim value = value) (hValue : value ≠ "")
    (h : normalizeExchangeValue field value = .ok text) : Canonical field text := by
  obtain ⟨key, label, kind, required⟩ := field
  cases kind with
  | serial =>
      simp only [normalizeExchangeValue] at h
      split at h
      · cases h
      · rename_i parsed hParsed
        split at h
        · cases h
        · rename_i hPositive
          obtain rfl := Except.ok.inj h
          have hText := trim_toString_int parsed.toNat
          refine ⟨⟨parsed, hPositive, rfl⟩, hText.1, hText.2, ?_⟩
          simp only [normalizeExchangeValue, parseU32_toString, if_neg hPositive]
  | rst =>
      simp only [normalizeExchangeValue] at h
      split at h
      · rename_i hUsable
        obtain rfl := Except.ok.inj h
        obtain ⟨hLow, hHigh, hAll⟩ := hUsable
        have hChars : ∀ c ∈ (toAsciiUppercase value).toList, c.isDigit = true ∨ c = 'A' :=
          fun c hMem => by simpa using List.all_eq_true.mp hAll c hMem
        have hSize : (toAsciiUppercase value).utf8ByteSize = (toAsciiUppercase value).length := by
          refine utf8ByteSize_of_ascii fun c hMem => ?_
          rcases hChars c hMem with hDigit | rfl
          · exact Char.utf8Size_of_isAlphanum (by simp [Char.isAlphanum, hDigit])
          · rfl
        refine ⟨⟨hSize ▸ hLow, hSize ▸ hHigh, hChars⟩, trim_eq_self fun c hMem => ?_,
          ne_empty_of_length (by omega), ?_⟩
        · rcases hChars c hMem with hDigit | rfl
          · exact isWhitespace_of_isDigit hDigit
          · rfl
        · simp only [normalizeExchangeValue, toAsciiUppercase_idem]
          exact if_pos ⟨hLow, hHigh, hAll⟩
      · cases h
  | callsign =>
      simp only [normalizeExchangeValue] at h
      split at h
      · rename_i hUsable
        obtain rfl := Except.ok.inj h
        obtain ⟨hLow, hAll⟩ := hUsable
        have hChars : ∀ c ∈ (toAsciiUppercase value).toList, c.isAlphanum = true ∨ c = '/' :=
          fun c hMem => by simpa using List.all_eq_true.mp hAll c hMem
        have hSize : (toAsciiUppercase value).utf8ByteSize = (toAsciiUppercase value).length := by
          refine utf8ByteSize_of_ascii fun c hMem => ?_
          rcases hChars c hMem with hPlain | rfl
          · exact Char.utf8Size_of_isAlphanum hPlain
          · rfl
        refine ⟨⟨hSize ▸ hLow, fun c hMem => ?_⟩, trim_eq_self fun c hMem => ?_,
          ne_empty_of_length (by omega), ?_⟩
        · rcases hChars c hMem with hPlain | hSlash
          · rcases (Bool.or_eq_true _ _).mp hPlain with hAlpha | hDigit
            · exact .inl (isUpper_of_isAlpha hAlpha (toUpper_of_mem_toAsciiUppercase hMem))
            · exact .inr (.inl hDigit)
          · exact .inr (.inr hSlash)
        · rcases hChars c hMem with hPlain | rfl
          · exact isWhitespace_of_isAlphanum hPlain
          · rfl
        · simp only [normalizeExchangeValue, toAsciiUppercase_idem]
          exact if_pos ⟨hLow, hAll⟩
      · cases h
  | grid =>
      simp only [normalizeExchangeValue] at h
      split at h
      · cases h
      · rename_i normalized hGrid
        obtain rfl := Except.ok.inj h
        obtain ⟨hAgain, hBare⟩ := normalizeGrid_normalized hGrid
        obtain ⟨hLength, hPlaces, hFixed⟩ := (normalizeGrid_eq_some_iff _ _).mp hAgain
        rw [hBare] at hLength hPlaces hFixed
        refine ⟨⟨hLength, fun index c hAt => ⟨hPlaces index c hAt, ?_⟩⟩, hBare,
          ne_empty_of_length ?_, ?_⟩
        · have hList := congrArg (fun text => text.toList[index]?) hFixed
          simp only [String.toList_ofList, List.getElem?_mapIdx, hAt, Option.map_some] at hList
          exact (Option.some.inj hList).symm
        · simp only [List.mem_cons, List.not_mem_nil, or_false] at hLength
          omega
        · simp only [normalizeExchangeValue, hAgain]
  | text maxLen =>
      simp only [normalizeExchangeValue] at h
      split at h
      · cases h
      · rename_i hLength
        obtain rfl := Except.ok.inj h
        refine ⟨Nat.le_of_not_lt hLength, hTrim, hValue, ?_⟩
        simp only [normalizeExchangeValue, if_neg hLength]
  | integer min max =>
      simp only [normalizeExchangeValue] at h
      split at h
      · cases h
      · rename_i parsed hParsed
        split at h
        · cases h
        · rename_i hRange
          obtain rfl := Except.ok.inj h
          have hBounds : min.toInt ≤ parsed ∧ parsed ≤ max.toInt := by omega
          have hText := trim_toString_int parsed
          have hLow := Int64.le_toInt min
          have hHigh := Int64.toInt_lt max
          refine ⟨⟨parsed, hBounds.1, hBounds.2, rfl⟩, hText.1, hText.2, ?_⟩
          simp only [normalizeExchangeValue,
            @parseI64_toString parsed (by omega) (by omega), if_neg hRange]
  | choice options =>
      simp only [normalizeExchangeValue] at h
      split at h
      · cases h
      · rename_i option hFound
        obtain rfl := Except.ok.inj h
        have hLower : toAsciiLowercase option = toAsciiLowercase value := by
          simpa [eqIgnoreAsciiCase] using List.find?_some hFound
        -- the option stands without blanks since the value it answers does
        refine ⟨List.mem_of_find?_eq_some hFound, trim_eq_self_congr hLower.symm hTrim, ?_, ?_⟩
        · rintro rfl
          have hLength := congrArg String.length hLower
          rw [length_toAsciiLowercase, length_toAsciiLowercase] at hLength
          exact hValue (String.length_eq_zero_iff.mp hLength.symm)
        · have hSame : (options.find? fun other => eqIgnoreAsciiCase other option) =
              options.find? fun other => eqIgnoreAsciiCase other value := by
            simp only [eqIgnoreAsciiCase, hLower]
          simp only [normalizeExchangeValue, hSame, hFound]

theorem normalizeExchangeValue_congr {field : ExchangeField} {first second : String}
    (h : field.kind.ReadsAlike first second) :
    normalizeExchangeValue field (trim first) = normalizeExchangeValue field (trim second) := by
  have hLower := h.lower
  obtain ⟨key, label, kind, required⟩ := field
  cases kind with
  | serial =>
      simp only [normalizeExchangeValue, parse_congr (fun _ _ => isAlpha_of_parseU32) hLower]
  | rst => simp only [normalizeExchangeValue, toAsciiUppercase_congr hLower]
  | callsign => simp only [normalizeExchangeValue, toAsciiUppercase_congr hLower]
  | grid =>
      simp only [normalizeExchangeValue,
        normalizeGrid_congr (trim_trim first) (trim_trim second) hLower]
  | text maxLen =>
      have hSame : trim first = trim second := h
      rw [hSame]
  | integer min max =>
      simp only [normalizeExchangeValue, parse_congr (fun _ _ => isAlpha_of_parseI64) hLower]
  | choice options => simp only [normalizeExchangeValue, eqIgnoreAsciiCase, hLower]

/-! The whole exchange. -/

namespace ContestDefinition
variable {values normalized : KeyMap String String}

theorem unknownKey_eq_none_iff (fields : List ExchangeField) (values : KeyMap String String) :
    unknownKey fields values = none ↔
      ∀ key text, values.lookup key = some text → ∃ field ∈ fields, field.key = key := by
  rw [unknownKey, List.find?_eq_none]
  have hKeys : ∀ key, key ∈ values.keys.insertionSort (· ≤ ·) ↔
      (values.lookup key).isSome = true := fun key => by
    rw [List.mem_insertionSort, ← AList.mem_keys, AList.lookup_isSome]
  constructor
  · intro h key text hLookup
    have hKnown := h key ((hKeys key).mpr (by rw [hLookup]; rfl))
    simpa using hKnown
  · intro h key hMem
    obtain ⟨text, hLookup⟩ := Option.isSome_iff_exists.mp ((hKeys key).mp hMem)
    simpa using h key text hLookup

/-- What one declared field leaves in the normalized map. -/
def Leaves (values : KeyMap String String) (field : ExchangeField) (found : Option String) : Prop :=
  match rawValue values field with
  | none => field.required = false ∧ found = none
  | some value => ∃ text, normalizeExchangeValue field value = .ok text ∧ found = some text

/-- A step for one field sets its key and no other. -/
theorem normalizeField_eq_ok {field : ExchangeField} {result : KeyMap String String}
    (h : normalizeField values normalized field = .ok result)
    (hFresh : normalized.lookup field.key = none) :
    Leaves values field (result.lookup field.key) ∧
      ∀ key, key ≠ field.key → result.lookup key = normalized.lookup key := by
  unfold normalizeField at h
  unfold Leaves
  cases hRaw : rawValue values field with
  | none =>
      rw [hRaw] at h
      dsimp only at h
      split at h
      · cases h
      · rename_i hOptional
        obtain rfl := Except.ok.inj h
        exact ⟨⟨by simpa using hOptional, hFresh⟩, fun _ _ => rfl⟩
  | some value =>
      rw [hRaw] at h
      obtain ⟨text, hText, rfl⟩ := (except_map_eq_ok_iff _ _ _).mp h
      exact ⟨⟨text, hText, AList.lookup_insert _⟩, fun key hKey => AList.lookup_insert_ne hKey⟩

/-- The whole loop: every declared key holds what its field leaves. -/
theorem leaves_of_foldlM {fields : List ExchangeField} {result : KeyMap String String}
    (hNodup : (fields.map ExchangeField.key).Nodup)
    (hFresh : ∀ field ∈ fields, normalized.lookup field.key = none)
    (h : fields.foldlM (normalizeField values) normalized = .ok result) :
    (∀ field ∈ fields, Leaves values field (result.lookup field.key)) ∧
      ∀ key, (∀ field ∈ fields, field.key ≠ key) → result.lookup key = normalized.lookup key := by
  induction fields generalizing normalized with
  | nil =>
      obtain rfl := Except.ok.inj h
      exact ⟨fun _ hMem => absurd hMem List.not_mem_nil, fun _ _ => rfl⟩
  | cons field rest ih =>
      obtain ⟨hOut, hRestNodup⟩ := List.nodup_cons.mp hNodup
      obtain ⟨middle, hStep, hRest⟩ := (except_bind_eq_ok_iff _ _ _).mp h
      obtain ⟨hLeaves, hOthers⟩ := normalizeField_eq_ok hStep (hFresh field List.mem_cons_self)
      have hApart : ∀ other ∈ rest, other.key ≠ field.key := fun other hOther hKey =>
        hOut (List.mem_map.mpr ⟨other, hOther, hKey⟩)
      obtain ⟨hAll, hKeep⟩ := ih hRestNodup (fun other hOther => by
        rw [hOthers other.key (hApart other hOther)]
        exact hFresh other (List.mem_cons_of_mem _ hOther)) hRest
      refine ⟨fun other hMem => ?_, fun key hKey => ?_⟩
      · rcases List.mem_cons.mp hMem with rfl | hOther
        · rw [hKeep other.key hApart]
          exact hLeaves
        · exact hAll other hOther
      · rw [hKeep key fun other hOther => hKey other (List.mem_cons_of_mem _ hOther),
          hOthers key (hKey field List.mem_cons_self).symm]

theorem foldlM_congr {fields : List ExchangeField} {others : KeyMap String String}
    (hStep : ∀ field ∈ fields, ∀ middle,
      normalizeField values middle field = normalizeField others middle field)
    (start : KeyMap String String) :
    fields.foldlM (normalizeField values) start = fields.foldlM (normalizeField others) start := by
  induction fields generalizing start with
  | nil => rfl
  | cons field rest ih =>
      rw [List.foldlM_cons, List.foldlM_cons, hStep field List.mem_cons_self]
      congr 1
      funext middle
      exact ih (fun other hOther => hStep other (List.mem_cons_of_mem _ hOther)) middle

theorem trim_of_rawValue {field : ExchangeField} {value : String}
    (h : rawValue values field = some value) : trim value = value ∧ value ≠ "" := by
  obtain ⟨hSome, hValue⟩ := Option.filter_eq_some_iff.mp h
  obtain ⟨text, _, rfl⟩ := Option.map_eq_some_iff.mp hSome
  exact ⟨trim_trim text, by simpa using hValue⟩

/-- What a field leaves in the map, it leaves again when the map is checked. -/
theorem normalizeField_of_leaves {field : ExchangeField} {result : KeyMap String String}
    (h : Leaves values field (result.lookup field.key)) (middle : KeyMap String String) :
    normalizeField result middle field = normalizeField values middle field := by
  unfold Leaves at h
  cases hRaw : rawValue values field with
  | none =>
      rw [hRaw] at h
      have hAgain : rawValue result field = none := by rw [rawValue, h.2]; rfl
      rw [normalizeField, normalizeField, hRaw, hAgain]
  | some value =>
      rw [hRaw] at h
      obtain ⟨text, hText, hFound⟩ := h
      have hBare := trim_of_rawValue hRaw
      obtain ⟨_, hTrim, hNonempty, hAgain⟩ :=
        canonical_of_normalizeExchangeValue hBare.1 hBare.2 hText
      have hRawAgain : rawValue result field = some text := by
        rw [rawValue, hFound, Option.map_some, hTrim, Option.filter_some,
          if_pos (by simpa using hNonempty)]
      rw [normalizeField, normalizeField, hRaw, hRawAgain]
      dsimp only
      rw [hText, hAgain]

/-- Two exchanges that differ only in the blanks around their values or, outside
free text, in the case of ASCII letters. -/
def ReadsAlike (definition : ContestDefinition) (direction : ExchangeDirection)
    (first second : KeyMap String String) : Prop :=
  ∀ key, match first.lookup key, second.lookup key with
    | none, none => True
    | some left, some right => match definition.exchange.field direction key with
        | some field => field.kind.ReadsAlike left right
        | none => toAsciiLowercase (trim left) = toAsciiLowercase (trim right)
    | _, _ => False

theorem field_eq_some {definition : ContestDefinition} {direction : ExchangeDirection}
    (hNodup : ((definition.exchange.fields direction).map ExchangeField.key).Nodup)
    {field : ExchangeField} (hMem : field ∈ definition.exchange.fields direction) :
    definition.exchange.field direction field.key = some field := by
  unfold ContestExchange.field
  cases hFound : (definition.exchange.fields direction).find? fun other =>
      other.key = field.key with
  | none => exact absurd (decide_eq_true rfl) (List.find?_eq_none.mp hFound field hMem)
  | some other =>
      have hKey : other.key = field.key := by simpa using List.find?_some hFound
      rw [List.inj_on_of_nodup_map hNodup (List.mem_of_find?_eq_some hFound) hMem hKey]

theorem trim_eq_empty_congr {first second : String}
    (h : toAsciiLowercase first = toAsciiLowercase second) : first = "" ↔ second = "" := by
  have hLength := congrArg String.length h
  rw [length_toAsciiLowercase, length_toAsciiLowercase] at hLength
  rw [← String.length_eq_zero_iff, ← String.length_eq_zero_iff, hLength]

theorem normalizeField_congr {definition : ContestDefinition} {direction : ExchangeDirection}
    (hNodup : ((definition.exchange.fields direction).map ExchangeField.key).Nodup)
    {others : KeyMap String String} (h : definition.ReadsAlike direction values others)
    {field : ExchangeField} (hMem : field ∈ definition.exchange.fields direction)
    (middle : KeyMap String String) :
    normalizeField values middle field = normalizeField others middle field := by
  have hKey := h field.key
  rw [field_eq_some hNodup hMem] at hKey
  unfold normalizeField rawValue
  cases hFirst : values.lookup field.key with
  | none =>
      cases hSecond : others.lookup field.key with
      | none => rfl
      | some right => rw [hFirst, hSecond] at hKey; cases hKey
  | some left =>
      cases hSecond : others.lookup field.key with
      | none => rw [hFirst, hSecond] at hKey; cases hKey
      | some right =>
          rw [hFirst, hSecond] at hKey
          have hAlike : field.kind.ReadsAlike left right := hKey
          rw [Option.map_some, Option.map_some, Option.filter_some, Option.filter_some]
          by_cases hBlank : trim left = ""
          · have hOther := (trim_eq_empty_congr hAlike.lower).mp hBlank
            rw [hBlank, hOther]
          · have hOther : ¬ trim right = "" := fun hEmpty =>
              hBlank ((trim_eq_empty_congr hAlike.lower).mpr hEmpty)
            have hLeft : decide (trim left ≠ "") = true := decide_eq_true hBlank
            have hRight : decide (trim right ≠ "") = true := decide_eq_true hOther
            rw [if_pos hLeft, if_pos hRight]
            dsimp only
            rw [normalizeExchangeValue_congr hAlike]

/-- Under a definition that passes its checks, an accepted exchange holds only
declared fields and all required ones, every value in the form of its kind, and is
accepted again unchanged; and exchanges that read alike are both refused or become
the same. -/
theorem validateExchange_canonical (definition : ContestDefinition)
    (hSelf : definition.validateSelf = .ok ()) (direction : ExchangeDirection)
    (values : KeyMap String String) :
    (∀ normalized, definition.validateExchange direction values = .ok normalized →
      (∀ key text, normalized.lookup key = some text →
        ∃ field ∈ definition.exchange.fields direction, field.key = key ∧
          field.kind.Satisfies text ∧ trim text = text ∧ text ≠ "") ∧
      (∀ field ∈ definition.exchange.fields direction, field.required = true →
        (normalized.lookup field.key).isSome = true) ∧
      definition.validateExchange direction normalized = .ok normalized) ∧
    ∀ others, definition.ReadsAlike direction values others →
      (definition.validateExchange direction values).toOption =
        (definition.validateExchange direction others).toOption := by
  have hNodup := nodup_of_validateSelf hSelf direction
  refine ⟨fun normalized h => ?_, fun others hAlike => ?_⟩
  · unfold validateExchange at h ⊢
    dsimp only at h ⊢
    split at h
    · cases h
    obtain ⟨hLeaves, hOthers⟩ := leaves_of_foldlM hNodup (fun _ _ => AList.lookup_empty _) h
    have hDeclared : ∀ key text, normalized.lookup key = some text →
        ∃ field ∈ definition.exchange.fields direction, field.key = key := by
      intro key text hLookup
      by_contra hNone
      rw [hOthers key fun field hMem hKey => hNone ⟨field, hMem, hKey⟩, AList.lookup_empty]
        at hLookup
      cases hLookup
    refine ⟨fun key text hLookup => ?_, fun field hMem hRequired => ?_, ?_⟩
    · obtain ⟨field, hMem, rfl⟩ := hDeclared key text hLookup
      have hLeft := hLeaves field hMem
      rw [hLookup] at hLeft
      unfold Leaves at hLeft
      split at hLeft
      · cases hLeft.2
      · rename_i value hRaw
        obtain ⟨found, hFound, hSame⟩ := hLeft
        obtain rfl := Option.some.inj hSame
        have hBare := trim_of_rawValue hRaw
        have hCanonical := canonical_of_normalizeExchangeValue hBare.1 hBare.2 hFound
        exact ⟨field, hMem, rfl, hCanonical.1, hCanonical.2.1, hCanonical.2.2.1⟩
    · have hLeft := hLeaves field hMem
      unfold Leaves at hLeft
      split at hLeft
      · rw [hRequired] at hLeft
        cases hLeft.1
      · obtain ⟨text, _, hText⟩ := hLeft
        rw [hText]
        rfl
    · rw [(unknownKey_eq_none_iff _ _).mpr hDeclared]
      dsimp only
      rw [foldlM_congr fun field hMem => normalizeField_of_leaves (hLeaves field hMem)]
      exact h
  · have hKeys : ∀ key, (values.lookup key).isSome = (others.lookup key).isSome := by
      intro key
      have hKey := hAlike key
      cases hFirst : values.lookup key <;> cases hSecond : others.lookup key <;>
        simp_all
    unfold validateExchange
    dsimp only
    cases hUnknown : unknownKey (definition.exchange.fields direction) values with
    | none =>
        have hKnown := (unknownKey_eq_none_iff _ _).mp hUnknown
        have hOther : unknownKey (definition.exchange.fields direction) others = none := by
          refine (unknownKey_eq_none_iff _ _).mpr fun key text hLookup => ?_
          have hSome := hKeys key
          rw [hLookup] at hSome
          obtain ⟨old, hOld⟩ := Option.isSome_iff_exists.mp hSome
          exact hKnown key old hOld
        rw [hOther]
        dsimp only
        rw [foldlM_congr fun field hMem => normalizeField_congr hNodup hAlike hMem]
    | some key =>
        cases hOther : unknownKey (definition.exchange.fields direction) others with
        | some _ => rfl
        | none =>
            have hKnown := (unknownKey_eq_none_iff _ _).mp hOther
            have hAll : unknownKey (definition.exchange.fields direction) values = none := by
              refine (unknownKey_eq_none_iff _ _).mpr fun key text hLookup => ?_
              have hSome := hKeys key
              rw [hLookup] at hSome
              obtain ⟨old, hOld⟩ := Option.isSome_iff_exists.mp hSome.symm
              exact hKnown key old hOld
            rw [hUnknown] at hAll
            cases hAll

/-- A contest with a choice and a serial number. -/
def fieldDay : ContestDefinition where
  contestId := "field-day"
  name := "Field Day"
  sponsor := "club"
  ruleVersion := 1
  ruleSource := "rules"
  bands := ["20M"]
  modes := ["CW"]
  exchange :=
    { sent := [{ key := "serial", label := "Serial", kind := .serial }]
      received := [{ key := "class", label := "Class", kind := .choice ["1A", "2A"] },
        { key := "serial", label := "Serial", kind := .serial }] }
  duplicateRule := { scope := .perBand }
  serialPolicy := .perContest
  scoring := { defaultPoints := 1 }
  «export» := { cabrilloName := "FIELD-DAY", cabrilloVersion := "3.0" }

theorem fieldDay_exchange_canonical :
    (∃ normalized, fieldDay.validateExchange .received
        ((AList.insert "class" " 2a" ∅).insert "serial" "007") = .ok normalized ∧
      fieldDay.validateExchange .received normalized = .ok normalized) ∧
    (fieldDay.validateExchange .received
        ((AList.insert "class" " 2a" ∅).insert "serial" "007")).toOption =
      (fieldDay.validateExchange .received
        ((AList.insert "class" "2A" ∅).insert "serial" "007 ")).toOption := by
  have hSelf : fieldDay.validateSelf = .ok () := by decide +kernel
  have hAll := validateExchange_canonical fieldDay hSelf .received
    ((AList.insert "class" " 2a" ∅).insert "serial" "007")
  have hAccepted : (fieldDay.validateExchange .received
      ((AList.insert "class" " 2a" ∅).insert "serial" "007")).toOption.isSome = true := by
    decide +kernel
  obtain ⟨normalized, hSome⟩ := Option.isSome_iff_exists.mp hAccepted
  have hOk := (except_toOption_eq_some_iff _ _).mp hSome
  refine ⟨⟨normalized, hOk, (hAll.1 normalized hOk).2.2⟩, hAll.2 _ fun key => ?_⟩
  by_cases hSerial : key = "serial"
  · subst hSerial
    rw [AList.lookup_insert, AList.lookup_insert]
    exact (by decide +kernel : toAsciiLowercase (trim "007") = toAsciiLowercase (trim "007 "))
  · rw [AList.lookup_insert_ne hSerial, AList.lookup_insert_ne hSerial]
    by_cases hClass : key = "class"
    · subst hClass
      rw [AList.lookup_insert, AList.lookup_insert]
      exact (by decide +kernel : toAsciiLowercase (trim " 2a") = toAsciiLowercase (trim "2A"))
    · rw [AList.lookup_insert_ne hClass, AList.lookup_insert_ne hClass, AList.lookup_empty]
      trivial

end ContestDefinition

end HamLogger
