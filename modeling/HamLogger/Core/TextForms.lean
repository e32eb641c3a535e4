import HamLogger.Core.AdifImport
import HamLogger.Library.AsciiCase
import Mathlib.Data.List.DropRight

/-! Texts that read the same: without the blanks around them, and without the
case of their ASCII letters. -/
namespace HamLogger

theorem toList_trim (text : String) :
    (trim text).toList = (text.toList.dropWhile isWhitespace).rdropWhile isWhitespace :=
  String.toList_ofList

theorem toList_trim_isInfix (text : String) : (trim text).toList <:+: text.toList := by
  rw [toList_trim]
  exact (List.rdropWhile_prefix isWhitespace (text.toList.dropWhile isWhitespace)).isInfix.trans
    (List.dropWhile_suffix isWhitespace).isInfix

/-- A text without blanks is trimmed already. -/
theorem trim_eq_self {text : String} (h : ∀ c ∈ text.toList, isWhitespace c = false) :
    trim text = text := by
  apply String.toList_injective
  have hFront : text.toList.dropWhile isWhitespace = text.toList :=
    List.dropWhile_eq_self_iff.mpr fun hPos => by simp [h _ (List.getElem_mem hPos)]
  have hBack : text.toList.rdropWhile isWhitespace = text.toList :=
    List.rdropWhile_eq_self_iff.mpr fun hNil => by simp [h _ (List.getLast_mem hNil)]
  rw [toList_trim, hFront, hBack]

@[simp] theorem trim_trim (text : String) : trim (trim text) = trim text := by
  apply String.toList_injective
  rw [toList_trim (trim text), toList_trim text]
  have hFront : ((text.toList.dropWhile isWhitespace).rdropWhile isWhitespace).dropWhile
      isWhitespace = (text.toList.dropWhile isWhitespace).rdropWhile isWhitespace := by
    refine List.dropWhile_eq_self_iff.mpr fun hPos => ?_
    -- the first character is the first one of the text that is no blank
    have hPrefix := List.rdropWhile_prefix isWhitespace (text.toList.dropWhile isWhitespace)
    have hLength : 0 < (text.toList.dropWhile isWhitespace).length :=
      lt_of_lt_of_le hPos hPrefix.length_le
    rw [hPrefix.getElem hPos]
    exact List.dropWhile_get_zero_not _ _ hLength
  rw [hFront, List.rdropWhile_idempotent]

theorem isWhitespace_of_isAlpha {c : Char} (h : c.isAlpha = true) : isWhitespace c = false := by
  rw [Char.isAlpha_iff_between] at h
  simp [isWhitespace]
  omega

theorem isWhitespace_toLower (c : Char) : isWhitespace c.toLower = isWhitespace c := by
  cases h : c.isAlpha with
  | true =>
      rw [isWhitespace_of_isAlpha h, isWhitespace_of_isAlpha (by rw [Char.isAlpha_toLower, h])]
  | false => rw [← Char.eq_of_toLower_eq (Char.toLower_idem c).symm h]

theorem trim_toAsciiLowercase (text : String) :
    trim (toAsciiLowercase text) = toAsciiLowercase (trim text) := by
  have hLower : isWhitespace ∘ Char.toLower = isWhitespace := funext isWhitespace_toLower
  apply String.toList_injective
  rw [toList_trim, toAsciiLowercase, toAsciiLowercase, String.toList_ofList,
    String.toList_ofList, toList_trim]
  simp only [List.rdropWhile, List.dropWhile_map, hLower, ← List.map_reverse]

@[simp] theorem toAsciiUppercase_idem (text : String) :
    toAsciiUppercase (toAsciiUppercase text) = toAsciiUppercase text := by
  simp [toAsciiUppercase, Function.comp_def]

theorem length_toAsciiLowercase (text : String) :
    (toAsciiLowercase text).length = text.length := by
  rw [toAsciiLowercase, String.length_ofList, List.length_map, String.length_toList]

/-- Two texts that differ in the case of letters only have one upper case. -/
theorem toAsciiUppercase_congr {first second : String}
    (h : toAsciiLowercase first = toAsciiLowercase second) :
    toAsciiUppercase first = toAsciiUppercase second := by
  have hUpper : ∀ text, toAsciiUppercase text = toAsciiUppercase (toAsciiLowercase text) :=
    fun text => by
      simp [toAsciiUppercase, toAsciiLowercase, Function.comp_def]
  rw [hUpper first, h, ← hUpper second]

/-- Whether a text is trimmed can be seen from its lower case. -/
theorem trim_eq_self_congr {first second : String}
    (h : toAsciiLowercase first = toAsciiLowercase second) (hTrim : trim first = first) :
    trim second = second := by
  have hLower : toAsciiLowercase (trim second) = toAsciiLowercase second := by
    rw [← trim_toAsciiLowercase, ← h, trim_toAsciiLowercase, hTrim]
  have hLength : (trim second).toList.length = second.toList.length := by
    have hEq := congrArg String.length hLower
    rwa [length_toAsciiLowercase, length_toAsciiLowercase, ← String.length_toList,
      ← String.length_toList] at hEq
  exact String.toList_injective ((toList_trim_isInfix second).eq_of_length hLength)

theorem map_toLower_eq {first second : String}
    (h : toAsciiLowercase first = toAsciiLowercase second) :
    first.toList.map Char.toLower = second.toList.map Char.toLower :=
  String.ofList_injective h

/-- A text without letters is the only one of its lower case. -/
theorem eq_of_caseless {first second : String}
    (h : toAsciiLowercase first = toAsciiLowercase second)
    (hPlain : ∀ c ∈ first.toList, c.isAlpha = false) : first = second := by
  have hLists := map_toLower_eq h
  have hLength : first.toList.length = second.toList.length := by
    have hEq := congrArg List.length hLists
    rwa [List.length_map, List.length_map] at hEq
  refine String.toList_injective (List.ext_getElem hLength fun index hFirst hSecond => ?_)
  refine Char.eq_of_toLower_eq ?_ (hPlain _ (List.getElem_mem hFirst))
  have hAt := congrArg (fun list => list[index]?) hLists
  simpa [hFirst, hSecond] using hAt

end HamLogger
