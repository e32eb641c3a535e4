import HamLogger.Core.Adif
import HamLogger.Core.Crates

/-! Reference functions for the dates and clock times of the exchange format,
which let its model run on concrete values, and the proof that they read back
what they write. -/
namespace HamLogger.Crates

def writeCivil (days : Int) : List Char × List Char × List Char :=
  let (year, month, day) := civilFromDays days
  (writeYear year, padded 2 month, padded 2 day)

/-- Hours, minutes and seconds of a second of the day. -/
def writeClock (second : Nat) : List Char × List Char × List Char :=
  (padded 2 (second / 3600 % 24), padded 2 (second / 60 % 60), padded 2 (second % 60))

def formatDate (instant : DateTime) : String :=
  let (year, month, day) := writeCivil (instant.nanos / 86400000000000)
  String.ofList (year ++ month ++ day)

def formatTime (instant : DateTime) : String :=
  let (hour, minute, second) := writeClock (instant.nanos / 1000000000 % 86400).toNat
  String.ofList (hour ++ minute ++ second)

/-- A date, where the range of the crate allows. -/
def naiveDate? (days : Int) : Option NaiveDate :=
  if h : -96465293 ≤ days ∧ days ≤ 95026236 then some ⟨days, h.1, h.2⟩ else none

/-- Eight digits that are a day of the calendar. -/
def parseDate (text : String) : Option NaiveDate :=
  match text.toList with
  | [y1, y2, y3, y4, m1, m2, d1, d2] =>
      let year := digitsValue [y1, y2, y3, y4]
      let month := digitsValue [m1, m2]
      let day := digitsValue [d1, d2]
      let days := daysFromCivil year month day
      if text.toList.all Char.isDigit ∧ civilFromDays days = ((year : Int), month, day) then
        naiveDate? days
      else none
  | _ => none

/-- Six digits that are a time of day. -/
def parseTime (text : String) : Option NaiveTime :=
  match text.toList with
  | [h1, h2, m1, m2, s1, s2] =>
      let hour := digitsValue [h1, h2]
      let minute := digitsValue [m1, m2]
      let second := digitsValue [s1, s2]
      if text.toList.all Char.isDigit ∧ hour < 24 ∧ minute < 60 ∧ second ≤ 60 then
        if second = 60 then some ⟨Fin.ofNat 86400 (hour * 3600 + minute * 60 + 59), 1000000000⟩
        else some ⟨Fin.ofNat 86400 (hour * 3600 + minute * 60 + second), 0⟩
      else none
  | _ => none

def writeNaive (instant : NaiveDateTime) : String :=
  let (year, month, day) := writeCivil instant.date.days
  let (hour, minute, _) := writeClock instant.time.second.val
  let nanos := instant.time.nanos.val
  String.ofList (year ++ '-' :: month ++ '-' :: day ++ 'T' :: hour ++ ':' :: minute ++ ':' ::
    padded 2 (instant.time.second.val % 60 + nanos / 1000000000) ++
    writeFraction (nanos % 1000000000) ++ ['+', '0', '0', ':', '0', '0'])

scoped instance chronoFormat : ChronoFormat where
  formatDate := formatDate
  formatTime := formatTime
  parseDate := parseDate
  parseTime := parseTime
  toRfc3339 := writeNaive

/-- Exact as long as a floating point number holds every hertz. -/
def writeMegahertz (hz : UInt64) : String :=
  String.ofList (padded 1 (hz.toNat / 1000000) ++ '.' :: padded 6 (hz.toNat % 1000000))

/-- Digits with up to six decimals. -/
def readMegahertz (text : String) : Option UInt64 :=
  let whole := text.toList.takeWhile Char.isDigit
  let hertz := fun decimals : List Char =>
    UInt64.ofNat (digitsValue whole * 1000000 +
      digitsValue (decimals ++ List.replicate (6 - decimals.length) '0'))
  match text.toList.dropWhile Char.isDigit with
  | [] => if whole = [] then none else some (hertz [])
  | '.' :: decimals =>
      if decimals.all Char.isDigit ∧ decimals.length ≤ 6 ∧ whole ++ decimals ≠ [] then
        some (hertz decimals)
      else none
  | _ => none

scoped instance floatText : FloatText where
  formatMegahertz := writeMegahertz
  parseMegahertz := readMegahertz

/-! Digits. -/

theorem digitsValue_eq (digits : List Char) :
    digitsValue digits = Nat.ofDigitChars 10 digits 0 := by
  unfold digitsValue
  rw [Nat.ofDigitChars_eq_foldl]
  congr 1
  funext total digit
  rw [Nat.mul_comm]
  rfl

theorem le_length_padded (width value : Nat) : width ≤ (padded width value).length := by
  simp [padded]
  omega

theorem length_padded (width : Nat) {value : Nat} (hWidth : 0 < width) (h : value < 10 ^ width) :
    (padded width value).length = width := by
  have hDigits := (Nat.length_toDigits_le_iff (by decide) hWidth).mpr h
  simp [padded]
  omega

theorem isDigit_padded {width value : Nat} {c : Char} (h : c ∈ padded width value) :
    c.isDigit = true := by
  rcases List.mem_append.mp h with hZero | hDigit
  · rw [List.eq_of_mem_replicate hZero]
    decide
  · exact Nat.isDigit_of_mem_toDigits (by decide) (by decide) hDigit

theorem digitsValue_padded (width value : Nat) : digitsValue (padded width value) = value := by
  rw [digitsValue_eq, padded, Nat.ofDigitChars_append, Nat.ofDigitChars_replicate_zero,
    Nat.mul_zero, Nat.ofDigitChars_ten_toDigits]

theorem padded_two (value : Nat) (h : value < 100) :
    ∃ a b, padded 2 value = [a, b] ∧ a.isDigit = true ∧ b.isDigit = true ∧
      digitsValue [a, b] = value := by
  obtain ⟨a, b, hPadded⟩ := List.length_eq_two.mp (length_padded 2 (by decide) h)
  have hValue := digitsValue_padded 2 value
  rw [hPadded] at hValue
  exact ⟨a, b, hPadded, isDigit_padded (by rw [hPadded]; simp),
    isDigit_padded (by rw [hPadded]; simp), hValue⟩

theorem padded_four (value : Nat) (h : value < 10000) :
    ∃ a b c d, padded 4 value = [a, b, c, d] ∧
      (∀ digit ∈ [a, b, c, d], digit.isDigit = true) ∧ digitsValue [a, b, c, d] = value := by
  have hValue := digitsValue_padded 4 value
  have hDigits : ∀ digit ∈ padded 4 value, digit.isDigit = true := fun digit => isDigit_padded
  have hLength := length_padded 4 (by decide) h
  match hPadded : padded 4 value, hLength with
  | [a, b, c, d], _ =>
      rw [hPadded] at hValue hDigits
      exact ⟨a, b, c, d, rfl, hDigits, hValue⟩

/-! The calendar. An era has 400 years, which begin in March. -/

/-- The day of an era lies in the year that the formula gives. The cases are
the centuries of the era, which fix where a leap day is left out. -/
theorem yearOfEra_bounds {day year : Nat} (h : day < 146097)
    (hYear : year = (day - day / 1460 + day / 36524 - day / 146096) / 365) :
    year < 400 ∧ 365 * year + year / 4 - year / 100 ≤ day ∧
      day ≤ 365 * year + year / 4 - year / 100 + 365 := by
  have hCentury : day / 36524 = 0 ∨ day / 36524 = 1 ∨ day / 36524 = 2 ∨ day / 36524 = 3 ∨
      day / 36524 = 4 := by omega
  have hLast : day / 146096 = 0 ∨ day / 146096 = 1 := by omega
  have hHundred : year / 100 = 0 ∨ year / 100 = 1 ∨ year / 100 = 2 ∨ year / 100 = 3 := by omega
  rcases hCentury with hCentury | hCentury | hCentury | hCentury | hCentury <;>
    rcases hLast with hLast | hLast <;>
    rcases hHundred with hHundred | hHundred | hHundred | hHundred <;>
    simp only [hCentury, hLast, hHundred] at hYear ⊢ <;> omega

/-- Months counted from March and those of the calendar. -/
theorem month_bounds {dayOfYear shiftedMonth month : Nat} (h : dayOfYear ≤ 365)
    (hShifted : shiftedMonth = (5 * dayOfYear + 2) / 153)
    (hMonth : month = if shiftedMonth < 10 then shiftedMonth + 3 else shiftedMonth - 9) :
    1 ≤ month ∧ month ≤ 12 ∧ (month + 9) % 12 = shiftedMonth ∧
      (month ≤ 2 → 306 ≤ dayOfYear) := by
  have hTwelve : shiftedMonth < 12 := by omega
  by_cases hTen : shiftedMonth < 10
  · rw [if_pos hTen] at hMonth
    omega
  · rw [if_neg hTen] at hMonth
    omega

/-- The days of years with four digits have a calendar form that gives the
day back. -/
theorem civil_round_trip {days : Int} (hFirst : -354285 ≤ days) (hLast : days ≤ 2932896) :
    ∃ year month day : Nat, civilFromDays days = ((year : Int), month, day) ∧ year < 10000 ∧
      month < 100 ∧ day < 100 ∧ daysFromCivil year month day = days := by
  obtain ⟨shifted, hShifted⟩ : ∃ shifted : Nat, (shifted : Int) = days + 719468 :=
    ⟨(days + 719468).toNat, by omega⟩
  obtain ⟨era, hEra⟩ : ∃ era : Nat, era = shifted / 146097 := ⟨_, rfl⟩
  obtain ⟨dayOfEra, hDay⟩ : ∃ dayOfEra : Nat, dayOfEra = shifted % 146097 := ⟨_, rfl⟩
  obtain ⟨yearOfEra, hYear⟩ : ∃ year : Nat,
    year = (dayOfEra - dayOfEra / 1460 + dayOfEra / 36524 - dayOfEra / 146096) / 365 := ⟨_, rfl⟩
  obtain ⟨hYearLess, hLow, hHigh⟩ := yearOfEra_bounds (by omega) hYear
  obtain ⟨dayOfYear, hDayOfYear⟩ : ∃ dayOfYear : Nat,
    dayOfYear = dayOfEra - (365 * yearOfEra + yearOfEra / 4 - yearOfEra / 100) := ⟨_, rfl⟩
  obtain ⟨shiftedMonth, hShiftedMonth⟩ : ∃ month : Nat, month = (5 * dayOfYear + 2) / 153 :=
    ⟨_, rfl⟩
  obtain ⟨month, hMonth⟩ : ∃ month : Nat,
    month = if shiftedMonth < 10 then shiftedMonth + 3 else shiftedMonth - 9 := ⟨_, rfl⟩
  obtain ⟨hMonthPos, hMonthLe, hMonthBack, hLate⟩ := month_bounds (by omega) hShiftedMonth hMonth
  obtain ⟨day, hCivilDay⟩ : ∃ day : Nat,
    day = dayOfYear - (153 * shiftedMonth + 2) / 5 + 1 := ⟨_, rfl⟩
  -- January and February belong to the year after the one counted from March
  obtain ⟨extra, hExtra, hExtraLe, hExtraLate⟩ : ∃ extra : Nat,
      (if month ≤ 2 then (1 : Int) else 0) = extra ∧ extra ≤ 1 ∧
        (extra = 1 → 306 ≤ dayOfYear) := by
    by_cases hEarly : month ≤ 2
    · exact ⟨1, by rw [if_pos hEarly]; rfl, by omega, fun _ => hLate hEarly⟩
    · exact ⟨0, by rw [if_neg hEarly]; rfl, by omega, by omega⟩
  have hInEra : dayOfEra = 365 * yearOfEra + yearOfEra / 4 - yearOfEra / 100 + dayOfYear := by
    omega
  have hInMonth : dayOfYear + 1 = (153 * shiftedMonth + 2) / 5 + day := by omega
  refine ⟨yearOfEra + era * 400 + extra, month, day, ?_, ?_, by omega, by omega, ?_⟩
  · have hEraInt : (days + 719468).fdiv 146097 = era := by
      rw [← hShifted, Int.fdiv_eq_ediv_of_nonneg _ (by omega)]
      omega
    have hDayInt : (days + 719468 - era * 146097).toNat = dayOfEra := by omega
    unfold civilFromDays
    simp only [hEraInt, hDayInt, ← hYear, ← hDayOfYear, ← hShiftedMonth, ← hMonth, ← hCivilDay]
    rw [hExtra]
    push_cast
    rfl
  · clear hYear hMonth hMonthBack hCivilDay hShiftedMonth hInMonth
    omega
  · have hYearBack : ((yearOfEra + era * 400 + extra : Nat) : Int) - extra =
        yearOfEra + era * 400 := by
      push_cast
      omega
    have hEraBack : ((yearOfEra : Int) + era * 400).fdiv 400 = era := by
      rw [Int.fdiv_eq_ediv_of_nonneg _ (by omega)]
      omega
    have hRest : (yearOfEra : Int) + era * 400 - era * 400 = yearOfEra := by omega
    unfold daysFromCivil
    simp only [hMonthBack, hExtra]
    rw [hYearBack, hEraBack, hRest]
    clear hYear hMonth hMonthBack hShiftedMonth hCivilDay hDayOfYear hExtra
    omega

/-! The parsers read what the writers write. -/

theorem writeCivil_eq {days : Int} (hFirst : -354285 ≤ days) (hLast : days ≤ 2932896) :
    ∃ year month day : Nat,
      writeCivil days = (padded 4 year, padded 2 month, padded 2 day) ∧
      civilFromDays days = ((year : Int), month, day) ∧ year < 10000 ∧ month < 100 ∧ day < 100 ∧
      daysFromCivil year month day = days := by
  obtain ⟨year, month, day, hCivil, hYear, hMonth, hDay, hBack⟩ := civil_round_trip hFirst hLast
  refine ⟨year, month, day, ?_, hCivil, hYear, hMonth, hDay, hBack⟩
  unfold writeCivil writeYear
  rw [hCivil]
  dsimp only
  rw [if_pos (by omega), Int.toNat_natCast]

/-- The days of instants that can be exported. -/
theorem days_of_exportable {instant : DateTime} (h : instant.Exportable) :
    -354285 ≤ instant.nanos / 86400000000000 ∧ instant.nanos / 86400000000000 ≤ 2932896 := by
  have hFirst := h.first
  have hLast := h.last
  omega

theorem parseDate_formatDate {instant : DateTime} (h : instant.Exportable) :
    parseDate (formatDate instant) = some instant.date := by
  obtain ⟨hFirst, hLast⟩ := days_of_exportable h
  obtain ⟨year, month, day, hWrite, hCivil, hYear, hMonth, hDay, hBack⟩ :=
    writeCivil_eq hFirst hLast
  obtain ⟨y1, y2, y3, y4, hYearText, hYearDigits, hYearValue⟩ := padded_four year hYear
  obtain ⟨m1, m2, hMonthText, hMonth1, hMonth2, hMonthValue⟩ := padded_two month hMonth
  obtain ⟨d1, d2, hDayText, hDay1, hDay2, hDayValue⟩ := padded_two day hDay
  have hText : (formatDate instant).toList = [y1, y2, y3, y4, m1, m2, d1, d2] := by
    unfold formatDate
    rw [hWrite, hYearText, hMonthText, hDayText]
    exact String.toList_ofList
  have hDigits : [y1, y2, y3, y4, m1, m2, d1, d2].all Char.isDigit = true := by
    simp only [List.forall_mem_cons] at hYearDigits
    simp [hYearDigits, hMonth1, hMonth2, hDay1, hDay2]
  unfold parseDate
  rw [hText]
  dsimp only
  rw [hYearValue, hMonthValue, hDayValue, hBack, if_pos ⟨hDigits, hCivil⟩]
  exact dif_pos ⟨by omega, by omega⟩

/-- The three parts of a clock time, with two digits each. -/
theorem writeClock_eq (second : Nat) (h : second < 86400) :
    ∃ h1 h2 m1 m2 s1 s2, writeClock second = ([h1, h2], [m1, m2], [s1, s2]) ∧
      (∀ digit ∈ [h1, h2, m1, m2, s1, s2], digit.isDigit = true) ∧
      digitsValue [h1, h2] = second / 3600 ∧ digitsValue [m1, m2] = second / 60 % 60 ∧
      digitsValue [s1, s2] = second % 60 := by
  have hHour : second / 3600 % 24 = second / 3600 := by omega
  obtain ⟨h1, h2, hHourText, hHour1, hHour2, hHourValue⟩ :=
    padded_two (second / 3600) (by omega)
  obtain ⟨m1, m2, hMinuteText, hMinute1, hMinute2, hMinuteValue⟩ :=
    padded_two (second / 60 % 60) (by omega)
  obtain ⟨s1, s2, hSecondText, hSecond1, hSecond2, hSecondValue⟩ :=
    padded_two (second % 60) (by omega)
  refine ⟨h1, h2, m1, m2, s1, s2, ?_, ?_, hHourValue, hMinuteValue, hSecondValue⟩
  · unfold writeClock
    rw [hHour, hHourText, hMinuteText, hSecondText]
  · simp [hHour1, hHour2, hMinute1, hMinute2, hSecond1, hSecond2]

theorem parseTime_formatTime {instant : DateTime} (h : instant.Exportable) :
    parseTime (formatTime instant) = some instant.time := by
  obtain ⟨second, hSecond⟩ : ∃ second : Nat,
    second = (instant.nanos / 1000000000 % 86400).toNat := ⟨_, rfl⟩
  have hRange : second < 86400 := by omega
  obtain ⟨h1, h2, m1, m2, s1, s2, hClock, hDigits, hHour, hMinute, hSeconds⟩ :=
    writeClock_eq _ hRange
  have hText : (formatTime instant).toList = [h1, h2, m1, m2, s1, s2] := by
    unfold formatTime
    rw [← hSecond, hClock]
    exact String.toList_ofList
  unfold parseTime
  rw [hText]
  dsimp only
  rw [hHour, hMinute, hSeconds, if_pos ⟨List.all_eq_true.mpr hDigits, by omega, by omega, by omega⟩,
    if_neg (by omega)]
  have hWhole := h.whole
  congr 1
  simp only [DateTime.time, NaiveTime.mk.injEq, Fin.ext_iff, Fin.val_ofNat]
  exact ⟨by omega, by simp [hWhole]⟩

theorem instant?_eq {instant : DateTime} {seconds : Int}
    (h : instant.nanos = seconds * 1000000000) : instant? seconds = some instant := by
  have hLower := instant.lower
  have hUpper := instant.upper
  unfold instant? DateTime.addSeconds
  rw [dif_pos ⟨by dsimp only; omega, by dsimp only; omega⟩]
  congr 1
  cases instant with
  | mk nanos lower upper =>
      simp only [DateTime.mk.injEq]
      dsimp only at h
      omega

theorem parseInstant_writeNaive {instant : DateTime} (h : instant.Exportable) :
    parseInstant (writeNaive instant.naive) = some instant := by
  have hWhole := h.whole
  obtain ⟨hFirst, hLast⟩ := days_of_exportable h
  obtain ⟨year, month, day, hWrite, hCivil, hYear, hMonth, hDay, hBack⟩ :=
    writeCivil_eq hFirst hLast
  obtain ⟨y1, y2, y3, y4, hYearText, hYearDigits, hYearValue⟩ := padded_four year hYear
  obtain ⟨m1, m2, hMonthText, hMonth1, hMonth2, hMonthValue⟩ := padded_two month hMonth
  obtain ⟨d1, d2, hDayText, hDay1, hDay2, hDayValue⟩ := padded_two day hDay
  have hRange : instant.time.second.val < 86400 := instant.time.second.isLt
  have hNanos : instant.time.nanos.val = 0 := by
    simp [DateTime.time, hWhole]
  obtain ⟨h1, h2, n1, n2, s1, s2, hClock, hDigits, hHour, hMinute, hSeconds⟩ :=
    writeClock_eq _ hRange
  have hText : (writeNaive instant.naive).toList =
      y1 :: y2 :: y3 :: y4 :: '-' :: m1 :: m2 :: '-' :: d1 :: d2 :: 'T' :: h1 :: h2 :: ':' ::
        n1 :: n2 :: ':' :: s1 :: s2 :: ['+', '0', '0', ':', '0', '0'] := by
    have hParts := hClock
    simp only [writeClock, Prod.mk.injEq] at hParts
    have hDate : writeCivil instant.naive.date.days =
        (padded 4 year, padded 2 month, padded 2 day) := hWrite
    have hTime : writeClock instant.naive.time.second.val = ([h1, h2], [n1, n2], [s1, s2]) := hClock
    have hSecond : padded 2 (instant.naive.time.second.val % 60) = [s1, s2] := hParts.2.2
    have hFraction : instant.naive.time.nanos.val = 0 := hNanos
    unfold writeNaive
    rw [hDate, hTime, hFraction]
    simp [hYearText, hMonthText, hDayText, hSecond, writeFraction]
  have hAll : [y1, y2, y3, y4, m1, m2, d1, d2, h1, h2, n1, n2, s1, s2].all Char.isDigit = true := by
    simp only [List.forall_mem_cons] at hYearDigits hDigits
    simp [hYearDigits, hMonth1, hMonth2, hDay1, hDay2, hDigits]
  unfold parseInstant
  rw [hText]
  dsimp only
  rw [hYearValue, hMonthValue, hDayValue, hHour, hMinute, hSeconds, hBack,
    if_pos ⟨hAll, rfl, .inr rfl, hCivil, by omega, by omega, by omega⟩]
  refine instant?_eq ?_
  have hSecond : (instant.time.second.val : Int) = instant.nanos / 1000000000 % 86400 :=
    Int.toNat_of_nonneg (by omega)
  omega

/-! The shape of what is written. -/

theorem mem_writeYear {year : Int} {c : Char} (h : c ∈ writeYear year) :
    c.isDigit ∨ c = '+' ∨ c = '-' := by
  unfold writeYear at h
  split at h
  · exact .inl (isDigit_padded h)
  · rcases List.mem_cons.mp h with hSign | hDigit
    · split at hSign
      · exact .inr (.inr hSign)
      · exact .inr (.inl hSign)
    · exact .inl (isDigit_padded hDigit)

theorem four_le_writeYear (year : Int) : 4 ≤ (writeYear year).length := by
  unfold writeYear
  split
  · exact le_length_padded 4 _
  · have hDigits := le_length_padded 4 year.natAbs
    rw [List.length_cons]
    omega

theorem toList_formatDate (instant : DateTime) :
    ∃ year month day, (formatDate instant).toList =
      writeYear year ++ (padded 2 month ++ padded 2 day) := by
  unfold formatDate writeCivil
  exact ⟨_, _, _, by rw [String.toList_ofList, List.append_assoc]⟩

theorem toList_formatTime (instant : DateTime) :
    ∃ h1 h2 m1 m2 s1 s2, (formatTime instant).toList = [h1, h2, m1, m2, s1, s2] ∧
      ∀ digit ∈ [h1, h2, m1, m2, s1, s2], digit.isDigit = true := by
  obtain ⟨h1, h2, m1, m2, s1, s2, hClock, hDigits, _⟩ :=
    writeClock_eq ((instant.nanos / 1000000000 % 86400).toNat) (by omega)
  refine ⟨h1, h2, m1, m2, s1, s2, ?_, hDigits⟩
  unfold formatTime
  rw [hClock]
  exact String.toList_ofList

scoped instance lawfulChronoFormat : LawfulChronoFormat where
  eight_le_date instant := by
    obtain ⟨year, month, day, hText⟩ := toList_formatDate instant
    have hYear := four_le_writeYear year
    have hMonth := le_length_padded 2 month
    have hDay := le_length_padded 2 day
    change 8 ≤ (formatDate instant).toList.length
    rw [hText, List.length_append, List.length_append]
    omega
  date_chars instant c hMem := by
    obtain ⟨year, month, day, hText⟩ := toList_formatDate instant
    change c ∈ (formatDate instant).toList at hMem
    rw [hText] at hMem
    rcases List.mem_append.mp hMem with hYear | hRest
    · exact mem_writeYear hYear
    · rcases List.mem_append.mp hRest with hMonth | hDay
      · exact .inl (isDigit_padded hMonth)
      · exact .inl (isDigit_padded hDay)
  time_length instant := by
    obtain ⟨h1, h2, m1, m2, s1, s2, hText, _⟩ := toList_formatTime instant
    change (formatTime instant).toList.length = 6
    rw [hText]
    rfl
  time_chars instant c hMem := by
    obtain ⟨h1, h2, m1, m2, s1, s2, hText, hDigits⟩ := toList_formatTime instant
    change c ∈ (formatTime instant).toList at hMem
    rw [hText] at hMem
    exact hDigits c hMem
  date_length := by
    intro instant h
    obtain ⟨hFirst, hLast⟩ := days_of_exportable h
    obtain ⟨year, month, day, hWrite, _, hYear, hMonth, hDay, _⟩ := writeCivil_eq hFirst hLast
    change (formatDate instant).toList.length = 8
    unfold formatDate
    rw [hWrite]
    simp [length_padded 4 (by decide) hYear,
      length_padded 2 (by decide) hMonth, length_padded 2 (by decide) hDay]
  parseDate h := parseDate_formatDate h
  parseTime h := parseTime_formatTime h
  parseFromRfc3339 h := parseInstant_writeNaive h

end HamLogger.Crates
