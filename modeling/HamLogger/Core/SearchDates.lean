import HamLogger.Core.Search

/-! The days that a date term names, and the contacts that a search with the
term finds. The last day ends with its last whole second, and what starts after
that second is missed. -/
namespace HamLogger

open ByteText

/-! Reading a date term. -/

/-- The days from a first one to a last one. An end that is missing leaves the
range open. -/
structure DayRange where
  first : Option NaiveDate
  last : Option NaiveDate
  deriving DecidableEq

namespace NaiveDate

def startOfDay (date : NaiveDate) : NaiveDateTime where
  date := date
  time := ⟨0, 0⟩

def endOfDay (date : NaiveDate) : NaiveDateTime where
  date := date
  time := ⟨86399, 0⟩

theorem before_startOfDay_iff (date : NaiveDate) (instant : NaiveDateTime) :
    instant < date.startOfDay ↔ instant.date.days < date.days := by
  change NaiveDateTime.Before _ _ ↔ _
  simp only [NaiveDateTime.Before, startOfDay, Fin.lt_def, Fin.ext_iff]
  have hSecond : (0 : Fin 86400).val = 0 := rfl
  have hNanos : (0 : Fin 2000000000).val = 0 := rfl
  omega

/-- After the last second of a day is another day, or the same second. -/
theorem endOfDay_before_iff (date : NaiveDate) (instant : NaiveDateTime) :
    date.endOfDay < instant ↔ date.days < instant.date.days ∨ date = instant.date ∧
      instant.time.second = 86399 ∧ 0 < instant.time.nanos := by
  have hSame : date = instant.date ↔ date.days = instant.date.days := by
    cases date
    cases instant.date
    simp
  rw [hSame]
  change NaiveDateTime.Before _ _ ↔ _
  simp only [NaiveDateTime.Before, endOfDay, Fin.lt_def, Fin.ext_iff]
  have hLast : (86399 : Fin 86400).val = 86399 := rfl
  have hNanos : (0 : Fin 2000000000).val = 0 := rfl
  have hSecond := instant.time.second.isLt
  omega

end NaiveDate

/-- The instants that the ends of a range of days are turned into. -/
def DayRange.instants (days : DayRange) : DateRange where
  start := days.first.map NaiveDate.startOfDay
  ending := days.last.map NaiveDate.endOfDay

/-- Two dots stand at the start of a text or further on. -/
theorem dots_infix_cons_iff (c : Char) (rest : List Char) :
    ['.', '.'] <:+: c :: rest ↔ c = '.' ∧ rest.head? = some '.' ∨ ['.', '.'] <:+: rest := by
  rw [List.infix_cons_iff, List.cons_prefix_cons]
  have hHead : ['.'] <+: rest ↔ rest.head? = some '.' := by
    cases rest with
    | nil => simp
    | cons d rest => simp [List.cons_prefix_cons, eq_comm]
  rw [hHead, eq_comm]

theorem splitDots_eq_none_iff {text : List Char} :
    splitDots text = none ↔ ¬ ['.', '.'] <:+: text := by
  induction text with
  | nil => simp [splitDots]
  | cons c rest ih =>
      rw [dots_infix_cons_iff, splitDots]
      split <;> simp_all

/-- The cut is at the first place where two dots stand. -/
theorem splitDots_spec {text front back : List Char} (h : splitDots text = some (front, back)) :
    text = front ++ '.' :: '.' :: back ∧ ¬ ['.', '.'] <:+: front ++ ['.'] := by
  induction text generalizing front with
  | nil => cases h
  | cons c rest ih =>
      rw [splitDots] at h
      split at h
      · rename_i hDots
        obtain ⟨rfl, hHead⟩ := hDots
        obtain ⟨rfl, rfl⟩ := Prod.mk.inj (Option.some.inj h)
        refine ⟨?_, fun hInfix => ?_⟩
        · rw [List.nil_append, List.cons_inj_right]
          exact (List.cons_head?_tail hHead).symm
        · have hLength := hInfix.length_le
          simp at hLength
      · rename_i hOther
        obtain ⟨⟨first, other⟩, hRest, hPair⟩ := Option.map_eq_some_iff.mp h
        obtain ⟨rfl, rfl⟩ := Prod.mk.inj hPair
        obtain ⟨rfl, hAbsent⟩ := ih hRest
        refine ⟨rfl, fun hInfix => ?_⟩
        rw [List.cons_append, dots_infix_cons_iff] at hInfix
        rcases hInfix with ⟨hFirst, hNext⟩ | hLater
        · refine hOther ⟨hFirst, ?_⟩
          cases first <;> exact hNext
        · exact hAbsent hLater

section Terms
variable [SearchCrates]

/-- One end of a date term: nothing, or a day of the calendar. -/
def EndNames (text : String) (day : Option NaiveDate) : Prop :=
  trim text = "" ∧ day = none ∨
    trim text ≠ "" ∧ ∃ date, SearchCrates.parseDashedDate (trim text) = some date ∧ day = some date

/-- The days of a date term: two ends around the first two dots, or one day. -/
def TermNames (value : String) (days : DayRange) : Prop :=
  (∃ first last, value.toList = first ++ '.' :: '.' :: last ∧
    ¬ ['.', '.'] <:+: first ++ ['.'] ∧
    EndNames (String.ofList first) days.first ∧ EndNames (String.ofList last) days.last) ∨
  ¬ ['.', '.'] <:+: value.toList ∧ EndNames value days.first ∧ EndNames value days.last

theorem parseDateEndpoint_eq_ok {text : String} {endOfDay : Bool}
    {endpoint : Option NaiveDateTime} (h : parseDateEndpoint text endOfDay = .ok endpoint) :
    ∃ day, EndNames text day ∧
      endpoint = day.map fun date => if endOfDay then date.endOfDay else date.startOfDay := by
  unfold parseDateEndpoint at h
  dsimp only at h
  split at h
  · rename_i hEmpty
    obtain rfl := Except.ok.inj h
    exact ⟨none, .inl ⟨hEmpty, rfl⟩, rfl⟩
  · rename_i hText
    split at h
    · cases h
    · rename_i date hDate
      obtain rfl := Except.ok.inj h
      refine ⟨some date, .inr ⟨hText, date, hDate, rfl⟩, ?_⟩
      cases endOfDay <;> rfl

theorem parseDateRange_eq_ok {value : String} {range : DateRange}
    (h : parseDateRange value = .ok range) :
    ∃ days : DayRange, TermNames value days ∧ range = days.instants := by
  have hEnds : ∀ {first last : String},
      (do
        let start ← parseDateEndpoint first false
        let ending ← parseDateEndpoint last true
        pure { start := start, ending := ending }) = Except.ok range →
      ∃ days : DayRange, EndNames first days.first ∧ EndNames last days.last ∧
        range = days.instants := by
    intro first last hRead
    cases hFirst : parseDateEndpoint first false with
    | error error => simp [hFirst, bind, Except.bind] at hRead
    | ok start =>
        cases hLast : parseDateEndpoint last true with
        | error error => simp [hFirst, hLast, bind, Except.bind] at hRead
        | ok ending =>
            obtain ⟨firstDay, hFirstDay, rfl⟩ := parseDateEndpoint_eq_ok hFirst
            obtain ⟨lastDay, hLastDay, rfl⟩ := parseDateEndpoint_eq_ok hLast
            simp only [hFirst, hLast, bind, Except.bind, pure, Except.pure,
              Except.ok.injEq] at hRead
            exact ⟨⟨firstDay, lastDay⟩, hFirstDay, hLastDay, hRead.symm⟩
  unfold parseDateRange at h
  split at h
  · rename_i first last hCut
    obtain ⟨days, hFirst, hLast, hRange⟩ := hEnds h
    obtain ⟨hText, hAbsent⟩ := splitDots_spec hCut
    exact ⟨days, .inl ⟨first, last, hText, hAbsent, hFirst, hLast⟩, hRange⟩
  · rename_i hWhole
    obtain ⟨days, hFirst, hLast, hRange⟩ := hEnds h
    exact ⟨days, .inr ⟨splitDots_eq_none_iff.mp hWhole, hFirst, hLast⟩, hRange⟩

/-- The value of a token that is a date term. -/
def dateValue (token : String) : Option String :=
  (fieldTerm token).bind fun (field, value) => if field = "date" then some value else none

/-- The date term of a query text. Of several terms the last one counts. -/
def dateTerm (input : String) : Option String :=
  ((splitWhitespace input).filterMap dateValue).getLast?

/-- What a token does to the date range of the query. -/
theorem readToken_dateRange {query parsed : SearchQuery} {token : String}
    (h : readToken query token = .ok parsed) :
    match dateValue token with
    | none => parsed.dateRange = query.dateRange
    | some value => ∃ range, parseDateRange value = .ok range ∧ parsed.dateRange = some range := by
  unfold readToken at h
  unfold dateValue
  cases hField : fieldTerm token with
  | none =>
      simp only [hField] at h
      split at h <;> obtain rfl := Except.ok.inj h <;> rfl
  | some term =>
      obtain ⟨field, value⟩ := term
      simp only [hField] at h
      by_cases hDate : field = "date"
      · rw [if_pos hDate] at h
        cases hRange : parseDateRange value with
        | error error => rw [hRange] at h; cases h
        | ok range =>
            rw [hRange] at h
            obtain rfl := Except.ok.inj h
            simp only [Option.bind_some, hDate, if_true]
            exact ⟨range, hRange, rfl⟩
      · rw [if_neg hDate] at h
        simp only [Option.bind_some, hDate, if_false]
        split at h <;> obtain rfl := Except.ok.inj h <;> rfl

theorem readTokens_dateRange {query parsed : SearchQuery} {tokens : List String} {value : String}
    (h : tokens.foldlM readToken query = .ok parsed)
    (hLast : (tokens.filterMap dateValue).getLast? = some value) :
    ∃ range, parseDateRange value = .ok range ∧ parsed.dateRange = some range := by
  induction tokens using List.reverseRecOn generalizing parsed with
  | nil => cases hLast
  | append_singleton tokens token ih =>
      rw [List.foldlM_append] at h
      cases hBefore : tokens.foldlM readToken query with
      | error error => rw [hBefore] at h; cases h
      | ok before =>
          rw [hBefore] at h
          have hToken : readToken before token = .ok parsed := by
            have hStep : [token].foldlM readToken before = .ok parsed := h
            rwa [List.foldlM_cons, funext fun query => List.foldlM_nil, bind_pure] at hStep
          have hRange := readToken_dateRange hToken
          rw [List.filterMap_append] at hLast
          cases hDate : dateValue token with
          | none =>
              rw [hDate] at hRange
              rw [hRange]
              exact ih hBefore (by simpa [hDate] using hLast)
          | some date =>
              rw [hDate] at hRange
              obtain rfl : date = value := by simpa [hDate] using hLast
              exact hRange

end Terms

/-! What a search with a date term finds. -/

/-- Two searches of which one drops some of what the other finds are the same
where nothing is dropped. -/
theorem filterMap_eq_iff_of_drops {α β : Type} {found kept : α → Option β} {list : List α}
    (hDrops : ∀ a ∈ list, kept a = none ∨ kept a = found a) :
    list.filterMap kept = list.filterMap found ↔ ∀ a ∈ list, kept a = found a := by
  constructor
  · intro h
    induction list with
    | nil => intro a hMem; cases hMem
    | cons a rest ih =>
        have hRest : ∀ b ∈ rest, kept b = none ∨ kept b = found b := fun b hMem =>
          hDrops b (List.mem_cons_of_mem a hMem)
        have hHead : kept a = found a := by
          rcases hDrops a List.mem_cons_self with hNone | hSame
          · cases hFound : found a with
            | none => exact hNone
            | some result =>
                -- what was dropped would have to be made up for by the rest
                have hFewer : (rest.filterMap kept).length ≤ (rest.filterMap found).length := by
                  rw [List.length_filterMap_eq_countP, List.length_filterMap_eq_countP]
                  refine List.countP_mono_left fun b hMem hKept => ?_
                  rcases hRest b hMem with hDropped | hEqual
                  · rw [hDropped] at hKept
                    cases hKept
                  · rwa [← hEqual]
                have hLengths := congrArg List.length h
                rw [List.filterMap_cons_none hNone, List.filterMap_cons_some hFound,
                  List.length_cons] at hLengths
                omega
          · exact hSame
        have hTail : rest.filterMap kept = rest.filterMap found := by
          cases hFound : found a with
          | none =>
              rwa [List.filterMap_cons_none (hHead.trans hFound),
                List.filterMap_cons_none hFound] at h
          | some result =>
              rw [List.filterMap_cons_some (hHead.trans hFound),
                List.filterMap_cons_some hFound] at h
              exact (List.cons.inj h).2
        intro b hMem
        rcases List.mem_cons.mp hMem with rfl | hLater
        · exact hHead
        · exact ih hRest hTail b hLater
  · intro h
    exact List.filterMap_congr h

section Found
variable [SearchCrates]

/-- The start of a contact falls on a day of the range. -/
def StartsWithin (days : DayRange) (payload : Value) : Prop :=
  ∃ started ∈ startedAt payload, (∀ first ∈ days.first, first.days ≤ started.date.days) ∧
    ∀ last ∈ days.last, started.date.days ≤ last.days

instance (days : DayRange) (payload : Value) : Decidable (StartsWithin days payload) := by
  unfold StartsWithin
  infer_instance

/-- The start falls on the last day of the range, in the last second of the
day and after its beginning. -/
def StartsLate (days : DayRange) (payload : Value) : Prop :=
  ∃ started ∈ startedAt payload, (∀ first ∈ days.first, first.days ≤ started.date.days) ∧
    days.last = some started.date ∧ started.time.second = 86399 ∧ 0 < started.time.nanos

/-- The same query without its date range. -/
def SearchQuery.undated (query : SearchQuery) : SearchQuery :=
  { query with dateRange := none }

theorem StartsLate.startsWithin {days : DayRange} {payload : Value} (h : StartsLate days payload) :
    StartsWithin days payload := by
  obtain ⟨started, hStarted, hFirst, hLast, -, -⟩ := h
  refine ⟨started, hStarted, hFirst, fun last hMem => ?_⟩
  rw [hLast] at hMem
  obtain rfl := Option.some.inj hMem
  exact le_refl _

theorem matchesDate_iff (qso : QsoRecord) (days : DayRange) :
    matchesDate qso (some days.instants) = true ↔
      StartsWithin days qso.payload ∧ ¬ StartsLate days qso.payload := by
  unfold matchesDate StartsWithin StartsLate
  cases startedAt qso.payload with
  | none => simp
  | some started =>
      have hStart : (days.instants.start.any fun start => decide (started < start)) = true ↔
          ¬ ∀ first ∈ days.first, first.days ≤ started.date.days := by
        cases hFirst : days.first <;>
          simp [DayRange.instants, hFirst, NaiveDate.before_startOfDay_iff]
      have hEnding : (days.instants.ending.any fun ending => decide (ending < started)) = true ↔
          ¬ (∀ last ∈ days.last, started.date.days ≤ last.days) ∨
            days.last = some started.date ∧ started.time.second = 86399 ∧
              0 < started.time.nanos := by
        cases hLast : days.last <;>
          simp [DayRange.instants, hLast, NaiveDate.endOfDay_before_iff]
      by_cases hBefore : ∀ first ∈ days.first, first.days ≤ started.date.days
      · have hNot := mt hStart.mp (not_not.mpr hBefore)
        simp only [hNot, Option.mem_def, Option.some.injEq, exists_eq_left']
        by_cases hAfter : (days.instants.ending.any fun ending => decide (ending < started)) = true
        · rw [if_pos hAfter]
          have hLate := hEnding.mp hAfter
          tauto
        · rw [if_neg hAfter]
          have hEarly := mt hEnding.mpr hAfter
          tauto
      · have hOut := hStart.mpr hBefore
        simp only [hOut, if_true, Option.mem_def, Option.some.injEq, exists_eq_left']
        tauto

/-- A date range takes contacts away from the search without it. -/
theorem searchQso_dated {query : SearchQuery} {range : DateRange}
    (h : query.dateRange = some range) (qso : QsoRecord) :
    searchQso query qso =
      if matchesDate qso (some range) then searchQso query.undated qso else none := by
  have hUndated : matchesDate qso query.undated.dateRange = true := rfl
  unfold searchQso
  rw [h, hUndated]
  cases matchesDate qso (some range) <;> simp [SearchQuery.undated]

theorem payload_of_searchQso {query : SearchQuery} {qso : QsoRecord} {result : SearchResult}
    (h : searchQso query qso = some result) : result.payload = qso.payload := by
  unfold searchQso at h
  split at h
  · cases h
  · split at h
    · cases h
    · obtain ⟨filtered, -, h⟩ := Option.bind_eq_some_iff.mp h
      obtain ⟨matched, -, h⟩ := Option.bind_eq_some_iff.mp h
      obtain rfl := Option.some.inj h
      rfl

/-- A date term finds just the contacts that started on its days, of those that
the rest of the query matches, if and only if none of these started late on the
last day. -/
theorem dateTerm_exact_iff {input value : String} {query : SearchQuery}
    (hQuery : parseSearchQuery input = .ok query) (hTerm : dateTerm input = some value) :
    ∃ days : DayRange, TermNames value days ∧ ∀ records : List QsoRecord,
      searchQsos records query =
          ((searchQsos records query.undated).filter fun result =>
            StartsWithin days result.payload) ↔
        ∀ record ∈ records, (searchQso query.undated record).isSome →
          ¬ StartsLate days record.payload := by
  obtain ⟨range, hRange, hDated⟩ := readTokens_dateRange hQuery hTerm
  obtain ⟨days, hDays, rfl⟩ := parseDateRange_eq_ok hRange
  refine ⟨days, hDays, fun records => ?_⟩
  let found := fun qso : QsoRecord =>
    if StartsWithin days qso.payload then searchQso query.undated qso else none
  have hFound : ((searchQsos records query.undated).filter fun result =>
      StartsWithin days result.payload) = records.filterMap found := by
    rw [searchQsos, List.filter_filterMap]
    refine List.filterMap_congr fun qso _ => ?_
    cases hResult : searchQso query.undated qso with
    | none => simp [found, hResult]
    | some result => simp [found, hResult, Option.filter, payload_of_searchQso hResult]
  have hDrops : ∀ qso ∈ records, searchQso query qso = none ∨ searchQso query qso = found qso := by
    intro qso _
    rw [searchQso_dated hDated]
    by_cases hMatches : matchesDate qso (some days.instants) = true
    · exact .inr (by simp [found, hMatches, ((matchesDate_iff qso days).mp hMatches).1])
    · exact .inl (if_neg hMatches)
  rw [hFound, searchQsos, filterMap_eq_iff_of_drops hDrops]
  refine forall₂_congr fun qso _ => ?_
  rw [searchQso_dated hDated]
  cases hResult : searchQso query.undated qso with
  | none => simp [found, hResult]
  | some result =>
      have hDate := matchesDate_iff qso days
      have hWithin : StartsLate days qso.payload → StartsWithin days qso.payload :=
        StartsLate.startsWithin
      by_cases hStarts : StartsWithin days qso.payload
      · by_cases hLate : StartsLate days qso.payload
        · have hOut : ¬ matchesDate qso (some days.instants) = true := by tauto
          simp [found, hResult, hOut, hStarts, hLate]
        · have hIn : matchesDate qso (some days.instants) = true := by tauto
          simp [found, hResult, hIn, hStarts, hLate]
      · have hOut : ¬ matchesDate qso (some days.instants) = true := by tauto
        have hNotLate : ¬ StartsLate days qso.payload := mt hWithin hStarts
        simp [found, hOut, hStarts, hNotLate]

end Found

/-! The crates on concrete texts. -/

namespace Crates

/-- Four digits, two digits and two digits, with dashes between them. -/
def parseDashedDate (text : String) : Option NaiveDate :=
  match text.toList with
  | [y1, y2, y3, y4, '-', m1, m2, '-', d1, d2] =>
      parseDate (String.ofList [y1, y2, y3, y4, m1, m2, d1, d2])
  | _ => none

/-- An instant in UTC, with at most nine digits after the point. -/
def parseStarted (text : String) : Option NaiveDateTime := do
  let date ← parseDashedDate (String.ofList (text.toList.take 10))
  match text.toList.drop 10 with
  | 'T' :: h1 :: h2 :: ':' :: m1 :: m2 :: ':' :: s1 :: s2 :: rest =>
      let time ← parseTime (String.ofList [h1, h2, m1, m2, s1, s2])
      match rest with
      | ['Z'] => some { date := date, time := time }
      | '.' :: decimals =>
          let digits := decimals.dropLast
          if decimals.getLast? = some 'Z' ∧ digits.all Char.isDigit ∧ digits.length ≤ 9 then
            some {
              date := date
              time := { time with
                nanos := Fin.ofNat 2000000000
                  (time.nanos.val + digitsValue digits * 10 ^ (9 - digits.length)) } }
          else none
      | _ => none
  | _ => none

scoped instance searchCrates : SearchCrates where
  parseDashedDate := parseDashedDate
  parseStarted := parseStarted
  displayValue value := String.ofList (writeValue value)

end Crates

/-- A contact half a second after the last whole second of its day. -/
def lateContact : QsoRecord where
  qsoId := 1
  payload := .object [("started_at", .string "2026-01-02T23:59:59.500Z")]
  noteHistory := []
  deleted := false
  lastEventHash := ""

def firstTwoDays : DayRange where
  first := Crates.parseDashedDate "2026-01-01"
  last := Crates.parseDashedDate "2026-01-02"

open scoped Crates in
/-- A date term misses a contact that started on its last day. -/
theorem dateTerm_misses_lateContact :
    ∃ query, parseSearchQuery "date:2026-01-01..2026-01-02" = .ok query ∧
      TermNames "2026-01-01..2026-01-02" firstTwoDays ∧
      StartsWithin firstTwoDays lateContact.payload ∧ searchQsos [lateContact] query = [] := by
  refine ⟨{
    raw := "date:2026-01-01..2026-01-02"
    dateRange := some firstTwoDays.instants }, by decide +kernel, .inl ?_, by decide +kernel,
    by decide +kernel⟩
  have hFirst : trim "2026-01-01" = "2026-01-01" := by decide +kernel
  have hLast : trim "2026-01-02" = "2026-01-02" := by decide +kernel
  refine ⟨"2026-01-01".toList, "2026-01-02".toList, by decide +kernel, by decide +kernel,
    .inr ⟨?_, ?_⟩, .inr ⟨?_, ?_⟩⟩
  · rw [String.ofList_toList, hFirst]
    decide +kernel
  · rw [String.ofList_toList, hFirst]
    exact ⟨⟨20454, by decide, by decide⟩, by decide +kernel, by decide +kernel⟩
  · rw [String.ofList_toList, hLast]
    decide +kernel
  · rw [String.ofList_toList, hLast]
    exact ⟨⟨20455, by decide, by decide⟩, by decide +kernel, by decide +kernel⟩

open scoped Crates in
/-- The theorem applies to the query. -/
theorem dateTerm_of_firstTwoDays :
    ∃ days : DayRange, TermNames "2026-01-01..2026-01-02" days ∧ ∀ records : List QsoRecord,
      searchQsos records
            { raw := "date:2026-01-01..2026-01-02", dateRange := some firstTwoDays.instants } =
          ((searchQsos records { raw := "date:2026-01-01..2026-01-02" }).filter fun result =>
            StartsWithin days result.payload) ↔
        ∀ record ∈ records,
          (searchQso { raw := "date:2026-01-01..2026-01-02" } record).isSome →
            ¬ StartsLate days record.payload :=
  @dateTerm_exact_iff _ "date:2026-01-01..2026-01-02" _ _ (by decide +kernel)
    (by decide +kernel)

end HamLogger
