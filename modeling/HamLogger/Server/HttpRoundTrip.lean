import HamLogger.Core.TextForms
import HamLogger.Server.HttpWire

/-! A request that a client wrote is read back as it was meant, whatever
follows it on the connection. -/
namespace HamLogger

/-! Blanks around a text. -/

theorem trimmed_append {text back : List Char} (hBack : ∀ c ∈ back, isWhitespace c = true) :
    (text ++ back).rdropWhile isWhitespace = text.rdropWhile isWhitespace := by
  have hReverse : back.reverse.dropWhile isWhitespace = [] :=
    List.dropWhile_eq_nil_iff.mpr fun c hMem => hBack c (List.mem_reverse.mp hMem)
  unfold List.rdropWhile
  rw [List.reverse_append, List.dropWhile_append, hReverse]
  rfl

theorem trim_append {text back : List Char} (hBack : ∀ c ∈ back, isWhitespace c = true) :
    trim (String.ofList (text ++ back)) = trim (String.ofList text) := by
  apply String.toList_injective
  rw [toList_trim, toList_trim, String.toList_ofList, String.toList_ofList,
    List.dropWhile_append]
  split
  · rename_i hBlank
    have hRest : back.dropWhile isWhitespace = [] := List.dropWhile_eq_nil_iff.mpr hBack
    rw [List.isEmpty_iff.mp hBlank, hRest]
  · exact trimmed_append hBack

theorem trim_cons {c : Char} (h : isWhitespace c = true) (text : List Char) :
    trim (String.ofList (c :: text)) = trim (String.ofList text) := by
  apply String.toList_injective
  rw [toList_trim, toList_trim, String.toList_ofList, String.toList_ofList,
    List.dropWhile_cons_of_pos h]

/-- What `trim_end` takes away, `trim` would take away as well. -/
theorem trim_rdropWhile (text : List Char) :
    trim (String.ofList (text.rdropWhile isWhitespace)) = trim (String.ofList text) := by
  have hWhole : text.rdropWhile isWhitespace ++ text.rtakeWhile isWhitespace = text :=
    List.rdropWhile_append_rtakeWhile
  have hBlank : ∀ c ∈ text.rtakeWhile isWhitespace, isWhitespace c = true :=
    fun c hMem => List.mem_rtakeWhile_imp hMem
  conv_rhs => rw [← hWhole]
  exact (trim_append hBlank).symm

/-- A character that is no blank stops the trimming from behind. -/
theorem rdropWhile_append_cons {c : Char} (h : isWhitespace c = false) (front back : List Char) :
    (front ++ c :: back).rdropWhile isWhitespace =
      front ++ c :: back.rdropWhile isWhitespace := by
  induction back using List.reverseRecOn with
  | nil => simp [List.rdropWhile_concat_neg, h]
  | append_singleton more last ih =>
      cases hLast : isWhitespace last with
      | true =>
          rw [List.rdropWhile_concat_pos _ _ _ hLast]
          have hAll : front ++ c :: (more ++ [last]) = (front ++ c :: more) ++ [last] := by simp
          rw [hAll, List.rdropWhile_concat_pos _ _ _ hLast, ih]
      | false =>
          rw [List.rdropWhile_concat_neg _ _ _ (by simp [hLast])]
          have hAll : front ++ c :: (more ++ [last]) = (front ++ c :: more) ++ [last] := by simp
          rw [hAll, List.rdropWhile_concat_neg _ _ _ (by simp [hLast])]

/-! The lines of a request. -/

/-- A word of the request line. -/
def IsWord (text : List Char) : Prop :=
  text ≠ [] ∧ ∀ c ∈ text, isWhitespace c = false

theorem isWord_of_all {text : List Char} (hFilled : text ≠ [])
    (h : (text.all fun c => !isWhitespace c) = true) : IsWord text :=
  ⟨hFilled, fun c hMem => by simpa using List.all_eq_true.mp h c hMem⟩

/-- The words of a text, as lists of characters. -/
def wordsOf (text : List Char) : List (List Char) :=
  (text.splitOnP isWhitespace).filter fun word => !word.isEmpty

theorem wordsOf_word {word : List Char} (h : IsWord word) {c : Char}
    (hBlank : isWhitespace c = true) (rest : List Char) :
    wordsOf (word ++ c :: rest) = word :: wordsOf rest := by
  rw [wordsOf, List.splitOnP_append_cons_of_forall_mem h.2 c hBlank,
    List.filter_cons_of_pos (by simp [h.1])]
  rfl

theorem wordsOf_blanks {text : List Char} (h : ∀ c ∈ text, isWhitespace c = true) :
    wordsOf text = [] := by
  induction text with
  | nil => rfl
  | cons c rest ih =>
      have hRest := ih fun other hMem => h other (List.mem_cons_of_mem c hMem)
      have hStep : ([] ++ c :: rest).splitOnP isWhitespace = [] :: rest.splitOnP isWhitespace :=
        List.splitOnP_append_cons_of_forall_mem (by simp) c (h c List.mem_cons_self) rest
      rw [wordsOf, ← List.nil_append (c :: rest), hStep]
      exact hRest

theorem splitWhitespace_words {first second third : List Char} (hFirst : IsWord first)
    (hSecond : IsWord second) (hThird : IsWord third) {c : Char} {back : List Char}
    (hBlank : isWhitespace c = true) (hBack : ∀ other ∈ back, isWhitespace other = true) :
    splitWhitespace (String.ofList (first ++ ' ' :: (second ++ ' ' :: (third ++ c :: back)))) =
      [String.ofList first, String.ofList second, String.ofList third] := by
  have hWords : wordsOf (first ++ ' ' :: (second ++ ' ' :: (third ++ c :: back))) =
      [first, second, third] := by
    rw [wordsOf_word hFirst (by decide), wordsOf_word hSecond (by decide),
      wordsOf_word hThird hBlank, wordsOf_blanks hBack]
  rw [splitWhitespace, String.toList_ofList]
  exact congrArg (List.map String.ofList) hWords

/-- A line of text, which the reader gets whole. -/
theorem readTextLine_line {text : List Char} (h : Crates.OneLine text) (rest : List UInt8) :
    readTextLine (Crates.toBytes (text ++ ['\n']) ++ rest) =
      .ok (String.ofList (text ++ ['\n']), rest) := by
  have hBytes : Crates.toBytes (text ++ ['\n']) = Crates.toBytes text ++ [10] := by
    simp only [Crates.toBytes, List.flatMap_append, List.flatMap_cons, List.flatMap_nil,
      List.append_nil]
    rfl
  have hLine : LineStream.readLine 10 (Crates.toBytes (text ++ ['\n']) ++ rest) =
      (Crates.toBytes (text ++ ['\n']), rest) := by
    rw [hBytes, List.append_assoc, List.singleton_append,
      LineStream.readLine_line (Crates.newline_not_mem_toBytes h) rest]
  rw [readTextLine, hLine, Crates.fromUTF8?_toBytes]

/-- A header that can be written on a line and read back. -/
structure HeaderPlain (header : String × String) : Prop where
  nameLine : Crates.OneLine header.1.toList
  nameColon : ':' ∉ header.1.toList
  nameTrim : trim header.1 = header.1
  valueLine : Crates.OneLine header.2.toList
  valueTrim : trim header.2 = header.2

/-- A name that is known, with a value. -/
theorem headerPlain_of {name value : String}
    (hName : (name.toList.all fun c => !isWhitespace c && c != ':') = true)
    (hLine : Crates.OneLine value.toList) (hTrim : trim value = value) :
    HeaderPlain (name, value) := by
  have hChars : ∀ c ∈ name.toList, isWhitespace c = false ∧ c ≠ ':' :=
    fun c hMem => by simpa using List.all_eq_true.mp hName c hMem
  exact { nameLine := fun hMem => absurd (hChars _ hMem).1 (by decide)
          nameColon := fun hMem => (hChars _ hMem).2 rfl
          nameTrim := trim_eq_self fun c hMem => (hChars c hMem).1
          valueLine := hLine
          valueTrim := hTrim }

def headerText (header : String × String) : List Char :=
  header.1.toList ++ ':' :: ' ' :: (header.2.toList ++ ['\r'])

/-- What a header adds to the block. -/
def HeaderBlock.record (block : HeaderBlock) (header : String × String) : HeaderBlock where
  headers := block.headers.insert (toAsciiLowercase header.1) header.2
  contentLength :=
    if toAsciiLowercase header.1 = "content-length" then (parseUsize header.2.toList).getD 0
    else block.contentLength

theorem trimEnd_headerText (header : String × String) :
    trimEnd (String.ofList (headerText header ++ ['\n'])) =
      String.ofList (header.1.toList ++ ':' ::
        (' ' :: (header.2.toList ++ ['\r', '\n'])).rdropWhile isWhitespace) := by
  have hText : headerText header ++ ['\n'] =
      header.1.toList ++ ':' :: ' ' :: (header.2.toList ++ ['\r', '\n']) := by
    simp [headerText]
  rw [trimEnd, String.toList_ofList, hText, rdropWhile_append_cons (by decide)]

theorem toAsciiLowercase_twice (text : String) :
    toAsciiLowercase (toAsciiLowercase text) = toAsciiLowercase text := by
  simp [toAsciiLowercase, Function.comp_def]

theorem isWhitespace_lineEnd : ∀ c ∈ ['\r', '\n'], isWhitespace c = true := by
  intro c hMem
  simp only [List.mem_cons, List.not_mem_nil, or_false] at hMem
  rcases hMem with rfl | rfl <;> decide

theorem HeaderBlock.add_headerText {header : String × String} (h : HeaderPlain header)
    (block : HeaderBlock) :
    block.add (trimEnd (String.ofList (headerText header ++ ['\n']))) = block.record header := by
  have hValue : trim (String.ofList
      ((' ' :: (header.2.toList ++ ['\r', '\n'])).rdropWhile isWhitespace)) = header.2 := by
    rw [trim_rdropWhile, trim_cons (by decide), trim_append isWhitespace_lineEnd,
      String.ofList_toList, h.valueTrim]
  rw [trimEnd_headerText, HeaderBlock.add, String.toList_ofList,
    ByteText.splitOnce_append h.nameColon]
  simp only [String.ofList_toList, h.nameTrim, hValue]
  unfold HeaderBlock.record eqIgnoreAsciiCase
  simp only [toAsciiLowercase_twice]
  have hName : toAsciiLowercase "content-length" = "content-length" := by decide
  simp only [hName, decide_eq_true_eq]

/-- The header lines and the blank line behind them. -/
def headLines (headers : List (String × String)) : List UInt8 :=
  headers.flatMap (fun header => Crates.toBytes (headerText header ++ ['\n'])) ++
    Crates.toBytes ['\r', '\n']

theorem trimEnd_blankLine : trimEnd (String.ofList ['\r', '\n']) = "" := by
  decide

theorem oneLine_headerText {header : String × String} (h : HeaderPlain header) :
    Crates.OneLine (headerText header) := by
  refine h.nameLine.append (Crates.OneLine.cons (by decide) (Crates.OneLine.cons (by decide) ?_))
  exact h.valueLine.append (by unfold Crates.OneLine; decide)

theorem trimEnd_headerText_ne (header : String × String) :
    trimEnd (String.ofList (headerText header ++ ['\n'])) ≠ "" := by
  rw [trimEnd_headerText]
  intro h
  have hNil := congrArg String.toList h
  simp at hNil

theorem readHeaders_of_line {connection rest : List UInt8} {text : String}
    (h : readTextLine connection = .ok (text, rest)) (block : HeaderBlock) :
    readHeaders block connection =
      if trimEnd text = "" then .ok (block, rest)
      else readHeaders (block.add (trimEnd text)) rest := by
  rw [readHeaders]
  split
  · rename_i fault hFault
    exact absurd (hFault.symm.trans h) (by simp)
  · rename_i found more hFound
    obtain ⟨rfl, rfl⟩ := Prod.mk.inj (Except.ok.inj (hFound.symm.trans h))
    rfl

/-- The loop records the headers in order and stops behind the blank line. -/
theorem readHeaders_headLines {headers : List (String × String)}
    (h : ∀ header ∈ headers, HeaderPlain header) (block : HeaderBlock) (rest : List UInt8) :
    readHeaders block (headLines headers ++ rest) =
      .ok (headers.foldl HeaderBlock.record block, rest) := by
  induction headers generalizing block with
  | nil =>
      have hReturn : Crates.OneLine ['\r'] := by
        unfold Crates.OneLine
        decide
      have hBlank : trimEnd (String.ofList (['\r'] ++ ['\n'])) = "" := trimEnd_blankLine
      have hHead : headLines [] = Crates.toBytes (['\r'] ++ ['\n']) := rfl
      rw [hHead, readHeaders_of_line (readTextLine_line hReturn rest), if_pos hBlank]
      rfl
  | cons header others ih =>
      have hPlain := h header List.mem_cons_self
      have hOthers := fun other hMem => h other (List.mem_cons_of_mem header hMem)
      have hSplit : headLines (header :: others) ++ rest =
          Crates.toBytes (headerText header ++ ['\n']) ++ (headLines others ++ rest) := by
        simp [headLines]
      rw [hSplit, readHeaders_of_line (readTextLine_line (oneLine_headerText hPlain) _),
        if_neg (trimEnd_headerText_ne header), HeaderBlock.add_headerText hPlain]
      exact ih hOthers _

/-! The target of a request. -/

/-- A key and a value that the query can hold. -/
structure ParamPlain (param : String × String) : Prop where
  keyWord : ∀ c ∈ param.1.toList, isWhitespace c = false
  keyMarks : '=' ∉ param.1.toList ∧ '&' ∉ param.1.toList
  valueBlanks : ∀ c ∈ param.2.toList, isWhitespace c = true → c = ' '
  valueMarks : '+' ∉ param.2.toList ∧ '&' ∉ param.2.toList

def paramText (param : String × String) : List Char :=
  param.1.toList ++ '=' :: param.2.toList.map fun c => if c = ' ' then '+' else c

theorem queryParameter_paramText {param : String × String} (h : ParamPlain param) :
    queryParameter (paramText param) = param := by
  have hBack : (param.2.toList.map fun c => if c = ' ' then '+' else c).map
      (fun c => if c = '+' then ' ' else c) = param.2.toList := by
    rw [List.map_map]
    refine (List.map_congr_left fun c hMem => ?_).trans (List.map_id _)
    have hPlus : c ≠ '+' := fun hSame => h.valueMarks.1 (hSame ▸ hMem)
    by_cases hBlank : c = ' '
    · simp [hBlank]
    · simp [hBlank, hPlus]
  rw [queryParameter, paramText, ByteText.splitOnce_append h.keyMarks.1]
  simp only [Option.getD_some, String.ofList_toList, hBack]

theorem splitOnChar_ne_nil (mark : Char) (text : List Char) : splitOnChar mark text ≠ [] := by
  cases text with
  | nil => simp [splitOnChar]
  | cons c rest =>
      rw [splitOnChar]
      split
      · simp
      · split <;> simp

theorem splitOnChar_append {mark : Char} {front : List Char} (h : mark ∉ front)
    (back : List Char) :
    splitOnChar mark (front ++ mark :: back) = front :: splitOnChar mark back := by
  induction front with
  | nil =>
      obtain ⟨part, parts, hParts⟩ := List.exists_cons_of_ne_nil (splitOnChar_ne_nil mark back)
      simp [splitOnChar, hParts]
  | cons c rest ih =>
      have hFirst : c ≠ mark := fun hSame => h (by simp [hSame])
      have hRest := ih fun hMem => h (List.mem_cons_of_mem c hMem)
      rw [List.cons_append, splitOnChar, hRest]
      simp [hFirst]

theorem splitOnChar_of_not_mem {mark : Char} {text : List Char} (h : mark ∉ text) :
    splitOnChar mark text = [text] := by
  induction text with
  | nil => rfl
  | cons c rest ih =>
      have hFirst : c ≠ mark := fun hSame => h (by simp [hSame])
      have hRest := ih fun hMem => h (List.mem_cons_of_mem c hMem)
      rw [splitOnChar, hRest]
      simp [hFirst]

/-- Parts without the mark are told apart again. -/
theorem splitOnChar_intercalate {mark : Char} {first : List Char} {others : List (List Char)}
    (h : ∀ part ∈ first :: others, mark ∉ part) :
    splitOnChar mark ([mark].intercalate (first :: others)) = first :: others := by
  induction others generalizing first with
  | nil =>
      rw [List.intercalate_singleton]
      exact splitOnChar_of_not_mem (h first List.mem_cons_self)
  | cons second rest ih =>
      have hRest := ih fun part hMem => h part (List.mem_cons_of_mem first hMem)
      rw [List.intercalate_cons_cons, List.append_assoc, List.singleton_append,
        splitOnChar_append (h first List.mem_cons_self), hRest]

def queryText (params : List (String × String)) : List Char :=
  ['&'].intercalate (params.map paramText)

theorem ampersand_not_mem_paramText {param : String × String} (h : ParamPlain param) :
    '&' ∉ paramText param := by
  intro hMem
  rcases List.mem_append.mp hMem with hKey | hValue
  · exact h.keyMarks.2 hKey
  · rcases List.mem_cons.mp hValue with hMark | hRest
    · cases hMark
    · obtain ⟨c, hChar, hEq⟩ := List.mem_map.mp hRest
      by_cases hBlank : c = ' '
      · rw [if_pos hBlank] at hEq
        cases hEq
      · rw [if_neg hBlank] at hEq
        exact h.valueMarks.2 (hEq ▸ hChar)

/-- The parameters of a query, a later one in place of an earlier one. -/
def paramMap (params : List (String × String)) : KeyMap String String :=
  params.foldl (fun map param => map.insert param.1 param.2) ∅

theorem parseQuery_queryText {params : List (String × String)}
    (h : ∀ param ∈ params, ParamPlain param) :
    parseQuery (String.ofList (queryText params)) = paramMap params := by
  cases params with
  | nil => rfl
  | cons first others =>
      have hMarks : ∀ part ∈ paramText first :: others.map paramText, '&' ∉ part := by
        intro part hMem
        obtain ⟨param, hParam, rfl⟩ := List.mem_map.mp (show part ∈
          (first :: others).map paramText from hMem)
        exact ampersand_not_mem_paramText (h param hParam)
      have hFilled : ((first :: others).map paramText).filter (· ≠ []) =
          (first :: others).map paramText := by
        refine List.filter_eq_self.mpr fun part hMem => ?_
        obtain ⟨param, _, rfl⟩ := List.mem_map.mp hMem
        simp [paramText]
      have hParams : ((first :: others).map paramText).map queryParameter = first :: others := by
        rw [List.map_map]
        exact (List.map_congr_left fun param hMem =>
          queryParameter_paramText (h param hMem)).trans (List.map_id _)
      rw [parseQuery, String.toList_ofList, queryText, List.map_cons,
        splitOnChar_intercalate hMarks, ← List.map_cons, hFilled, hParams, paramMap]

theorem isWhitespace_paramText {param : String × String} (h : ParamPlain param) :
    ∀ c ∈ paramText param, isWhitespace c = false := by
  intro c hMem
  rcases List.mem_append.mp hMem with hKey | hValue
  · exact h.keyWord c hKey
  · rcases List.mem_cons.mp hValue with rfl | hRest
    · decide
    · obtain ⟨other, hChar, hEq⟩ := List.mem_map.mp hRest
      by_cases hBlank : other = ' '
      · rw [if_pos hBlank] at hEq
        rw [← hEq]
        decide
      · rw [if_neg hBlank] at hEq
        subst hEq
        cases hSpace : isWhitespace other with
        | false => rfl
        | true => exact absurd (h.valueBlanks other hChar hSpace) hBlank

theorem isWhitespace_queryText {params : List (String × String)}
    (h : ∀ param ∈ params, ParamPlain param) :
    ∀ c ∈ queryText params, isWhitespace c = false := by
  induction params with
  | nil => simp [queryText]
  | cons first others ih =>
      have hFirst := isWhitespace_paramText (h first List.mem_cons_self)
      have hOthers := ih fun param hMem => h param (List.mem_cons_of_mem first hMem)
      cases others with
      | nil => simpa [queryText] using hFirst
      | cons second rest =>
          intro c hMem
          rw [queryText, List.map_cons, List.map_cons, List.intercalate_cons_cons,
            List.append_assoc] at hMem
          rcases List.mem_append.mp hMem with hHere | hLater
          · exact hFirst c hHere
          · rcases List.mem_cons.mp hLater with rfl | hRest
            · decide
            · exact hOthers c hRest

/-! The length of the body. -/

/-- What the last header of this name announces. -/
def announcedLength (headers : List (String × String)) : Nat :=
  ((headers.filter fun header => toAsciiLowercase header.1 = "content-length").getLast?.elim 0
    fun header => (parseUsize header.2.toList).getD 0)

/-- The headers under their lower-case names, a later one in place of an
earlier one. -/
def headerMap (headers : List (String × String)) : KeyMap String String :=
  headers.foldl (fun map header => map.insert (toAsciiLowercase header.1) header.2) ∅

theorem foldl_record (headers : List (String × String)) :
    headers.foldl HeaderBlock.record {} =
      { headers := headerMap headers, contentLength := announcedLength headers } := by
  induction headers using List.reverseRecOn with
  | nil => rfl
  | append_singleton before header ih =>
      rw [List.foldl_concat, ih]
      by_cases hName : toAsciiLowercase header.1 = "content-length"
      · simp [HeaderBlock.record, headerMap, announcedLength, hName]
      · simp [HeaderBlock.record, headerMap, announcedLength, hName]

/-- A request as a client can write it. -/
structure WireRequest where
  method : String
  path : String
  params : List (String × String)
  headers : List (String × String)
  body : List UInt8
  methodWord : IsWord method.toList
  pathWord : IsWord path.toList
  pathMark : '?' ∉ path.toList
  paramsPlain : ∀ param ∈ params, ParamPlain param
  headersPlain : ∀ header ∈ headers, HeaderPlain header
  framed : announcedLength headers = body.length
  fits : body.length < 2 ^ 63

namespace WireRequest

def target (request : WireRequest) : List Char :=
  request.path.toList ++
    if request.params = [] then [] else '?' :: queryText request.params

def requestLine (request : WireRequest) : List Char :=
  request.method.toList ++ ' ' :: (request.target ++ ' ' :: ("HTTP/1.1".toList ++ ['\r']))

def toBytes (request : WireRequest) : List UInt8 :=
  Crates.toBytes (request.requestLine ++ ['\n']) ++ headLines request.headers ++ request.body

/-- What the server should make of it. -/
def meaning (request : WireRequest) : ApiRequest where
  method := request.method
  path := request.path
  query := paramMap request.params
  headers := headerMap request.headers
  body := request.body

theorem isWord_target (request : WireRequest) : IsWord request.target := by
  refine ⟨fun hNil => request.pathWord.1 (List.append_eq_nil_iff.mp hNil).1, fun c hMem => ?_⟩
  rcases List.mem_append.mp hMem with hPath | hQuery
  · exact request.pathWord.2 c hPath
  · split at hQuery
    · cases hQuery
    · rcases List.mem_cons.mp hQuery with rfl | hRest
      · decide
      · exact isWhitespace_queryText request.paramsPlain c hRest

theorem splitTarget_target (request : WireRequest) :
    splitTarget (String.ofList request.target) =
      (request.path, String.ofList (queryText request.params)) := by
  rw [splitTarget, String.toList_ofList, target]
  split_ifs with hParams
  · have hNone : ByteText.splitOnce '?' request.path.toList = none :=
      ByteText.splitOnce_eq_none_iff.mpr request.pathMark
    rw [List.append_nil, hNone, hParams, String.ofList_toList]
    rfl
  · rw [ByteText.splitOnce_append request.pathMark]
    simp only [String.ofList_toList]

theorem isWord_version : IsWord "HTTP/1.1".toList :=
  isWord_of_all (by decide) (by decide)

theorem oneLine_of_isWord {text : List Char} (h : IsWord text) : Crates.OneLine text := by
  intro hMem
  have hBlank := h.2 _ hMem
  revert hBlank
  decide

theorem oneLine_requestLine (request : WireRequest) : Crates.OneLine request.requestLine := by
  refine (oneLine_of_isWord request.methodWord).append (Crates.OneLine.cons (by decide) ?_)
  refine (oneLine_of_isWord request.isWord_target).append (Crates.OneLine.cons (by decide) ?_)
  refine (oneLine_of_isWord isWord_version).append ?_
  unfold Crates.OneLine
  decide

theorem splitWhitespace_requestLine (request : WireRequest) :
    splitWhitespace (String.ofList (request.requestLine ++ ['\n'])) =
      [request.method, String.ofList request.target, "HTTP/1.1"] := by
  have hLine : request.requestLine ++ ['\n'] = request.method.toList ++ ' ' ::
      (request.target ++ ' ' :: ("HTTP/1.1".toList ++ '\r' :: ['\n'])) := by
    simp [requestLine]
  have hEnd : ∀ c ∈ ['\n'], isWhitespace c = true :=
    fun c hMem => isWhitespace_lineEnd c (List.mem_cons_of_mem _ hMem)
  rw [hLine, splitWhitespace_words request.methodWord request.isWord_target isWord_version
    (by decide) hEnd, String.ofList_toList, String.ofList_toList]

theorem readBody_append (body rest : List UInt8) (h : body.length < 2 ^ 63) :
    readBody body.length (body ++ rest) = .ok (body, rest) := by
  have hFits : ¬ 2 ^ 63 ≤ body.length := by omega
  have hEnough : ¬ (body ++ rest).length < body.length := by simp
  rw [readBody, if_neg hFits, if_neg hEnough, List.take_left, List.drop_left]

theorem ofParts_requestLine (request : WireRequest) :
    ApiRequest.ofParts (String.ofList (request.requestLine ++ ['\n'])) (headerMap request.headers)
      request.body = request.meaning := by
  simp only [ApiRequest.ofParts, request.splitWhitespace_requestLine, List.getElem?_cons_zero,
    List.getElem?_cons_succ, Option.getD_some, request.splitTarget_target,
    parseQuery_queryText request.paramsPlain]
  rfl

/-- The server reads the request that the client meant and leaves what comes
after it on the connection. -/
theorem readHttpRequest_toBytes (request : WireRequest) (rest : List UInt8) :
    readHttpRequest (request.toBytes ++ rest) = .ok (request.meaning, rest) := by
  have hBytes : request.toBytes ++ rest = Crates.toBytes (request.requestLine ++ ['\n']) ++
      (headLines request.headers ++ (request.body ++ rest)) := by
    simp [toBytes]
  have hHeaders := readHeaders_headLines request.headersPlain {} (request.body ++ rest)
  have hBody := readBody_append request.body rest request.fits
  rw [foldl_record, request.framed] at hHeaders
  rw [hBytes, readHttpRequest, readTextLine_line request.oneLine_requestLine]
  simp only [bind, Except.bind, hHeaders, hBody, request.ofParts_requestLine]
  rfl

end WireRequest

/-- A request for the health of the servers. -/
def healthRequest : WireRequest where
  method := "GET"
  path := "/health"
  params := []
  headers := [("Host", "127.0.0.1"), ("Content-Length", "0")]
  body := []
  methodWord := isWord_of_all (by decide) (by decide)
  pathWord := isWord_of_all (by decide) (by decide)
  pathMark := by decide
  paramsPlain := fun _ h => absurd h List.not_mem_nil
  headersPlain := by
    intro header hMem
    simp only [List.mem_cons, List.not_mem_nil, or_false] at hMem
    rcases hMem with rfl | rfl
    · exact headerPlain_of (by decide) (by unfold Crates.OneLine; decide) (by decide)
    · exact headerPlain_of (by decide) (by unfold Crates.OneLine; decide) (by decide)
  framed := by decide
  fits := by decide

end HamLogger
