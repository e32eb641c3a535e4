import HamLogger.Core.AdifRoundTrip
import HamLogger.Server.HttpStream
import HamLogger.Server.SyncRouter

/-! A client that writes a request on a connection and reads the answer gets
what the handler returned, so the connection hides nothing and adds nothing. -/
namespace HamLogger

/-- An answer as a client reads it. -/
structure ReceivedResponse where
  status : Nat
  headers : KeyMap String String
  body : List UInt8
  deriving DecidableEq

/-- The client finds the status in the first line and reads the rest as the
server reads a request. -/
def readHttpResponse (connection : List UInt8) :
    Outcome HttpReadError (ReceivedResponse × List UInt8) := do
  let (statusLine, rest) ← readTextLine connection
  let (block, rest) ← readHeaders {} rest
  let (body, rest) ← readBody block.contentLength rest
  let status := (splitWhitespace statusLine)[1]?.bind fun word => parseUsize word.toList
  return ({ status := status.getD 0, headers := block.headers, body := body }, rest)

/-! The head of a response as lines. -/

def headerPairs (headers : KeyMap String String) : List (String × String) :=
  headers.entries.map fun header => (header.1, header.2)

/-- All headers of a response in the order they are written. -/
def responseHeaders (response : ApiResponse) : List (String × String) :=
  ("Content-Type", "application/json; charset=utf-8") :: headerPairs response.headers ++
    [("Content-Length", Nat.repr response.body.length),
      ("Connection", "close")]

def statusLine (response : ApiResponse) : List Char :=
  "HTTP/1.1".toList ++ ' ' :: (Nat.toDigits 10 response.status.toNat ++
    ' ' :: ((statusText response.status).toList ++ ['\r']))

theorem toBytes_append (first second : List Char) :
    Crates.toBytes (first ++ second) = Crates.toBytes first ++ Crates.toBytes second :=
  List.flatMap_append

theorem headLines_eq_toBytes (headers : List (String × String)) :
    headLines headers = Crates.toBytes
      (headers.flatMap (fun header => headerText header ++ ['\n']) ++ ['\r', '\n']) := by
  rw [headLines, toBytes_append]
  congr 1
  simp [Crates.toBytes, List.flatMap_assoc]

theorem headerLine_eq (name value : String) :
    headerLine name value = headerText (name, value) ++ ['\n'] := by
  have hColon : ": ".toList = [':', ' '] := rfl
  have hEnd : "\r\n".toList = ['\r', '\n'] := rfl
  simp only [headerLine, headerText, hColon, hEnd, List.append_assoc, List.cons_append,
    List.nil_append]

theorem extraHeaders_eq (headers : KeyMap String String) :
    extraHeaders headers =
      (headerPairs headers).flatMap fun header => headerText header ++ ['\n'] := by
  rw [extraHeaders, headerPairs, List.flatMap_map]
  exact congrArg (List.flatMap · headers.entries) (funext fun header => headerLine_eq _ _)

theorem responseHead_eq (response : ApiResponse) :
    responseHead response = statusLine response ++ ['\n'] ++
      ((responseHeaders response).flatMap (fun header => headerText header ++ ['\n']) ++
        ['\r', '\n']) := by
  have hBlank : " ".toList = [' '] := rfl
  have hEnd : "\r\n".toList = ['\r', '\n'] := rfl
  unfold responseHead statusLine responseHeaders
  simp only [headerLine_eq, extraHeaders_eq, hBlank, hEnd, List.flatMap_append,
    List.flatMap_cons, List.flatMap_nil, List.append_assoc, List.cons_append, List.nil_append]

theorem writeResponse_eq (response : ApiResponse) :
    writeResponse response = Crates.toBytes (statusLine response ++ ['\n']) ++
      (headLines (responseHeaders response) ++ response.body) := by
  rw [writeResponse, responseHead_eq, toBytes_append, headLines_eq_toBytes, List.append_assoc]

/-! The first line. -/

theorem isWord_digits (value : Nat) : IsWord (Nat.toDigits 10 value) := by
  refine ⟨Nat.toDigits_ne_nil, fun c hMem => ?_⟩
  have hDigit := Nat.isDigit_of_mem_toDigits (by decide) (by decide) hMem
  cases hBlank : isWhitespace c with
  | false => rfl
  | true =>
      simp only [Char.isDigit, Bool.and_eq_true, decide_eq_true_eq, UInt32.le_iff_toNat_le]
        at hDigit
      simp only [isWhitespace, Char.toNat, Bool.or_eq_true, Bool.and_eq_true,
        decide_eq_true_eq] at hBlank
      have hLow : 48 ≤ c.val.toNat := hDigit.1
      have hHigh : c.val.toNat ≤ 57 := hDigit.2
      omega

theorem secondWord {first second : List Char} (hFirst : IsWord first) (hSecond : IsWord second)
    (back : List Char) :
    (splitWhitespace (String.ofList (first ++ ' ' :: (second ++ ' ' :: back))))[1]? =
      some (String.ofList second) := by
  have hWords : wordsOf (first ++ ' ' :: (second ++ ' ' :: back)) =
      first :: second :: wordsOf back := by
    rw [wordsOf_word hFirst (by decide), wordsOf_word hSecond (by decide)]
  have hSplit : splitWhitespace (String.ofList (first ++ ' ' :: (second ++ ' ' :: back))) =
      (wordsOf (first ++ ' ' :: (second ++ ' ' :: back))).map String.ofList := by
    rw [splitWhitespace, String.toList_ofList]
    rfl
  rw [hSplit, hWords]
  rfl

theorem oneLine_statusText (status : UInt16) : Crates.OneLine (statusText status).toList := by
  unfold statusText Crates.OneLine
  split_ifs <;> decide

theorem oneLine_statusLine (response : ApiResponse) : Crates.OneLine (statusLine response) := by
  refine (WireRequest.oneLine_of_isWord WireRequest.isWord_version).append
    (Crates.OneLine.cons (by decide) ?_)
  refine (WireRequest.oneLine_of_isWord (isWord_digits _)).append
    (Crates.OneLine.cons (by decide) ?_)
  exact (oneLine_statusText response.status).append (by unfold Crates.OneLine; decide)

theorem statusWord (response : ApiResponse) :
    (splitWhitespace (String.ofList (statusLine response ++ ['\n'])))[1]? =
      some (Nat.repr response.status.toNat) := by
  have hLine : statusLine response ++ ['\n'] = "HTTP/1.1".toList ++ ' ' ::
      (Nat.toDigits 10 response.status.toNat ++
        ' ' :: ((statusText response.status).toList ++ ['\r', '\n'])) := by
    unfold statusLine
    simp only [List.append_assoc, List.cons_append, List.nil_append]
  rw [hLine]
  exact secondWord WireRequest.isWord_version (isWord_digits _) _

/-! The headers. -/

/-- A response whose own headers can be written on lines. -/
structure ResponsePlain (response : ApiResponse) : Prop where
  headers : ∀ header ∈ headerPairs response.headers, HeaderPlain header
  fits : response.body.length < 2 ^ 63

theorem trim_digits (value : Nat) : trim (Nat.repr value) = Nat.repr value := by
  refine trim_eq_self fun c hMem => (isWord_digits value).2 c ?_
  rwa [Nat.repr, String.toList_ofList] at hMem

theorem headerPlain_length (value : Nat) : HeaderPlain ("Content-Length", Nat.repr value) := by
  refine headerPlain_of (by decide) (WireRequest.oneLine_of_isWord ?_) (trim_digits value)
  rw [Nat.repr, String.toList_ofList]
  exact isWord_digits value

theorem headerPlain_type : HeaderPlain ("Content-Type", "application/json; charset=utf-8") :=
  headerPlain_of (by decide) (by unfold Crates.OneLine; decide) (by decide)

theorem headerPlain_close : HeaderPlain ("Connection", "close") :=
  headerPlain_of (by decide) (by unfold Crates.OneLine; decide) (by decide)

theorem ResponsePlain.all {response : ApiResponse} (h : ResponsePlain response) :
    ∀ header ∈ responseHeaders response, HeaderPlain header := by
  intro header hMem
  simp only [responseHeaders, List.cons_append, List.mem_cons, List.mem_append,
    List.not_mem_nil, or_false] at hMem
  rcases hMem with rfl | hOwn | rfl | rfl
  · exact headerPlain_type
  · exact h.headers header hOwn
  · exact headerPlain_length _
  · exact headerPlain_close

/-- The length written last counts, whatever the handler put before it. -/
theorem announcedLength_responseHeaders {response : ApiResponse} (h : ResponsePlain response) :
    announcedLength (responseHeaders response) = response.body.length := by
  have hDigits : parseUsize (Nat.toDigits 10 response.body.length) = some response.body.length :=
    parseUsize_toDigits (lt_of_lt_of_le h.fits (by decide))
  have hLength : toAsciiLowercase "Content-Length" = "content-length" := by decide
  have hClose : toAsciiLowercase "Connection" ≠ "content-length" := by decide
  rw [announcedLength, responseHeaders, List.filter_append]
  simp [hLength, hClose, hDigits]

/-- What a client reads of a response is its status, its headers and its body,
and nothing of the connection is left over. -/
theorem readHttpResponse_writeResponse {response : ApiResponse} (h : ResponsePlain response)
    (rest : List UInt8) :
    readHttpResponse (writeResponse response ++ rest) =
      .ok ({ status := response.status.toNat, headers := headerMap (responseHeaders response),
             body := response.body }, rest) := by
  have hHeaders := readHeaders_headLines h.all {} (response.body ++ rest)
  have hBody := WireRequest.readBody_append response.body rest h.fits
  have hStatus : parseUsize (Nat.repr response.status.toNat).toList =
      some response.status.toNat := by
    rw [Nat.repr, String.toList_ofList]
    exact parseUsize_toDigits (lt_of_lt_of_le response.status.toNat_lt (by decide))
  rw [foldl_record, announcedLength_responseHeaders h] at hHeaders
  rw [writeResponse_eq, List.append_assoc, List.append_assoc, readHttpResponse,
    readTextLine_line (oneLine_statusLine response)]
  simp only [bind, Except.bind, hHeaders, hBody, statusWord, Option.bind_some, hStatus,
    Option.getD_some]
  rfl

/-! A whole exchange. -/

def healthResponse : ApiResponse where
  status := 200
  headers := ∅
  body := Crates.toBytes "\x7b\"ok\":true\x7d".toList

end HamLogger
