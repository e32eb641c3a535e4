import HamLogger.Core.Adif
import HamLogger.Core.EventLines
import HamLogger.Core.Search
import HamLogger.Library.KeyMap
import HamLogger.Library.LineStream
import HamLogger.Sync.HostedAccount

/-! Requests and responses on a connection. A connection is the bytes that a
client sends until it closes its side. -/
namespace HamLogger

structure ApiRequest where
  method : String
  path : String
  query : KeyMap String String
  headers : KeyMap String String
  body : List UInt8
  deriving DecidableEq

structure ApiResponse where
  status : UInt16
  headers : KeyMap String String
  body : List UInt8
  deriving DecidableEq

/-! Targets. -/

def splitTarget (target : String) : String × String :=
  match ByteText.splitOnce '?' target.toList with
  | some (path, query) => (String.ofList path, String.ofList query)
  | none => (target, "")

/-- One key with its value, where a plus sign of the value stands for a blank. -/
def queryParameter (part : List Char) : String × String :=
  let (key, value) := (ByteText.splitOnce '=' part).getD (part, [])
  (String.ofList key, String.ofList (value.map fun c => if c = '+' then ' ' else c))

def parseQuery (query : String) : KeyMap String String :=
  (((splitOnChar '&' query.toList).filter (· ≠ [])).map queryParameter).foldl
    (fun map parameter => map.insert parameter.1 parameter.2) ∅

/-! Reading. -/

/-- The errors of the standard library that reading a request meets. -/
inductive HttpReadError where
  | invalidData | unexpectedEof
  deriving DecidableEq

/-- `str::trim_end`. -/
def trimEnd (text : String) : String :=
  String.ofList (text.toList.rdropWhile isWhitespace)

/-- `read_line` into an empty string. -/
def readTextLine (connection : List UInt8) : Outcome HttpReadError (String × List UInt8) :=
  match String.fromUTF8? ⟨(LineStream.readLine 10 connection).1.toArray⟩ with
  | none => .error (.error .invalidData)
  | some text => .ok (text, (LineStream.readLine 10 connection).2)

/-- A line that is not empty was taken from the connection. -/
theorem length_of_readTextLine {connection rest : List UInt8} {text : String}
    (h : readTextLine connection = .ok (text, rest)) (hText : trimEnd text ≠ "") :
    rest.length < connection.length := by
  unfold readTextLine at h
  split at h
  · cases h
  · rename_i found hFound
    obtain ⟨rfl, rfl⟩ := Prod.mk.inj (Except.ok.inj h)
    refine LineStream.length_readLine_lt fun hEmpty => hText ?_
    have hBlank : String.fromUTF8? ⟨([] : List UInt8).toArray⟩ = some "" :=
      Crates.fromUTF8?_toBytes []
    rw [hEmpty, hBlank] at hFound
    rw [← Option.some.inj hFound]
    decide

/-- The headers read so far and the length of the body they announce. -/
structure HeaderBlock where
  headers : KeyMap String String := ∅
  contentLength : Nat := 0
  deriving DecidableEq

/-- A line without a colon is skipped, and a length that is no number counts
as zero. -/
def HeaderBlock.add (block : HeaderBlock) (header : String) : HeaderBlock :=
  match ByteText.splitOnce ':' header.toList with
  | none => block
  | some (front, back) =>
      let name := toAsciiLowercase (trim (String.ofList front))
      let value := trim (String.ofList back)
      { headers := block.headers.insert name value
        contentLength :=
          if eqIgnoreAsciiCase name "content-length" then (parseUsize value.toList).getD 0
          else block.contentLength }

/-- The loop over the header lines, up to a blank one or the end of the
connection. -/
def readHeaders (block : HeaderBlock) (connection : List UInt8) :
    Outcome HttpReadError (HeaderBlock × List UInt8) :=
  match _h : readTextLine connection with
  | .error fault => .error fault
  | .ok (text, rest) =>
      if _hText : trimEnd text = "" then .ok (block, rest)
      else readHeaders (block.add (trimEnd text)) rest
termination_by connection.length
decreasing_by exact length_of_readTextLine _h _hText

/-- The buffer of the body is allocated before anything is read into it, which
panics beyond the largest size of an allocation. -/
def readBody (contentLength : Nat) (connection : List UInt8) :
    Outcome HttpReadError (List UInt8 × List UInt8) :=
  if 2 ^ 63 ≤ contentLength then .error .panic
  else if connection.length < contentLength then .error (.error .unexpectedEof)
  else .ok (connection.take contentLength, connection.drop contentLength)

/-- The request of a request line, its headers and its body. -/
def ApiRequest.ofParts (requestLine : String) (headers : KeyMap String String)
    (body : List UInt8) : ApiRequest :=
  let parts := splitWhitespace requestLine
  let method := parts[0]?.getD "GET"
  let target := parts[1]?.getD "/"
  let (path, query) := splitTarget target
  { method := method, path := path, query := parseQuery query, headers := headers, body := body }

/-- The request at the front of a connection, and the bytes after it. -/
def readHttpRequest (connection : List UInt8) :
    Outcome HttpReadError (ApiRequest × List UInt8) := do
  let (requestLine, rest) ← readTextLine connection
  let (block, rest) ← readHeaders {} rest
  let (body, rest) ← readBody block.contentLength rest
  return (ApiRequest.ofParts requestLine block.headers body, rest)

/-! Writing. -/

def statusText (status : UInt16) : String :=
  if status = 200 then "OK"
  else if status = 400 then "Bad Request"
  else if status = 401 then "Unauthorized"
  else if status = 403 then "Forbidden"
  else if status = 404 then "Not Found"
  else if status = 500 then "Internal Server Error"
  else "OK"

def headerLine (name value : String) : List Char :=
  name.toList ++ ": ".toList ++ value.toList ++ "\r\n".toList

def extraHeaders (headers : KeyMap String String) : List Char :=
  headers.entries.flatMap fun header => headerLine header.1 header.2

/-- The text before the body of a response. -/
def responseHead (response : ApiResponse) : List Char :=
  "HTTP/1.1".toList ++ " ".toList ++ Nat.toDigits 10 response.status.toNat ++ " ".toList ++
    (statusText response.status).toList ++ "\r\n".toList ++
    headerLine "Content-Type" "application/json; charset=utf-8" ++
    extraHeaders response.headers ++
    headerLine "Content-Length" (Nat.repr response.body.length) ++
    headerLine "Connection" "close" ++ "\r\n".toList

def writeResponse (response : ApiResponse) : List UInt8 :=
  Crates.toBytes (responseHead response) ++ response.body

end HamLogger
