import HamLogger.Core.Bus
import HamLogger.Library.Replacement

/-! Uploads to the providers of log services over HTTP: which fields of the
credential a request carries, what an answer becomes, and the redaction of
errors. A request is left out, since its answer may be anything. -/
namespace HamLogger.LiveUpload

open Replacement (replace)

structure ProviderHttpResponse where
  status : UInt16
  body : String

inductive ProviderHttpError where
  | timeout
  | httpStatus (status : UInt16) (body : String)
  | responseTooLarge (limitBytes : Nat)
  | transport (message : String)
  | unsupported (message : String)

def ProviderHttpError.toString : ProviderHttpError → String
  | .timeout => "provider HTTP request timed out"
  | .httpStatus status body =>
      "provider HTTP status " ++ Nat.repr status.toNat ++ ": " ++ body
  | .responseTooLarge limitBytes =>
      "provider HTTP response exceeded " ++ Nat.repr limitBytes ++ " bytes"
  | .transport message => "provider HTTP transport failed: " ++ message
  | .unsupported message => "provider operation is unsupported: " ++ message

/-- `str::replace`. -/
def strReplace (text pattern mark : String) : String :=
  String.ofList (replace pattern.toList mark.toList text.toList)

def redactProviderText (value : String) (secrets : List String) : String :=
  secrets.foldl (fun redacted secret =>
    if secret = "" then redacted else strReplace redacted secret "[REDACTED]") value

def redactHttpError (error : ProviderHttpError) (secrets : List String) : ProviderHttpError :=
  match error with
  | .httpStatus status body => .httpStatus status (redactProviderText body secrets)
  | .transport message => .transport (redactProviderText message secrets)
  | other => other

inductive UploadJobStatus where
  | succeeded | failed
  deriving DecidableEq

/-- What an upload came to. The drawn identifier of a success is left out. -/
structure ProviderUploadExecution where
  providerId : String
  status : UploadJobStatus
  acceptedCount : Nat
  rejectedCount : Nat
  resultSummary : String
  failureReason : Option String
  redactedError : Option String
  retryable : Bool
  deriving DecidableEq

structure ProviderUploadInput where
  providerId : String
  qsoCount : Nat
  credentialFields : String → Option String

def requiredField (fields : String → Option String) (names : List String) :
    Except String String :=
  match (names.findSome? fields).filter fun value => trim value ≠ "" with
  | some value => .ok value
  | none => .error ("credential secret is missing " ++ "/".intercalate names)

def providerUploadSuccess (providerId : String) (qsoCount : Nat) (summary : String) :
    ProviderUploadExecution where
  providerId := providerId
  status := .succeeded
  acceptedCount := qsoCount
  rejectedCount := 0
  resultSummary := summary
  failureReason := none
  redactedError := none
  retryable := false

def providerUploadFailure (providerId : String) (qsoCount : Nat) (summary error : String)
    (retryable : Bool) : ProviderUploadExecution where
  providerId := providerId
  status := .failed
  acceptedCount := 0
  rejectedCount := qsoCount
  resultSummary := summary
  failureReason := some summary
  redactedError := some error
  retryable := retryable

section Parsing
variable (input : ProviderUploadInput) (response : ProviderHttpResponse)

def parseClublogUploadResponse : ProviderUploadExecution :=
  let body := trim response.body
  let failure := providerUploadFailure input.providerId input.qsoCount
  if response.status = 403 then failure "Club Log authentication failed" body false
  else if response.status = 400 then failure "Club Log rejected the QSO" body false
  else if 500 ≤ response.status then failure "Club Log temporary server failure" body true
  else
    let lower := toAsciiLowercase body
    if response.status = 200 ∧ (strContains lower "qso ok" || strContains lower "qso duplicate" ||
        strContains lower "qso modified" || strContains lower "accepted") then
      providerUploadSuccess input.providerId input.qsoCount body
    else failure "Club Log returned an unrecognized response" body false

def parseQrzLogbookUploadResponse : ProviderUploadExecution :=
  let body := trim response.body
  let lower := toAsciiLowercase body
  let failure := providerUploadFailure input.providerId input.qsoCount
  if 500 ≤ response.status then failure "QRZ Logbook temporary server failure" body true
  else if response.status = 401 ∨ strContains lower "auth" ∨ strContains lower "not authorized" then
    failure "QRZ Logbook authentication failed" body false
  else if response.status = 200 ∧
      (strContains lower "result=ok" || strContains lower "<result>ok") then
    providerUploadSuccess input.providerId input.qsoCount body
  else failure "QRZ Logbook rejected the upload" body false

def parseEqslUploadResponse : ProviderUploadExecution :=
  let body := trim response.body
  let lower := toAsciiLowercase body
  let failure := providerUploadFailure input.providerId input.qsoCount
  if 500 ≤ response.status then failure "eQSL temporary server failure" body true
  else if strContains lower "password" &&
      (strContains lower "invalid" || strContains lower "incorrect") then
    failure "eQSL authentication failed" body false
  else if response.status = 200 ∧ (strContains lower "records added" ||
      strContains lower "record added" || strContains lower "success" ||
      strContains lower "accepted") then
    providerUploadSuccess input.providerId input.qsoCount body
  else failure "eQSL returned an unrecognized response" body false

end Parsing

/-- What a request takes from the credential: what is redacted from its errors,
and which of it are passwords and keys. -/
structure RequestSecrets where
  redacted : List String
  hidden : List String

def clublogSecrets (fields : String → Option String) : Except String RequestSecrets := do
  let email ← requiredField fields ["email"]
  let password ← requiredField fields ["password", "app_password"]
  let _ ← requiredField fields ["callsign"]
  let api ← requiredField fields ["api", "api_key"]
  return { redacted := [email, password, api], hidden := [password, api] }

def qrzLogbookSecrets (fields : String → Option String) : Except String RequestSecrets := do
  let key ← requiredField fields ["key", "api_key"]
  return { redacted := [key], hidden := [key] }

def eqslSecrets (fields : String → Option String) : Except String RequestSecrets := do
  let username ← requiredField fields ["username", "callsign"]
  let password ← requiredField fields ["password"]
  return { redacted := [username, password], hidden := [password] }

section Execution
variable (input : ProviderUploadInput) (answer : Except ProviderHttpError ProviderHttpResponse)

/-- An upload with the secrets of its request and the reading of its response. -/
def executeUpload (secrets : Except String RequestSecrets)
    (parse : ProviderUploadInput → ProviderHttpResponse → ProviderUploadExecution) :
    Except ProviderHttpError ProviderUploadExecution := do
  let secrets ← secrets.mapError ProviderHttpError.unsupported
  let response ← answer.mapError fun error => redactHttpError error secrets.redacted
  return parse input response

def executeClublogUpload : Except ProviderHttpError ProviderUploadExecution :=
  executeUpload input answer (clublogSecrets input.credentialFields) parseClublogUploadResponse

def executeQrzLogbookUpload : Except ProviderHttpError ProviderUploadExecution :=
  executeUpload input answer (qrzLogbookSecrets input.credentialFields)
    parseQrzLogbookUploadResponse

def executeEqslUpload : Except ProviderHttpError ProviderUploadExecution :=
  executeUpload input answer (eqslSecrets input.credentialFields) parseEqslUploadResponse

def liveLimitationForProvider (providerId : String) : String :=
  match providerId with
  | "lotw" => "LoTW upload requires a modeled TQSL/certificate signing flow before live upload"
  | "dx-cluster" =>
      "DX Cluster live client has parser/scaffold support; persistent telnet runtime is pending"
  | "pota-spots" | "sotawatch" =>
      "spot feed adapter has fake/scaffold support; POTA live parser is modeled, " ++
        "SOTA live access is deferred pending API approval"
  | "qrz-xml" | "hamqth" =>
      "callsign lookup adapter has credential/test scaffolding, live response parsers, " ++
        "and hosted fake-default execution"
  | "clublog" | "qrz-logbook" | "eqsl" =>
      "ADIF upload adapter has fake/test execution and gated live HTTP transport"
  | _ => "live provider transport is not configured for this build"

def ProviderHttpError.isRetryable : ProviderHttpError → Bool
  | .timeout | .transport _ => true
  | .httpStatus status _ => 500 ≤ status && status ≤ 599
  | _ => false

def dispatch : Except ProviderHttpError ProviderUploadExecution :=
  match input.providerId with
  | "clublog" => executeClublogUpload input answer
  | "qrz-logbook" => executeQrzLogbookUpload input answer
  | "eqsl" => executeEqslUpload input answer
  | "lotw" => .ok {
      providerId := input.providerId
      status := .failed
      acceptedCount := 0
      rejectedCount := input.qsoCount
      resultSummary := liveLimitationForProvider input.providerId
      failureReason := some "tqsl signing flow not modeled"
      redactedError := some (liveLimitationForProvider input.providerId)
      retryable := false }
  | _ => .error (.unsupported (liveLimitationForProvider input.providerId))

/-- The live upload of a provider. -/
def liveUpload : ProviderUploadExecution :=
  match dispatch input answer with
  | .ok execution => execution
  | .error error =>
      { providerId := input.providerId
        status := .failed
        acceptedCount := 0
        rejectedCount := input.qsoCount
        resultSummary := "provider live upload failed"
        failureReason := some "provider live upload failed"
        redactedError := some error.toString
        retryable := error.isRetryable }

end Execution
end HamLogger.LiveUpload
