import TelemetryRelay.Text.Base64
import TelemetryRelay.Text.Utf8
import TelemetryRelay.Url

/-!
Writing a payload to the server: the place it is posted to, the request, and what an answer means.
Any status of the 200s is a success, whatever its body; every other end is a failure.
-/

namespace TelemetryRelay

structure Status where
  code : Nat
  bounded : 100 ≤ code ∧ code ≤ 999 := by decide
deriving DecidableEq, Repr

namespace Status

def ofNat? (code : Nat) : Option Status :=
  if bounded : 100 ≤ code ∧ code ≤ 999 then some ⟨code, bounded⟩ else none

def isSuccess (status : Status) : Bool :=
  200 ≤ status.code && status.code ≤ 299

def phrases : List (Nat × String) :=
  [
    (100, "Continue"), (101, "Switching Protocols"), (102, "Processing"), (103, "Early Hints"),
    (200, "OK"), (201, "Created"), (202, "Accepted"), (203, "Non Authoritative Information"),
    (204, "No Content"), (205, "Reset Content"), (206, "Partial Content"), (207, "Multi-Status"),
    (208, "Already Reported"), (226, "IM Used"), (300, "Multiple Choices"),
    (301, "Moved Permanently"), (302, "Found"), (303, "See Other"), (304, "Not Modified"),
    (305, "Use Proxy"), (307, "Temporary Redirect"), (308, "Permanent Redirect"),
    (400, "Bad Request"), (401, "Unauthorized"), (402, "Payment Required"), (403, "Forbidden"),
    (404, "Not Found"), (405, "Method Not Allowed"), (406, "Not Acceptable"),
    (407, "Proxy Authentication Required"), (408, "Request Timeout"), (409, "Conflict"),
    (410, "Gone"), (411, "Length Required"), (412, "Precondition Failed"),
    (413, "Payload Too Large"), (414, "URI Too Long"), (415, "Unsupported Media Type"),
    (416, "Range Not Satisfiable"), (417, "Expectation Failed"), (418, "I'm a teapot"),
    (421, "Misdirected Request"), (422, "Unprocessable Entity"), (423, "Locked"),
    (424, "Failed Dependency"), (425, "Too Early"), (426, "Upgrade Required"),
    (428, "Precondition Required"), (429, "Too Many Requests"),
    (431, "Request Header Fields Too Large"), (451, "Unavailable For Legal Reasons"),
    (500, "Internal Server Error"), (501, "Not Implemented"), (502, "Bad Gateway"),
    (503, "Service Unavailable"), (504, "Gateway Timeout"), (505, "HTTP Version Not Supported"),
    (506, "Variant Also Negotiates"), (507, "Insufficient Storage"), (508, "Loop Detected"),
    (510, "Not Extended"), (511, "Network Authentication Required")
  ]

def text (status : Status) : String :=
  toString status.code ++ " " ++ (phrases.lookup status.code).getD "<unknown status code>"

end Status

inductive Answer
  | response (status : Status) (body : Option (List UInt8))
  | missing (reason : String)
deriving DecidableEq, Repr

inductive DeliveryFailure
  | refused (status : Status) (body : String)
  | unreadable (status : Status)
  | unanswered (reason : String)
deriving DecidableEq, Repr

namespace DeliveryFailure

def status? : DeliveryFailure → Option Status
  | .refused status _ => some status
  | .unreadable status => some status
  | .unanswered _ => none

def message : DeliveryFailure → String
  | .refused status body =>
    "InfluxDB request returned HTTP response: " ++ status.text ++ ";\n" ++ body
  | .unreadable status => "Can't read response body: " ++ status.text
  | .unanswered reason => "InfluxDB request failed: " ++ reason

end DeliveryFailure

def Answer.outcome : Answer → Except DeliveryFailure Status
  | .response status body =>
    if status.isSuccess then .ok status
    else
      match body with
      | some bytes => .error (.refused status (String.ofList (Text.Utf8.decodeLossy bytes)))
      | none => .error (.unreadable status)
  | .missing reason => .error (.unanswered reason)

inductive EndpointFault
  | url (base : String) (fault : Url.Fault)
  | client (reason : String)
deriving DecidableEq, Repr

structure Endpoint where
  url : Url
  credentials : Option (String × String)
deriving DecidableEq, Repr

structure Request where
  method : String
  target : String
  contentType : String
  authorization : Option String
  body : String
deriving DecidableEq, Repr

def invalidUrlMessage (base reason : String) : String :=
  "Invalid InfluxDB URL '" ++ base ++ "': " ++ reason

def EndpointFault.message : EndpointFault → String
  | .url base fault => invalidUrlMessage base fault.message
  | .client reason => "Failed to build HTTP client: " ++ reason

def dropTrailingSlashes (text : String) : String :=
  String.ofList (text.toList.reverse.dropWhile (· = '/')).reverse

/-- The URL that a database is written to: `/write` below the base, and the database as a pair of
the query. -/
def databaseUrl (base database : String) : Except EndpointFault Url :=
  match Url.read (dropTrailingSlashes base ++ "/write") with
  | .error fault => .error (.url base fault)
  | .ok url => .ok (url.appendPair "db" database)

namespace Endpoint

/-- Credentials are sent unless the user is empty. -/
def make (base database user password : String) : Except EndpointFault Endpoint := do
  let url ← databaseUrl base database
  return ⟨url, if user.isEmpty then none else some (user, password)⟩

def authorization (user password : String) : String :=
  "Basic " ++ String.ofList (Text.Base64.encode (Text.Utf8.encode (user ++ ":" ++ password)))

def request (endpoint : Endpoint) (payload : String) : Request where
  method := "POST"
  target := endpoint.url.target
  contentType := "application/binary"
  authorization := endpoint.credentials.map fun (user, password) => authorization user password
  body := payload

end Endpoint

end TelemetryRelay
