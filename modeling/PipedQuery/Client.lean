import PipedQuery.Connection
import PipedQuery.Gateway
import PipedQuery.Json.Reader
import PipedQuery.Text.Base64
import PipedQuery.Url

/-!
A client of one cluster. It makes the requests, and it reads the replies; between the two stands
a transport, which gives every request its reply.
-/

set_option autoImplicit false
set_option relaxedAutoImplicit false

namespace PipedQuery

inductive Method where
  | get
  | post
deriving DecidableEq

/-- A request to a cluster. One with a body is sent as JSON. -/
structure HttpRequest where
  method : Method
  url : Url
  authorization : Option String
  body : Option String := none
deriving DecidableEq

inductive Reply where
  | answer (status : Nat) (body : String)
  /-- The connection ended before an answer. -/
  | dropped
  /-- No answer came in time. -/
  | silent
  /-- There was no connection, so that nothing was sent. -/
  | unreachable
deriving DecidableEq

abbrev Transport := HttpRequest → Reply

inductive ClientError where
  | notFound (message : String)
  | unauthorized (message : String)
  | network (detail : String)
  | unreadable
  | server (status : Nat) (message : String)
  | invalid (message : String)
  | timeout (milliseconds : UInt64)
deriving DecidableEq

/-- What a cluster says of a failure: a reason with an optional kind, or plain words. -/
inductive FailureDetail where
  | cause (kind : Option String) (reason : String)
  | words (text : String)
deriving DecidableEq

structure FailureBody where
  detail : FailureDetail
  status : Option Nat
deriving DecidableEq

/-- What a cluster says of itself. -/
structure ClusterInfo where
  name : Option String := none
  clusterName : Option String := none
  version : Option Json := none

structure Client where
  url : Url
  credentials : Credentials
  timeout : UInt64
  sampleSize : UInt64
deriving DecidableEq

namespace Method

def name : Method → String
  | get => "GET"
  | post => "POST"

end Method

namespace ClientError

def message : ClientError → String
  | notFound message => "Not found: " ++ message
  | unauthorized message => "Unauthorized: " ++ message
  | network detail => "Network error: " ++ detail
  | unreadable => "Serialization error: unexpected response"
  | server status message => "Server error (" ++ toString status ++ "): " ++ message
  | invalid message => "Validation error: " ++ message
  | timeout milliseconds => "Timeout after " ++ toString milliseconds.toNat ++ "ms"

/-- The wording is this library's own and not a transport's. -/
def hasOwnWording : ClientError → Bool
  | network _ | unreadable => false
  | _ => true

def fault (error : ClientError) : Fault :=
  .backend (if error.hasOwnWording then some error.message else none)

end ClientError

namespace FailureBody

def detailOfJson : Json → Option FailureDetail
  | .string text => some (.words text)
  | value =>
    if value.readable then do
      let fields ← value.namedRecord ["type", "reason"]
      let kind ← fields.optional "type" Json.string?
      let reason ← fields.required "reason" Json.string?
      return .cause kind reason
    else none

def statusOfJson (value : Json) : Option Nat :=
  (value.word?.map UInt64.toNat).filter (· < UInt16.size)

def ofJson (value : Json) : Option FailureBody := do
  let fields ← value.record ["error", "status"]
  let detail ← fields.required "error" detailOfJson
  let status ← fields.optional "status" statusOfJson
  return ⟨detail, status⟩

def message (body : FailureBody) : String :=
  match body.detail with
  | .cause (some kind) reason => kind ++ ": " ++ reason
  | .cause none reason => reason
  | .words text => text

end FailureBody

namespace ClusterInfo

def ofJson (value : Json) : Option ClusterInfo := do
  let fields ← value.record ["name", "cluster_name", "version"]
  let name ← fields.optional "name" Json.string?
  let clusterName ← fields.optional "cluster_name" Json.string?
  let version ← fields.optional "version" Json.any
  return ⟨name, clusterName, version⟩

/-- The three entries with their names in code-point order. -/
def members (info : ClusterInfo) : List (String × Json) :=
  [("cluster_name", .orNull (info.clusterName.map .string)),
    ("name", .orNull (info.name.map .string)), ("version", .orNull info.version)]

def toJson (info : ClusterInfo) : Json :=
  .object info.members

end ClusterInfo

namespace Credentials

/-- The value of the authorization header. -/
def header : Credentials → Option String
  | none => Option.none
  | apiKey key => some ("ApiKey " ++ key)
  | bearer token => some ("Bearer " ++ token)
  | basic username password =>
    some ("Basic " ++ Text.Base64.ofText (username ++ ":" ++ password))

end Credentials

namespace HttpRequest

/-- A header may hold a tab but no other control character. -/
def hasPlainHeader (request : HttpRequest) : Bool :=
  (request.authorization.getD "").toList.all fun c ↦
    c = '\t' || (32 ≤ c.toNat && c.toNat ≠ 127)

/-- The longest URL, in bytes, that a request can carry. -/
def longestUrl : Nat :=
  65534

/-- Requests go over HTTP, not to every host that a URL can name, and not to a URL of any
length. -/
def hasPlainAddress (request : HttpRequest) : Bool :=
  (request.url.scheme = "http" || request.url.scheme = "https") &&
    (request.url.authority.toList.all fun c ↦
      !(c = '"' || c.toNat = 0x60 || c = '\x7b' || c = '\x7d')) &&
    request.url.named.text.utf8ByteSize ≤ longestUrl

/-- Why a request cannot be sent, if so. The header is looked at first. -/
def hindrance (request : HttpRequest) : Option String :=
  if !request.hasPlainHeader then some "builder error"
  else if !request.hasPlainAddress then
    some ("builder error for url (" ++ request.url.named.text ++ ")")
  else none

end HttpRequest

namespace Client

/-- A client for a connection. The numbers are looked at before the URL. -/
def connect (connection : Connection) : Except ClientError Client :=
  match connection.complaint with
  | some complaint => .error (.invalid complaint)
  | none =>
    match Url.parse connection.baseUrl with
    | .error defect => .error (.invalid ("Invalid base URL: " ++ defect.message))
    | .ok url =>
      if url.isBase then
        .ok ⟨url, connection.credentials, connection.timeout, connection.sampleSize⟩
      else .error (.invalid ("Invalid base URL: " ++ url.text))

/-! Requests -/

/-- The URL of an endpoint of one index, whose name is one segment. -/
def indexUrl (client : Client) (index endpoint : String) : Url :=
  client.url.child [index, endpoint]

def getRequest (client : Client) (url : Url) : HttpRequest :=
  { method := .get, url, authorization := client.credentials.header }

def rootRequest (client : Client) : HttpRequest :=
  client.getRequest (client.url.atRoot [""] none)

def listingRequest (client : Client) : HttpRequest :=
  client.getRequest (client.url.atRoot ["_cat", "indices"] (some "format=json"))

def mappingRequest (client : Client) (index : String) : HttpRequest :=
  client.getRequest (client.indexUrl index "_mapping")

def sampleRequest (client : Client) (index field : String) : HttpRequest :=
  { method := .post
    url := client.indexUrl index "_search"
    authorization := client.credentials.header
    body := some (SampledValue.query field client.sampleSize).compact }

/-! Replies -/

def sendingFailed (request : HttpRequest) : ClientError :=
  .network ("error sending request for url (" ++ request.url.named.text ++ ")")

/-- The status and body of a reply. -/
def exchange (client : Client) (transport : Transport) (request : HttpRequest) :
    Except ClientError (Nat × String) :=
  match request.hindrance with
  | some detail => .error (.network detail)
  | none =>
    match transport request with
    | .answer status body => .ok (status, body)
    | .silent => .error (.timeout client.timeout)
    | .dropped => .error (sendingFailed request)
    | .unreachable => .error (sendingFailed request)

def isSuccess (status : Nat) : Bool :=
  200 ≤ status && status < 300

/-- The error that a status other than success stands for. -/
def failure (status : Nat) (body : String) : ClientError :=
  let message := match (Json.document body).bind FailureBody.ofJson with
    | some found => found.message
    | none => "HTTP " ++ toString status
  if status = 404 then .notFound message
  else if status = 401 ∨ status = 403 then .unauthorized message
  else .server status message

/-- A body is read without a byte order mark at its front. -/
def bodyText (body : String) : String :=
  match body.toList with
  | c :: rest => if c.toNat = 0xFEFF then String.ofList rest else body
  | [] => body

/-- The decoded body of a successful reply. -/
def retrieve {α : Type} (client : Client) (transport : Transport) (request : HttpRequest)
    (decode : Json → Option α) : Except ClientError α := do
  let (status, body) ← client.exchange transport request
  if isSuccess status then
    match (Json.document (bodyText body)).bind decode with
    | some found => return found
    | none => throw .unreadable
  else throw (failure status body)

/-- The cluster answers, and with success. -/
def health (client : Client) (transport : Transport) : Except ClientError Bool := do
  let (status, _) ← client.exchange transport client.rootRequest
  return isSuccess status

def info (client : Client) (transport : Transport) : Except ClientError ClusterInfo :=
  client.retrieve transport client.rootRequest ClusterInfo.ofJson

def indices (client : Client) (transport : Transport) : Except ClientError (List String) :=
  client.retrieve transport client.listingRequest indexListing

def mapping (client : Client) (transport : Transport) (index : String) :
    Except ClientError MappingResponse :=
  client.retrieve transport (client.mappingRequest index) MappingResponse.ofJson

def buckets (client : Client) (transport : Transport) (index field : String) :
    Except ClientError (List Bucket) :=
  client.retrieve transport (client.sampleRequest index field) Bucket.ofAnswer

/-- The cluster behind a client, as the engine sees it. -/
def gateway (client : Client) (transport : Transport) : Gateway where
  indices := (client.indices transport).mapError ClientError.fault
  mapping index := (client.mapping transport index).mapError ClientError.fault
  buckets index field := (client.buckets transport index field).mapError ClientError.fault

/-- The request that a call of the engine becomes. -/
def callRequest (client : Client) : Request → HttpRequest
  | .indices => client.listingRequest
  | .fields index => client.mappingRequest index
  | .values index field _ => client.sampleRequest index field

end Client
end PipedQuery
