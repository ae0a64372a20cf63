import PipedQuery.Json.Reader
import PipedQuery.Json.Record

/-!
How to reach a cluster: its URL, the credentials, the time to wait and the size of samples. A
connection comes as a value (`ofJson`) or as the text of a document (`ofText`). The two differ in
one rule: only in a text may a user name and a password be listed without their names.
-/

set_option autoImplicit false
set_option relaxedAutoImplicit false

namespace PipedQuery

inductive Credentials where
  | none
  | apiKey (key : String)
  | bearer (token : String)
  | basic (username password : String)
deriving DecidableEq

structure Connection where
  baseUrl : String := "http://localhost:9200"
  credentials : Credentials := .none
  /-- In milliseconds. -/
  timeout : UInt64 := 30000
  sampleSize : UInt64 := 10
deriving DecidableEq

namespace Credentials

def toJson : Credentials → Json
  | none => .string "none"
  | apiKey key => .object [("api_key", .string key)]
  | bearer token => .object [("bearer", .string token)]
  | basic username password =>
    .object [("basic",
      .object [("password", .string password), ("username", .string username)])]

/-- A user name and a password, by their names or, if `listed`, also in this order. -/
def basicOfJson (listed : Bool) (value : Json) : Option Credentials := do
  let names := ["username", "password"]
  let fields ← if listed then value.record names else value.namedRecord names
  let username ← fields.required "username" Json.string?
  let password ← fields.required "password" Json.string?
  return basic username password

def ofJson (listed : Bool) (value : Json) : Option Credentials :=
  match value.tagged with
  | some (.bare name) => if name = "none" then some none else Option.none
  | some (.carrying tag content) =>
    if tag = "none" then match content with
      | .null => some none
      | _ => Option.none
    else if tag = "api_key" then content.string?.map apiKey
    else if tag = "bearer" then content.string?.map bearer
    else if tag = "basic" then basicOfJson listed content
    else Option.none
  | Option.none => Option.none

end Credentials

namespace Connection

/-- What is wrong with the numbers, if anything. -/
def complaint (connection : Connection) : Option String :=
  if connection.timeout = 0 then some "timeout must be non-zero"
  else if connection.sampleSize = 0 then some "value_sample_size must be at least 1"
  else none

def toJson (connection : Connection) : Json :=
  .object [
    ("base_url", .string connection.baseUrl),
    ("auth", connection.credentials.toJson),
    ("timeout_ms", .ofWord connection.timeout),
    ("value_sample_size", .ofWord connection.sampleSize)]

/-- A connection whose basic credentials may, if `listed`, stand without names. -/
def decode (listed : Bool) (value : Json) : Option Connection := do
  let fields ← value.record ["base_url", "auth", "timeout_ms", "value_sample_size"]
  let baseUrl ← fields.withDefault "base_url" "http://localhost:9200" Json.string?
  let credentials ← fields.withDefault "auth" .none (Credentials.ofJson listed)
  let timeout ← fields.withDefault "timeout_ms" 30000 Json.word?
  let sampleSize ← fields.withDefault "value_sample_size" 10 Json.word?
  return ⟨baseUrl, credentials, timeout, sampleSize⟩

def ofJson (value : Json) : Option Connection :=
  decode false value

def ofText (text : String) : Option Connection :=
  (Json.document text).bind (decode true)

end Connection
end PipedQuery
