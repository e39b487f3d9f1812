import MediaPerimeter.Credential
import MediaPerimeter.Http.ContentType
import MediaPerimeter.Http.Failure
import MediaPerimeter.Http.Request
import MediaPerimeter.Json.Record

/-!
# Bodies of requests

A body is taken up to a limit, and it must be declared and written as JSON.
-/
namespace MediaPerimeter.Http

def maxBody : Nat := 65536

namespace Request

/-- The length that the request declares for its body. -/
def declaredLength? (r : Request) : Option Nat :=
  (((r.value? "content-length").bind Credential.headerText?)).bind
    (Decimal.readUpTo? (Nat.pow 2 64 - 1))

def isTooLong (r : Request) : Bool := r.declaredLength?.any fun n => maxBody < n

/-- How much of the body is read: no more than was declared. -/
def bodyLimit (r : Request) : Nat := min maxBody (r.declaredLength?.getD maxBody)

def hasJson (r : Request) : Bool :=
  ((r.value? "content-type").bind Credential.headerText?).any fun t =>
    (ContentType.read? t).any ContentType.isJson

end Request

namespace Input

inductive Fault where
  | notJson
  | tooLong
  | unread (fault : Json.Fault) (whole : Bytes)

def Fault.message : Fault → String
  | notJson => "Expected request with `Content-Type: application/json`"
  | tooLong => "Failed to buffer the request body: length limit exceeded"
  | unread f whole =>
    let what := if f.isMismatch then
        "Failed to deserialize the JSON body into the target type"
      else "Failed to parse the request body as JSON"
    s!"{what}: {f.message whole}"

def Fault.failure (f : Fault) : Failure := .invalidInput s!"Invalid request body: {f.message}"

def read {α : Type} (reader : Json.Reader α) (r : Request) : Except Fault α :=
  if !r.hasJson then .error .notJson
  else if r.bodyLimit < r.body.length then .error .tooLong
  else (Json.Read.document reader r.body).mapError fun f => .unread f r.body

def readField (title : String) (rule : Json.Read.Rule Text) (r : Request) : Except Fault Text :=
  read (Json.Read.record title [rule] []) r

def password (r : Request) : Except Fault Text :=
  readField "LoginRequest" (.must "password" Json.Read.string fun t _ => t) r

/-- The token may be left out and is empty then. -/
def token (r : Request) : Except Fault Text :=
  readField "TokenRequest" (.usual "token" Json.Read.string fun t _ => t) r

def server (r : Request) : Except Fault Text :=
  readField "TargetCheckRequest" (.must "server" Json.Read.string fun t _ => t) r

def callbackUrl (r : Request) : Except Fault Text :=
  readField "CallbackRequest" (.must "url" Json.Read.string fun t _ => t) r

end Input
end MediaPerimeter.Http
