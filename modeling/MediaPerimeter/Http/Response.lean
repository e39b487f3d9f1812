import MediaPerimeter.Http.Failure
import MediaPerimeter.Token.Issue

/-!
# Responses

What goes back to a client. Of a failure it shows the message and the code; the kind and the details
only where the service is not in production and the failure is not sensitive.
-/
namespace MediaPerimeter

namespace Http

inductive Body where
  | empty
  | text (t : String)
  | file (bytes : Bytes)
  | json (v : Json)
  | token (t : Token.Issued)

def Body.bytes : Body → Bytes
  | empty => []
  | text t => Utf8.encode t.toList
  | file bytes => bytes
  | json v => v.bytes
  | token t => t.json.bytes

structure Response where
  status : Nat
  contentType : Option String := none
  cacheControl : Option String := none
  allow : Option String := none
  body : Body := .empty

namespace Response

def plainType : String := "text/plain; charset=utf-8"

def jsonType : String := "application/json"

def plain (status : Nat) (t : String) : Response :=
  { status, contentType := some plainType, body := .text t }

def ofJson (status : Nat) (v : Json) : Response :=
  { status, contentType := some jsonType, body := .json v }

def ofToken (t : Token.Issued) : Response :=
  { status := 200, contentType := some jsonType, body := .token t }

def ofFile (mediaType : String) (bytes : Bytes) : Response :=
  { status := 200, contentType := some mediaType, cacheControl := some "no-cache",
    body := .file bytes }

end Response
end Http

namespace Failure

def isShownInFull (production : Bool) (f : Failure) : Bool := !production && !f.isSensitive

def json (production : Bool) (f : Failure) : Json :=
  .record ([("error", .ofString f.clientMessage)] ++
    (if f.isShownInFull production then
      [("details", .ofString f.details), ("error_type", .ofString f.kind)]
    else []) ++
    [("code", .ofString f.code)])

def response (production : Bool) (f : Failure) : Http.Response :=
  .ofJson f.status (f.json production)

end Failure
end MediaPerimeter
