import MediaPerimeter.Text.Percent
import MediaPerimeter.Url.Parts

/-!
# Requests

What a client sends, and the parts of it that the service looks at: path segments, the query as a
form, and headers, whose names may be in letters of any case.
-/
namespace MediaPerimeter.Http

structure Request where
  method : Text
  /-- Path and query as they were sent. -/
  target : Text
  headers : List (Text × Bytes)
  body : Bytes
deriving DecidableEq

namespace Request

def isHead (r : Request) : Bool := r.method == "HEAD".toList

def path (r : Request) : Text := (Tail.divide r.target).path

def query (r : Request) : Text := ((Tail.divide r.target).query).getD []

def values (r : Request) (name : String) : List Bytes :=
  (r.headers.filter fun h => h.1.lower == name.toList).map Prod.snd

def value? (r : Request) (name : String) : Option Bytes := (r.values name).head?

end Request

namespace Form

/-- A `+` stands for a space; bytes that are not UTF-8 are replaced. -/
def decode (t : Text) : Text :=
  Utf8.decodeLossy (Percent.decode ((Utf8.encode t).map fun b => if b = 0x2b then 0x20 else b))

def field (t : Text) : Text × Text :=
  match t.cut '=' with
  | some (name, value) => (decode name, decode value)
  | none => (decode t, [])

def fields (query : Text) : List (Text × Text) :=
  ((query.split '&').filter (· != [])).map field

def single? (name : String) (query : Text) : Option Text :=
  match (fields query).filter fun f => f.1 == name.toList with
  | [f] => some f.2
  | _ => none

end Form
end MediaPerimeter.Http
