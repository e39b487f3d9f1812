import MediaPerimeter.Json.Record
import MediaPerimeter.Text.Base64Url
import MediaPerimeter.Token.Basic

/-!
# Token headers

The algorithm that a header declares is read first, without regard to anything else in it. The whole
header is read only for a token whose algorithm is the right one; its other fields must have the
right form, but nothing else follows from them.
-/
namespace MediaPerimeter.Token

open Json (Reader)
open Json.Read (Rule)

/-- The algorithm that a header declares, if the header says nothing twice. -/
def declaredIn? (header : Bytes) : Option Text :=
  let rules := [Rule.must "alg" Json.Read.string fun t _ => t]
  (Json.Read.document (Json.Read.record "RawHeader" rules []) header).toOption

def declared? (token : Text) : Option Text := do
  let header ← Base64Url.decode? (token.takeWhile (· != '.'))
  declaredIn? header

namespace Key

def valuesOf (name : String) (fields : List (Text × Json)) : List Json :=
  (fields.filter (·.1 == name.toList)).map Prod.snd

def isString : Json → Bool
  | .string _ => true
  | _ => false

def isStrings : Json → Bool
  | .array items => items.all isString
  | _ => false

def isNull : Json → Bool
  | .null => true
  | _ => false

/-- The field occurs at most once, and its value is null or as it should be. -/
def optional (name : String) (good : Json → Bool) (fields : List (Text × Json)) : Bool :=
  match valuesOf name fields with
  | [] => true
  | [v] => isNull v || good v
  | _ => false

def mandatory (name : String) (good : Json → Bool) (fields : List (Text × Json)) : Bool :=
  match valuesOf name fields with
  | [v] => good v
  | _ => false

def isOneOf (names : List String) : Json → Bool
  | .string t => names.any fun name => name.toList == t
  | _ => false

def curves : List String := ["P-256", "P-384", "P-521", "Ed25519"]

def algorithms : List String := ["HS256", "HS384", "HS512", "ES256", "ES384", "RS256", "RS384",
  "RS512", "PS256", "PS384", "PS512", "EdDSA", "RSA1_5", "RSA-OAEP", "RSA-OAEP-256"]

/-- The fields of a key on a curve, of one with a modulus, or of one that is a run of bytes. -/
def hasMaterial (fields : List (Text × Json)) : Bool :=
  let text := fun name => mandatory name isString fields
  let kind := fun name => mandatory "kty" (isOneOf [name]) fields
  let curve := mandatory "crv" (isOneOf curves) fields
  (kind "EC" && curve && text "x" && text "y") || (kind "RSA" && text "n" && text "e") ||
    (kind "oct" && text "k") || (kind "OKP" && curve && text "x")

def isKey : Json → Bool
  | .object fields =>
    optional "use" isString fields && optional "key_ops" isStrings fields &&
      optional "alg" (isOneOf algorithms) fields && optional "kid" isString fields &&
      optional "x5u" isString fields && optional "x5c" isStrings fields &&
      optional "x5t" isString fields && optional "x5t#S256" isString fields && hasMaterial fields
  | _ => false

def read : Reader Unit := fun t => do
  let (key, rest) ← Json.Read.any 127 t
  if isKey key then return ((), rest)
  else
    let message := "data did not match any variant of untagged enum AlgorithmParameters"
    .error ⟨.mismatch message, none, rest⟩

end Key

/-- A field of which only the form counts. -/
def checked {α : Type} (name : String) (read : Reader α) : Rule Unit :=
  .may name (Json.Read.nullable read) fun _ s => s

def headerRules : List (Rule Unit) :=
  [checked "typ" Json.Read.string, .must "alg" Json.Read.string fun _ s => s] ++
  [checked "cty" Json.Read.string, checked "jku" Json.Read.string, checked "jwk" Key.read,
    checked "kid" Json.Read.string, checked "x5u" Json.Read.string,
    checked "x5c" (Json.Read.list Json.Read.string), checked "x5t" Json.Read.string,
    checked "x5t#S256" Json.Read.string]

def readHeader (header : Bytes) : Except Json.Fault Unit :=
  Json.Read.document (Json.Read.record "Header" headerRules ()) header

def issuedHeader : Json := .record [("typ", .ofString "JWT"), ("alg", .ofString "HS256")]

end MediaPerimeter.Token
