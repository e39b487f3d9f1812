import MediaPerimeter.Token.Claims
import MediaPerimeter.Token.Header

/-!
# Verifying tokens

The declared algorithm is compared with the expected one before anything else is looked at, so a
token cannot choose how it is verified. The signature is compared as text: of several texts for the
same bytes only one is accepted.
-/
namespace MediaPerimeter.Token

structure Parts where
  header : Text
  payload : Text
  signature : Text
deriving DecidableEq

def Parts.signed (p : Parts) : Text := p.header ++ '.' :: p.payload

/-- The parts of a token, found from its end. -/
def parts? (token : Text) : Option Parts := do
  let (signed, signature) ← token.cutLast '.'
  let (header, payload) ← signed.cutLast '.'
  some ⟨header, payload, signature⟩

def signature (tag : Bytes → Bytes → Bytes) (secret signed : Text) : Text :=
  Base64Url.encode (tag (Utf8.encode secret) (Utf8.encode signed))

def decodePart (part : Text) : Except Defect Bytes :=
  match Base64Url.decode? part with
  | some bytes => .ok bytes
  | none => .error (.base64 (Base64Url.fault part).message)

/-- The reading of a part, whose fault is told with its place in the part. -/
def readPart {α : Type} (read : Bytes → Except Json.Fault α) (part : Bytes) : Except Defect α :=
  (read part).mapError fun f => .json (f.located part)

def signedClaims (secret token : Text) (a : Algorithm) : Except Defect (Bytes × Claims) := do
  let some tag := a.tag? | throw .invalidAlgorithm
  let some p := parts? token | throw .invalidToken
  readPart readHeader (← decodePart p.header)
  if p.signature ≠ signature tag secret p.signed then throw .invalidSignature
  let payload ← decodePart p.payload
  return (payload, ← readPart readClaims payload)

/-- Accepts the claims of a token that was signed with the secret under the expected algorithm and
has not expired. -/
def verify (secret token : Text) (expected : Algorithm) (now : Int) : Except Fault Claims := do
  let some declared := declared? token | throw .malformedHeader
  if declared ≠ expected.name.toList then throw (.disallowedAlgorithm declared)
  let (payload, claims) ← (signedClaims secret token expected).mapError .invalid
  let audience ← (readPart namesAudience payload).mapError .invalid
  if claims.exp < 0 then throw (.invalid (.missingRequiredClaim "exp"))
  if claims.exp < now then throw .expired
  if audience then throw (.invalid .invalidAudience)
  return claims

end MediaPerimeter.Token
