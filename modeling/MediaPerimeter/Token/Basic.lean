import MediaPerimeter.Crypto.Hmac
import MediaPerimeter.Json.Basic

/-!
# Signed tokens

A token has three parts with dots between them: a header and claims, each as JSON in base64, and a
signature of the two parts under a shared secret. The verifier, not the token, decides on the
algorithm.
-/
namespace MediaPerimeter

namespace Token

inductive Algorithm where
  | hs256
  | hs384
  | hs512
  | es256
  | es384
  | rs256
  | rs384
  | rs512
  | ps256
  | ps384
  | ps512
  | edDSA
deriving DecidableEq

namespace Algorithm

def name : Algorithm → String
  | hs256 => "HS256"
  | hs384 => "HS384"
  | hs512 => "HS512"
  | es256 => "ES256"
  | es384 => "ES384"
  | rs256 => "RS256"
  | rs384 => "RS384"
  | rs512 => "RS512"
  | ps256 => "PS256"
  | ps384 => "PS384"
  | ps512 => "PS512"
  | edDSA => "EdDSA"

theorem name_injective {a b : Algorithm} (h : a.name.toList = b.name.toList) : a = b := by
  cases a <;> cases b <;> first | rfl | exact absurd h (by decide)

def tag? : Algorithm → Option (Bytes → Bytes → Bytes)
  | hs256 => some (Hmac.tag sha256)
  | hs384 => some (Hmac.tag sha384)
  | hs512 => some (Hmac.tag sha512)
  | _ => none

end Algorithm

structure Claims where
  v : Text
  nonce : Text
  iat : Int
  /-- The last second at which the token is valid. -/
  exp : Int
deriving DecidableEq

inductive Defect where
  | invalidToken
  | invalidSignature
  | invalidAlgorithm
  | invalidAudience
  | missingRequiredClaim (name : String)
  /-- In the words of the reader. -/
  | json (text : String)
  | base64 (text : String)
deriving DecidableEq

def Defect.name : Defect → String
  | invalidToken => "InvalidToken"
  | invalidSignature => "InvalidSignature"
  | invalidAlgorithm => "InvalidAlgorithm"
  | invalidAudience => "InvalidAudience"
  | missingRequiredClaim _ => "MissingRequiredClaim"
  | json _ => "Json"
  | base64 _ => "Base64"

def Defect.message : Defect → String
  | missingRequiredClaim name => s!"Missing required claim: {name}"
  | json text => s!"JSON error: {text}"
  | base64 text => s!"Base64 error: {text}"
  | d => d.name

inductive Fault where
  | malformedHeader
  | disallowedAlgorithm (declared : Text)
  | expired
  | invalid (defect : Defect)
  | signing (defect : Defect)
  | lifetimeOutOfRange
deriving DecidableEq

def Fault.message : Fault → String
  | malformedHeader => "malformed token header"
  | disallowedAlgorithm declared => s!"algorithm '{String.ofList declared}' is not allowed"
  | expired => "token has expired"
  | invalid d => s!"invalid token: {d.message}"
  | signing d => s!"failed to sign token: {d.message}"
  | lifetimeOutOfRange => "token lifetime is out of range"

end Token
end MediaPerimeter
