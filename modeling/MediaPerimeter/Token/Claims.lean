import MediaPerimeter.Json.Record
import MediaPerimeter.Token.Basic

/-!
# Token claims

The claims are read strictly. A second reading checks what the standard says about claims that are
not used here: it is lenient on their form, but not on a claim that occurs twice, and it refuses any
audience, since no token is meant for this service by name.
-/
namespace MediaPerimeter.Token

open Json (Reader)
open Json.Read (Rule)

def Claims.json (c : Claims) : Json :=
  .record [("v", .string c.v), ("nonce", .string c.nonce), ("iat", .int c.iat), ("exp", .int c.exp)]

def claimRules : List (Rule Claims) := [
  .must "v" Json.Read.string fun v c => { c with v },
  .must "nonce" Json.Read.string fun nonce c => { c with nonce },
  .must "iat" Json.Read.integer fun iat c => { c with iat },
  .must "exp" Json.Read.integer fun exp c => { c with exp }]

def readClaims (payload : Bytes) : Except Json.Fault Claims :=
  Json.Read.document (Json.Read.record "TokenClaims" claimRules ⟨[], [], 0, 0⟩) payload

/-- The value, or where the reader stopped without one. -/
def attempt {α : Type} (read : Reader α) : Reader (Option α) := fun t =>
  match read t with
  | .ok (x, rest) => .ok (some x, rest)
  | .error f => .ok (none, f.rest)

/-- A number, or what is left of another value when it turns out to be none. -/
def timeLeniently : Reader Unit := Json.Read.value fun t =>
  match t with
  | 0x5b :: rest => .ok ((), Json.Read.pastList rest)
  | 0x7b :: rest => .ok ((), Json.Read.pastObject rest)
  | _ => Json.Read.skip t

def isAudience : Json → Bool
  | .string _ => true
  | .array items => items.all fun
    | .string _ => true
    | _ => false
  | _ => false

def standardRules : List (Rule Bool) := [
  .may "exp" timeLeniently fun _ s => s,
  .may "nbf" timeLeniently fun _ s => s,
  .may "sub" (attempt (Json.Read.nullable Json.Read.string)) fun _ s => s,
  .may "iss" (attempt (Json.Read.any 127)) fun _ s => s,
  .may "aud" (attempt (Json.Read.any 127)) fun v _ => v.any isAudience]

/-- Whether claims name an audience, if they can be read in the light of the standard. -/
def namesAudience (payload : Bytes) : Except Json.Fault Bool :=
  Json.Read.document (Json.Read.record "ClaimsForValidation" standardRules false) payload

end MediaPerimeter.Token
