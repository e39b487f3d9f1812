import MediaPerimeter.Token.Verify

/-!
# Credentials

A caller shows the shared secret itself, or a token signed with it, in a header or apart from one. A
header that says anything takes precedence.
-/
namespace MediaPerimeter

namespace Credential

inductive Fault where
  | noSecretConfigured
  | noCredential
  | badFormat
  | invalidToken
deriving DecidableEq

def Fault.message : Fault → String
  | noSecretConfigured => "no api secret configured"
  | noCredential => "no Authorization or token"
  | badFormat => "invalid Authorization format"
  | invalidToken => "invalid bearer token"

abbrev Headers := List Bytes

/-- The text of a header value of visible characters, spaces and tabs. -/
def headerText? (value : Bytes) : Option Text :=
  if value.all fun b => b == 0x09 || (0x20 ≤ b && b < 0x7f) then
    some (value.map fun b => Char.ofNat b.toNat)
  else none

def bearer? (t : Text) : Option Text :=
  let scheme := "Bearer ".toList
  if scheme <+: t then some (t.drop scheme.length) else none

/-- The credential in the first header, unless that is empty, or else the one from elsewhere. -/
def find (elsewhere : Option Text) (headers : Headers) : Except Fault Text :=
  match headers.head?.filter (· != []) with
  | some value =>
    match (headerText? value).bind bearer? with
    | some t => .ok t
    | none => .error .badFormat
  | none =>
    match elsewhere.filter (· != []) with
    | some t => .ok t
    | none => .error .noCredential

/-- Two texts are taken for the same if their hashes are the same. -/
def sameText (a b : Text) : Bool :=
  sha256.hash (Utf8.encode a) == sha256.hash (Utf8.encode b)

def isAccepted (secret credential : Text) (now : Int) : Bool :=
  credential != [] &&
    (sameText credential secret || (Token.verify secret credential .hs256 now).toOption.isSome)

def authenticate (secret : Text) (elsewhere : Option Text) (headers : Headers) (now : Int) :
    Except Fault Unit :=
  if secret = [] then .error .noSecretConfigured
  else match find elsewhere headers with
    | .error f => .error f
    | .ok credential => if isAccepted secret credential now then .ok () else .error .invalidToken

end Credential
end MediaPerimeter
