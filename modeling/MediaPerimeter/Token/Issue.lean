import MediaPerimeter.Text.Identifier
import MediaPerimeter.Time.Calendar
import MediaPerimeter.Token.Verify

/-!
# Issuing tokens

A token is signed with the shared secret and valid for a lifetime from the instant of its issue on.
-/
namespace MediaPerimeter.Token

def version : Text := "1.0".toList

structure Issued where
  token : Text
  created : Instant
  expires : Instant
deriving DecidableEq

def Issued.json (t : Issued) : Json :=
  .record [("token", .string t.token), ("createAt", .string t.created.text),
    ("expireAt", .string t.expires.text)]

def sign (secret : Text) (claims : Claims) : Text :=
  let signed := Base64Url.encode issuedHeader.bytes ++ '.' :: Base64Url.encode claims.json.bytes
  signed ++ '.' :: signature (Hmac.tag sha256) secret signed

def issue (secret : Text) (lifetime : Span) (now : Instant) (random : BitVec 128) :
    Except Fault Issued :=
  match now.later? lifetime with
  | none => .error .lifetimeOutOfRange
  | some expires =>
    let claims : Claims := ⟨version, Identifier.ofBits random, now.secs, expires.secs⟩
    .ok ⟨sign secret claims, now, expires⟩

end MediaPerimeter.Token
