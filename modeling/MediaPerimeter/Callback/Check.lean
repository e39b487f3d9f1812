import MediaPerimeter.Net.Guard
import MediaPerimeter.Text.Blank
import MediaPerimeter.Url.Reader

/-!
# Checking callback URLs

A callback URL is checked before it is taken on, so that its owner learns what is wrong with it. The
check promises nothing for later: what is dialed in the end is guarded by itself. A reason that is
told to the owner never shows an address.
-/
namespace MediaPerimeter.Callback

inductive Fault where
  | empty
  | malformed (reason : String)
  | unsupportedScheme (scheme : Text)
  | missingHost
  | loopbackAlias (host : Text)
  | unresolvable (host : Text) (reason : String)
  | unsafeDestination (address : UnsafeAddress)
deriving DecidableEq

namespace Fault

def message : Fault → String
  | empty => "empty url"
  | malformed reason => s!"malformed url: {reason}"
  | unsupportedScheme scheme =>
    s!"unsupported scheme '{String.ofList scheme}', only http and https are allowed"
  | missingHost => "url has no host"
  | loopbackAlias host => s!"host '{String.ofList host}' is a loopback alias"
  | unresolvable host reason => s!"host '{String.ofList host}' could not be resolved: {reason}"
  | unsafeDestination u => u.message

/-- What the owner of the URL is told. -/
def reason : Fault → String
  | empty => "callback url is empty"
  | malformed _ => "callback url is malformed"
  | unsupportedScheme _ => "callback url must use http or https"
  | missingHost => "callback url has no host"
  | loopbackAlias _ => "callback host is not allowed"
  | unresolvable _ _ => "callback host could not be resolved"
  | unsafeDestination _ => "callback host resolves to a non-public address"

end Fault

def localNames : List Text := ["localhost", "ip6-localhost"].map String.toList

/-- The host of a URL without brackets and without dots at its end. -/
def bareHost (u : Url) : Text :=
  match u.host with
  | some h => (h.bareText.reverse.dropWhile (· == '.')).reverse
  | none => []

def hostOf (raw : Text) : Except Fault Text :=
  if raw.trim = [] then .error .empty
  else match Url.read raw.trim with
    | .error f => .error (.malformed f.message)
    | .ok u =>
      if !u.isWeb then .error (.unsupportedScheme u.scheme)
      else if bareHost u = [] then .error .missingHost
      else if localNames.contains (bareHost u).lower then .error (.loopbackAlias (bareHost u))
      else .ok (bareHost u)

def approve (host : Text) : Net.Told → Except Fault Unit
  | .error reason => .error (.unresolvable host reason)
  | .ok [] => .error (.unresolvable host "no addresses")
  | .ok addresses => (Address.checkAll addresses).mapError .unsafeDestination

/-- Checks a URL; its host is looked up once, unless it is an address. -/
def check (n : Net.Network) (raw : Text) : Net.Action (Except Fault Unit) := do
  match hostOf raw with
  | .error f => return .error f
  | .ok host => return approve host (← n.lookup host)

end MediaPerimeter.Callback
