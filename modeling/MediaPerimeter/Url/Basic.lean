import MediaPerimeter.Address.Basic
import MediaPerimeter.Url.Parts

/-!
# URLs

A URL taken apart into escaped parts, in the one form in which it is compared, shown and dialed. The
schemes that the web knows well are special: they have a host, a path, and mostly a port that goes
without saying.
-/
namespace MediaPerimeter

namespace Url

inductive Host where
  /-- A domain name in its ASCII form, or any escaped text where the scheme is not special. -/
  | name (t : Text)
  | v4 (ip : IPv4)
  | v6 (ip : IPv6)
deriving DecidableEq

namespace Host

/-- The host as it stands in a URL: version 6 addresses have brackets and no dotted form. -/
def text : Host → Text
  | name t => t
  | v4 ip => ip.text
  | v6 ip => '[' :: IPv6.compressed ip.groups ++ [']']

def bareText : Host → Text
  | name t => t
  | v4 ip => ip.text
  | v6 ip => IPv6.compressed ip.groups

def address? : Host → Option Address
  | name _ => none
  | v4 ip => some (.v4 ip)
  | v6 ip => some (.v6 ip)

end Host

inductive Fault where
  | noScheme
  | emptyHost
  | invalidDomain
  | invalidPort
  | invalidIPv4
  | invalidIPv6
  | invalidHostCharacter
deriving DecidableEq

def Fault.message : Fault → String
  | noScheme => "relative URL without a base"
  | emptyHost => "empty host"
  | invalidDomain => "invalid international domain name"
  | invalidPort => "invalid port number"
  | invalidIPv4 => "invalid IPv4 address"
  | invalidIPv6 => "invalid IPv6 address"
  | invalidHostCharacter => "invalid domain character"

/-- The special schemes with the port of each; files have none. -/
def specialSchemes : List (String × Option Nat) := [
  ("http", some 80),
  ("https", some 443),
  ("ws", some 80),
  ("wss", some 443),
  ("ftp", some 21),
  ("file", none)]

def isSpecial (scheme : Text) : Bool := specialSchemes.any fun s => s.1.toList == scheme

def usualPort? (scheme : Text) : Option Nat :=
  (specialSchemes.find? fun s => s.1.toList == scheme).bind Prod.snd

end Url

structure Url where
  scheme : Text
  username : Text
  password : Option Text
  /-- None without an authority; an empty name where the authority names no host. -/
  host : Option Url.Host
  /-- None for the usual port of the scheme. -/
  port : Option Nat
  path : Text
  query : Option Text
  fragment : Option Text
deriving DecidableEq

namespace Url

def isWeb (u : Url) : Bool := u.scheme == "http".toList || u.scheme == "https".toList

def userinfo (u : Url) : Text :=
  if u.username = [] ∧ u.password = none then []
  else u.username ++ Text.part ':' u.password ++ ['@']

def hostPort (u : Url) (h : Host) : Text := h.text ++ Text.part ':' (u.port.map Decimal.text)

/-- Without an authority two slashes in front of the path would begin one. -/
def authority (u : Url) : Text :=
  match u.host with
  | some h => "//".toList ++ u.userinfo ++ u.hostPort h
  | none => if "//".toList <+: u.path then "/.".toList else []

def target (u : Url) : Text := u.path ++ Text.part '?' u.query

def text (u : Url) : Text :=
  u.scheme ++ ':' :: u.authority ++ u.target ++ Text.part '#' u.fragment

def dialPort? (u : Url) : Option Nat := u.port <|> usualPort? u.scheme

end Url
end MediaPerimeter
