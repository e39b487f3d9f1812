import MediaPerimeter.Address.Reader
import MediaPerimeter.Stream.Target
import MediaPerimeter.Text.Percent

/-!
# Stream URLs

The URLs of cameras and encoders carry credentials with `@`, `?` or `#` in them as they are, and a
strict reader would divide such a URL in the wrong place. So an authority that reads cleanly as
`host:port`, or as an IP literal, is taken as it is; in any other the credentials end at the last
`@` before the path. Name and password are then escaped one by one, so that what is written reads
the same way everywhere. The options of an `srt` URL follow its authority as a tail that is handed
on character by character.
-/
namespace MediaPerimeter

structure StreamUrl where
  scheme : Text
  username : Option Text
  /-- Escaped; only together with a name. -/
  password : Option Text
  /-- As written; an IPv6 literal keeps its brackets. -/
  host : Text
  port : Option Nat
  path : Text
  query : Option Text
  fragment : Option Text
deriving DecidableEq

namespace StreamUrl

inductive Fault where
  | missingScheme
  | emptyHost
  | invalidPort (text : Text)
  | unterminatedIPv6
deriving DecidableEq

def Fault.message : Fault → String
  | .missingScheme => "url has no scheme"
  | .emptyHost => "url has an empty host"
  | .invalidPort text => s!"invalid port '{String.ofList text}'"
  | .unterminatedIPv6 => "unterminated IPv6 host"

def isSrtScheme (scheme : Text) : Bool := scheme.lower == "srt".toList

def isSrt (u : StreamUrl) : Bool := isSrtScheme u.scheme

def userinfo (u : StreamUrl) : Text :=
  match u.username with
  | none => []
  | some name => name ++ Text.part ':' u.password ++ ['@']

def authority (u : StreamUrl) : Text :=
  u.userinfo ++ u.host ++ Text.part ':' (u.port.map Decimal.text)

def tail (u : StreamUrl) : Text := u.path ++ Text.part '?' u.query ++ Text.part '#' u.fragment

def text (u : StreamUrl) : Text := u.scheme ++ "://".toList ++ u.authority ++ u.tail

/-- The bytes that stand for themselves in credentials: letters, digits, unreserved marks and the
delimiters that are unambiguous there. -/
def keptInUserinfo (b : UInt8) : Bool :=
  Percent.isAlphanum b || "-_.~$&+,;=".toList.any fun c => c.toNat == b.toNat

/-- A component whose every `%` begins an escape is read before it is written, so that it is not
escaped twice. What is read may be any bytes. -/
def escapeComponent (t : Text) : Text :=
  let bs := Utf8.encode t
  Percent.encode keptInUserinfo (if Percent.isEscaped bs then Percent.decode bs else bs)

def divideHost (t : Text) : Except Fault (Text × Option Text) :=
  if t.head? = some '[' then
    match t.cut ']' with
    | none => .error .unterminatedIPv6
    | some (inside, []) => .ok (inside ++ [']'], none)
    | some (inside, ':' :: port) => .ok (inside ++ [']'], some port)
    | some (_, other) => .error (.invalidPort other)
  else match t.cutLast ':' with
    | some (host, port) => .ok (host, some port)
    | none => .ok (t, none)

def readHostPort (t : Text) : Except Fault (Text × Option Nat) := do
  let (host, port) ← divideHost t
  if host = [] ∨ host = ['[', ']'] then throw .emptyHost
  match port with
  | none => return (host, none)
  | some p =>
    match Decimal.readUpTo? 65535 p with
    | some n => return (host, some n)
    | none => throw (.invalidPort p)

/-- Host and port of an authority without credentials that names a port or is an IP literal. -/
def cleanAuthority? (t : Text) : Option (Text × Option Nat) :=
  if '@' ∈ t then none
  else match readHostPort t with
    | .error _ => none
    | .ok (host, port) =>
      if port.isSome || (Address.ofText? host.unbracket).isSome then some (host, port) else none

def endsAuthority (c : Char) : Bool := c == '/' || c == '?' || c == '#'

structure Division where
  userinfo : Option Text
  host : Text
  port : Option Nat
  tail : Text
deriving DecidableEq

/-- The credentials of a URL other than `srt` may hold `?` and `#`, and only the path ends them. -/
def divide (srt : Bool) (rest : Text) : Except Fault Division :=
  let clean := rest.breakAt endsAuthority
  match cleanAuthority? clean.1 with
  | some (host, port) => .ok ⟨none, host, port, clean.2⟩
  | none =>
    let reach := if srt then clean else rest.breakAt (· == '/')
    let (userinfo, after) := match reach.1.cutLast '@' with
      | some (info, more) => (some info, more ++ reach.2)
      | none => (none, rest)
    let (hostPort, tail) := after.breakAt endsAuthority
    match readHostPort hostPort with
    | .error e => .error e
    | .ok (host, port) => .ok ⟨userinfo, host, port, tail⟩

def credentials : Option Text → Option Text × Option Text
  | none => (none, none)
  | some info =>
    match info.cut ':' with
    | some (name, password) => (some (escapeComponent name), some (escapeComponent password))
    | none => (some (escapeComponent info), none)

/-- Path, query and fragment. For `srt` all that follows the `?` is query. -/
def divideTail (srt : Bool) (t : Text) : Tail :=
  if srt then
    let (path, query) := Tail.divideQuery t
    ⟨path, query, none⟩
  else Tail.divide t

/-- Reads a URL leniently and escapes its credentials; all else is carried over. -/
def rebuild (raw : Text) : Except Fault StreamUrl :=
  match Scheme.split? raw.trim with
  | some (scheme, '/' :: '/' :: rest) =>
    match divide (isSrtScheme scheme) rest with
    | .error e => .error e
    | .ok d =>
      let (username, password) := credentials d.userinfo
      let tail := divideTail (isSrtScheme scheme) d.tail
      .ok ⟨scheme, username, password, d.host, d.port, tail.path, tail.query, tail.fragment⟩
  | _ => .error .missingScheme

end StreamUrl
end MediaPerimeter
