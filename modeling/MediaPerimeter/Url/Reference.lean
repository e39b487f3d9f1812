import MediaPerimeter.Text.Percent
import MediaPerimeter.Url.Basic

/-!
# References

A reference names a URL in whole or relative to another, whose parts stand in for those that it
leaves out. It is read strictly: a character out of place is not mended, and the reference is none.
-/
namespace MediaPerimeter

structure Reference where
  scheme : Option Text
  authority : Option Text
  path : Text
  query : Option Text
deriving DecidableEq

namespace Reference

def isCommon (c : Char) : Bool := c.isAlphanum || "-._~!$&'()*+,;=".toList.contains c

def isText (marks : String) : Text → Bool
  | [] => true
  | '%' :: a :: b :: rest => Hex.isDigit a && Hex.isDigit b && isText marks rest
  | c :: rest => (isCommon c || marks.toList.contains c) && isText marks rest

def isPath (t : Text) : Bool := isText ":@/" t

def isQuery (t : Text) : Bool := isText ":@/?" t

def isHostPort (t : Text) : Bool :=
  match t with
  | '[' :: rest =>
    match Text.cut ']' rest with
    | some (inside, after) => isText ":" inside && isPort after
    | none => false
  | _ =>
    let host := t.takeWhile (· != ':')
    host != [] && host.all isCommon && isPort (t.drop host.length)
where
  isPort : Text → Bool
    | [] => true
    | c :: digits => c == ':' && digits.all Char.isDigit

def isAuthority (t : Text) : Bool :=
  match t.cut '@' with
  | some (userinfo, hostPort) => isText ":" userinfo && isHostPort hostPort
  | none => isHostPort t

def divideAuthority : Text → Option Text × Text
  | '/' :: '/' :: rest =>
    (some (rest.takeWhile (· != '/')), rest.dropWhile (· != '/'))
  | t => (none, t)

/-- A path in front of which no scheme stands has no colon in its first segment. -/
def isLocal (path : Text) : Bool := !(path.takeWhile (· != '/')).contains ':'

def read? (t : Text) : Option Reference :=
  let (scheme, rest) := match Scheme.split? t with
    | some (scheme, rest) => (some scheme, rest)
    | none => (none, t)
  let tail := Tail.divide rest
  let (authority, path) := divideAuthority tail.path
  if authority.all isAuthority && isPath path && tail.query.all isQuery &&
      tail.fragment.all isQuery && (scheme.isSome || authority.isSome || isLocal path) then
    some ⟨scheme, authority, path, tail.query⟩
  else none

def withoutSteps (path : Text) : Text :=
  match path with
  | '/' :: rest => '/' :: List.intercalate ['/']
      (Tail.walk (· == ['.']) (· == ['.', '.']) [] (Text.split '/' rest))
  | _ => path

/-- A relative path in the place of the last segment of another. -/
def besides (base path : Text) : Text :=
  match base.cutLast '/' with
  | some (before, _) => before ++ '/' :: path
  | none => '/' :: path

/-- The text of the URL that the reference names in a document at `base`, if that URL has a host. The
base is held to the same grammar, which is stricter than that of URLs; else nothing is named. -/
def join? (base : Url) (r : Reference) : Option Text := do
  let _ ← read? base.text
  let scheme := r.scheme.getD base.scheme
  let authority ←
    if r.scheme.isSome then r.authority
    else r.authority <|> base.host.map fun h => base.userinfo ++ base.hostPort h
  let (path, query) :=
    if r.scheme.isSome || r.authority.isSome then (withoutSteps r.path, r.query)
    else if r.path = [] then (base.path, r.query <|> base.query)
    else if r.path.head? = some '/' then (withoutSteps r.path, r.query)
    else (withoutSteps (besides base.path r.path), r.query)
  some (scheme ++ "://".toList ++ authority ++ path ++ Text.part '?' query)

end Reference
end MediaPerimeter
