import MediaPerimeter.Url.Host

/-!
# Reading URLs

The reading that browsers agree on. Blanks and controls around a URL do not count, tabs and line
ends nowhere. Special schemes take a backslash for a slash and any number of slashes before the
authority; credentials end at the last `@` of the authority. Steps up and down in a path are taken
at once.
-/
namespace MediaPerimeter.Url

/-- Controls and spaces around a URL are cut off; tabs and line ends are dropped everywhere. -/
def clean (raw : Text) : Text :=
  let isEdge := fun (c : Char) => decide (c.toNat ≤ 0x20)
  let t := ((raw.dropWhile isEdge).reverse.dropWhile isEdge).reverse
  t.filter fun c => c != '\t' && c != '\n' && c != '\r'

def fragmentMarks : String := " \"<>`"

def pathMarks : String := fragmentMarks ++ "#?\x7b\x7d"

def userinfoMarks : String := pathMarks ++ "/:;=@[\\]^|"

def queryMarks (special : Bool) : String := " \"#<>" ++ if special then "\x27" else ""

def escape (marks : String) (t : Text) : Text := Percent.encodeText (Percent.keepsPrinted marks) t

def isSlash (special : Bool) (c : Char) : Bool := c == '/' || (special && c == '\\')

/-- A segment that stays where it is, in which the dot may be escaped. -/
def isSelf (segment : Text) : Bool := [".", "%2e"].any fun s => s.toList == segment.lower

def isParent (segment : Text) : Bool :=
  ["..", ".%2e", "%2e.", "%2e%2e"].any fun s => s.toList == segment.lower

def readPath (special : Bool) (t : Text) : Text :=
  if t = [] ∧ !special then []
  else
    let t := t.map fun c => if isSlash special c then '/' else c
    let segments := Text.split '/' (if t.head? = some '/' then t.tail else t)
    '/' :: List.intercalate ['/']
      (Tail.walk isSelf isParent [] (segments.map (escape pathMarks)))

def endsAuthority (special : Bool) (c : Char) : Bool := isSlash special c || c == '?' || c == '#'

def credentials (userinfo : Text) : Text × Option Text :=
  match userinfo.cut ':' with
  | none => (escape userinfoMarks userinfo, none)
  | some (name, []) => (escape userinfoMarks name, none)
  | some (name, password) => (escape userinfoMarks name, some (escape userinfoMarks password))

/-- The host ends at the first colon outside brackets. -/
def divideHost (inside : Bool) : Text → Text × Text
  | [] => ([], [])
  | c :: rest =>
    if c = ':' ∧ inside = false then ([], c :: rest)
    else
      let (host, port) := divideHost (c == '[' || (inside && c != ']')) rest
      (c :: host, port)

def readPort (scheme t : Text) : Except Fault (Option Nat × Text) :=
  let digits := t.takeWhile Char.isDigit
  let rest := t.dropWhile Char.isDigit
  if 65535 < Decimal.value digits ∨ (rest ≠ [] ∧ rest.head? ≠ some '\\') then .error .invalidPort
  else if digits = [] ∨ some (Decimal.value digits) = usualPort? scheme then .ok (none, rest)
  else .ok (some (Decimal.value digits), rest)

def ofParts (scheme username : Text) (password : Option Text) (host : Option Host)
    (port : Option Nat) (readPath : Text → Text) (t : Text) : Url :=
  let tail := Tail.divide t
  { scheme, username, password, host, port
    path := readPath tail.path
    query := tail.query.map (escape (queryMarks (isSpecial scheme)))
    fragment := tail.fragment.map (escape fragmentMarks) }

def readAuthority (scheme t : Text) : Except Fault Url := do
  let special := isSpecial scheme
  let (authority, tail) := t.breakAt (endsAuthority special)
  let (userinfo, hostPort) := (authority.cutLast '@').getD ([], authority)
  let (host, port) := divideHost false hostPort
  let (username, password) := credentials userinfo
  if host = [] ∧ (special ∨ port ≠ [] ∨ username ≠ [] ∨ password ≠ none ∨
      (authority = ['@'] ∧ tail ≠ [])) then throw .emptyHost
  let host ← Host.ofText special host
  let (port, left) ← if port = [] then pure (none, []) else readPort scheme port.tail
  return ofParts scheme username password (some host) port (readPath special) (left ++ tail)

def isDrive : Text → Bool
  | [c, d] => c.isAlpha && (d == ':' || d == '|')
  | _ => false

/-- A file may name its host; the local one is not mentioned. -/
def readFile (scheme t : Text) : Except Fault Url := do
  let file := ofParts scheme [] none
  match t with
  | a :: b :: rest =>
    if isSlash true a && isSlash true b then
      let (name, tail) := Text.breakAt (endsAuthority true) rest
      if name = [] ∨ isDrive name then return file (some (.name [])) none (readPath true) rest
      let host ← Host.ofText true name
      let shown : Host := if host = .name "localhost".toList then .name [] else host
      return file (some shown) none (readPath true) tail
    else return file (some (.name [])) none (readPath true) t
  | _ => return file (some (.name [])) none (readPath true) t

def read (raw : Text) : Except Fault Url :=
  match Scheme.split? (clean raw) with
  | none => .error .noScheme
  | some (scheme, t) =>
    let scheme := scheme.lower
    if scheme = "file".toList then readFile scheme t
    else if isSpecial scheme then readAuthority scheme (t.dropWhile (isSlash true))
    else match t with
      | '/' :: '/' :: rest => readAuthority scheme rest
      | '/' :: _ => .ok (ofParts scheme [] none none none (readPath false) t)
      | _ => .ok (ofParts scheme [] none none none (escape "") t)

end MediaPerimeter.Url
