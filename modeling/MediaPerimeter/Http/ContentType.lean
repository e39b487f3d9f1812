import MediaPerimeter.Text.Basic

/-!
# Content types

The type of a body as a header names it: a type and a subtype, of which the part behind the last `+`
is the suffix, and parameters after semicolons. A value that is not written that way names no type.
-/
namespace MediaPerimeter.Http

structure ContentType where
  main : Text
  sub : Text
  suffix : Option Text
deriving DecidableEq

namespace ContentType

def isToken (c : Char) : Bool := c.isAlphanum || "!#$%&'*+-.^_\x60|~".toList.contains c

def isQuotable (c : Char) : Bool := 0x20 ≤ c.toNat && c.toNat < 0x7f

/-- A quoted value is not empty, and ends at a quotation mark behind its first character. -/
def afterQuoted? : Text → Option Text
  | [] => none
  | first :: rest =>
    match rest.dropWhile fun c => c != '"' with
    | '"' :: after =>
      if isQuotable first && (rest.takeWhile (· != '"')).all isQuotable then
        match after.dropWhile (· == ' ') with
        | [] => some []
        | ';' :: more => some more
        | _ => none
      else none
    | _ => none

/-- What follows a value that is not quoted. Only the last value may be empty. -/
def afterPlain? (t : Text) : Option Text :=
  match t.dropWhile isToken with
  | [] => some []
  | ';' :: more => if t.head? = some ';' then none else some more
  | _ => none

def afterParameter? (t : Text) : Option Text :=
  match t.dropWhile isToken with
  | '=' :: value =>
    if t.head? = some '=' then none
    else match value with
      | '"' :: quoted => afterQuoted? quoted
      | _ => afterPlain? value
  | _ => none

def areParameters : (count : Nat) → Text → Bool
  | 0, t => t == []
  | count + 1, t =>
    match t.dropWhile (· == ' ') with
    | [] => true
    | rest => (afterParameter? rest).any (areParameters count)

/-- The subtype without and with its suffix. A `+` in front begins none. -/
def divideSuffix (t : Text) : Text × Option Text :=
  match t with
  | [] => ([], none)
  | c :: rest =>
    match Text.cutLast '+' rest with
    | some (before, suffix) => (c :: before, some suffix)
    | none => (t, none)

def read? (t : Text) : Option ContentType := do
  let (main, rest) ← Text.cut '/' t
  let sub := rest.takeWhile isToken
  let parameters := rest.dropWhile isToken
  let isRest := parameters = [] ∨
    (sub ≠ [] ∧ parameters.head? = some ';' ∧ areParameters parameters.length parameters.tail)
  if main ≠ [] ∧ main.all isToken ∧ isRest then
    let (sub, suffix) := divideSuffix (Text.lower sub)
    some ⟨Text.lower main, sub, suffix⟩
  else none

def isJson (t : ContentType) : Bool :=
  t.main == "application".toList &&
    (t.sub == "json".toList || t.suffix == some "json".toList)

end ContentType
end MediaPerimeter.Http
