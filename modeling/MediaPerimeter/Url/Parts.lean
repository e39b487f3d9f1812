import MediaPerimeter.Text.Basic

/-!
# The outer parts of a URL

Every reader of URLs, strict or lenient, takes the scheme off the front, and path, query and
fragment off the end, by the same rules.
-/
namespace MediaPerimeter

namespace Scheme

def isValid : Text → Bool
  | [] => false
  | c :: rest => c.isAlpha && rest.all fun c => c.isAlphanum || c == '+' || c == '-' || c == '.'

def split? (t : Text) : Option (Text × Text) := do
  let (scheme, rest) ← t.cut ':'
  if isValid scheme then some (scheme, rest) else none

end Scheme

def Text.part (mark : Char) : Option Text → Text
  | none => []
  | some t => mark :: t

structure Tail where
  path : Text
  query : Option Text
  fragment : Option Text
deriving DecidableEq

namespace Tail

def divideQuery (t : Text) : Text × Option Text :=
  match t.cut '?' with
  | some (path, query) => (path, some query)
  | none => (t, none)

def divide (t : Text) : Tail :=
  let (before, fragment) := match t.cut '#' with
    | some (before, fragment) => (before, some fragment)
    | none => (t, none)
  let (path, query) := divideQuery before
  ⟨path, query, fragment⟩

/-- Takes the steps of a path, below the segments `above`: one kind of step stays and the other
leads up. A step at the end leads to a directory, whose name is left empty. -/
def walk (isSelf isParent : Text → Bool) (above : List Text) : List Text → List Text
  | [] => above
  | [last] =>
    if isParent last then above.dropLast ++ [[]]
    else if isSelf last then above ++ [[]]
    else above ++ [last]
  | segment :: rest =>
    if isParent segment then walk isSelf isParent above.dropLast rest
    else if isSelf segment then walk isSelf isParent above rest
    else walk isSelf isParent (above ++ [segment]) rest

end Tail
end MediaPerimeter
