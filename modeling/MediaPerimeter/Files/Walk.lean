import MediaPerimeter.Files.Tree

/-!
# Following paths

A path is followed name by name. Links are followed where they stand, each one from a budget that
cycles use up. What a path leads to is a place, so no trace of links or dots is left in it.
-/
namespace MediaPerimeter

structure FileSystem where
  entries : List (Text × Node)
  cwd : Place

namespace Path

def maxLinks : Nat := 40

def isAbsolute (path : Text) : Bool := path.head? == some '/'

/-- The names between slashes; empty ones stand for nothing, but only behind a directory. -/
def names (path : Text) : List Text := path.split '/'

def isSelf (name : Text) : Bool := name == [] || name == ['.']

def isParent (name : Text) : Bool := name == ['.', '.']

end Path

namespace FileSystem
open MediaPerimeter.Path

def root (fs : FileSystem) : Node := .dir fs.entries none

def at? (fs : FileSystem) (p : Place) : Option Node := fs.root.at? p

def isDirAt (fs : FileSystem) (p : Place) : Bool := (fs.at? p).any Node.isDir

def start (here : Place) (path : Text) : Place := if isAbsolute path then [] else here

/-- The place that the names lead to from `here`. -/
def walk (fs : FileSystem) :
    (links : Nat) → (here : Place) → List Text → Except SystemError Place
  | _, here, [] => .ok here
  | links, here, name :: rest =>
    if isSelf name then
      if fs.isDirAt here then walk fs links here rest else .error .notDirectory
    else if isParent name then
      if fs.isDirAt here then walk fs links here.dropLast rest else .error .notDirectory
    else match fs.at? (here ++ [name]) with
      | none => .error (if fs.isDirAt here then .missing else .notDirectory)
      | some (.link target) =>
        match links with
        | 0 => .error .tooManyLinks
        | links + 1 => walk fs links (start here target) (names target ++ rest)
      | some _ => walk fs links (here ++ [name]) rest
termination_by links _ todo => (links, todo.length)

/-- The place that a path leads to; the empty path leads nowhere. -/
def canonical (fs : FileSystem) (path : Text) : Except SystemError Place :=
  if path = [] then .error .missing else fs.walk maxLinks (start fs.cwd path) (names path)

def openAt (fs : FileSystem) (p : Place) : Except SystemError Node :=
  match fs.at? p with
  | none => .error .missing
  | some node =>
    match node.closed? with
    | some e => .error e
    | none => .ok node

end FileSystem
end MediaPerimeter
