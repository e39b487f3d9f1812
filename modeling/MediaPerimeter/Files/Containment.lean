import MediaPerimeter.Files.Walk

/-!
# Containment

A reference from outside is confined to a base directory. Its dots are removed first, on the text
alone; what remains is followed, and the place that it leads to must be that of the base or lie
below it. Only places are compared, name by name, so `record-secret` never passes for `record`.
-/
namespace MediaPerimeter.Containment
open MediaPerimeter.Path

inductive Fault where
  | baseUnavailable (base : Text) (cause : SystemError)
  | unresolvable (cause : SystemError)
  | escapes
deriving DecidableEq

def Fault.message : Fault → String
  | .baseUnavailable base _ => s!"base directory {String.ofList base} is unavailable"
  | .unresolvable _ => "requested path could not be resolved"
  | .escapes => "requested path escapes the base directory"

/-- The names without dots, read from `here`; `..` never climbs above the root. -/
def undotted : (here : Place) → List Text → Place
  | here, [] => here
  | here, name :: rest =>
    if isSelf name then undotted here rest
    else if isParent name then undotted here.dropLast rest
    else undotted (here ++ [name]) rest

/-- The segment below `base` without dots; an absolute segment stands alone. -/
def joined (base : Place) (segment : Text) : Place :=
  undotted (FileSystem.start base segment) (names segment)

/-- The place that `segment` leads to, if it is that of `base` or lies below it. -/
def resolve (fs : FileSystem) (base segment : Text) : Except Fault Place :=
  match fs.canonical base with
  | .error cause => .error (.baseUnavailable base cause)
  | .ok home =>
    match fs.walk maxLinks [] (joined home segment) with
    | .error cause => .error (.unresolvable cause)
    | .ok place => if home <+: place then .ok place else .error .escapes

end MediaPerimeter.Containment
