import MediaPerimeter.Text.Basic

/-!
# File trees

Directories hold files, links, directories and other nodes under names. A place is the list of names
that leads to a node from the root down, through directories only: it never passes a link, so each
node has one place and each place at most one node. A node that is there may still not be opened.
-/
namespace MediaPerimeter

inductive SystemFault where
  | notFound
  | permissionDenied
  | invalidInput
  | other
deriving DecidableEq

structure SystemError where
  fault : SystemFault
  text : String
deriving DecidableEq

namespace SystemError

def missing : SystemError := ⟨.notFound, "No such file or directory (os error 2)"⟩

def denied : SystemError := ⟨.permissionDenied, "Permission denied (os error 13)"⟩

def noDevice : SystemError := ⟨.other, "No such device or address (os error 6)"⟩

def notDirectory : SystemError := ⟨.other, "Not a directory (os error 20)"⟩

def tooManyLinks : SystemError := ⟨.other, "Too many levels of symbolic links (os error 40)"⟩

end SystemError

abbrev Place := List Text

namespace Place

def text : Place → Text
  | [] => ['/']
  | names => names.flatMap fun name => '/' :: name

end Place

/-- All but links carry what comes of opening them, or for a file of reading it, if that fails. -/
inductive Node where
  | file (bytes : Bytes) (closed : Option SystemError)
  /-- A link to the path `target`, which need not lead anywhere. -/
  | link (target : Text)
  | dir (entries : List (Text × Node)) (closed : Option SystemError)
  /-- A device, a socket or a pipe. -/
  | special (closed : Option SystemError)

namespace Node

def child? (name : Text) : Node → Option Node
  | .dir entries _ => entries.lookup name
  | _ => none

def isDir : Node → Bool
  | .dir _ _ => true
  | _ => false

def isFile : Node → Bool
  | .file _ _ => true
  | _ => false

def closed? : Node → Option SystemError
  | .file _ closed => closed
  | .link _ => none
  | .dir _ closed => closed
  | .special closed => closed

def at? (node : Node) : Place → Option Node
  | [] => some node
  | name :: rest => (node.child? name).bind fun child => child.at? rest

theorem at?_append (node : Node) (p q : Place) :
    node.at? (p ++ q) = (node.at? p).bind fun inner => inner.at? q := by
  induction p generalizing node with
  | nil => rfl
  | cons name rest ih =>
    simp only [List.cons_append, at?]
    cases node.child? name with
    | none => rfl
    | some child => exact ih child

end Node
end MediaPerimeter
