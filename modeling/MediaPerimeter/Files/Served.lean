import MediaPerimeter.Files.Containment
import MediaPerimeter.Files.MediaType

/-!
# Served directories

A directory is served together with the kinds of file that it may hand out. The kind is read off the
place of the file itself, so a link with a harmless name does not disguise what it leads to.
-/
namespace MediaPerimeter

structure ServedFile where
  mediaType : String
  bytes : Bytes
deriving DecidableEq

namespace ServedFile

inductive Fault where
  | containment (fault : Containment.Fault)
  | extensionNotAllowed (extension : Text)
  | notRegular
  | system (error : SystemError)
deriving DecidableEq

def Fault.message : Fault → String
  | .containment f => f.message
  | .extensionNotAllowed extension =>
    s!"file type '{String.ofList extension}' is not served from this directory"
  | .notRegular => "not a regular file"
  | .system e => s!"io error: {e.text}"

end ServedFile

structure ServedDirectory where
  base : Text
  extensions : List Text
deriving DecidableEq

namespace ServedDirectory

def make (base : Text) (extensions : List Text) : ServedDirectory :=
  ⟨base, extensions.map Text.lower⟩

def extensionAt (place : Place) : Text :=
  ((place.getLast?.bind Path.extension?).getD []).lower

def servedPlace (d : ServedDirectory) (fs : FileSystem) (segment : Text) :
    Except ServedFile.Fault Place :=
  match Containment.resolve fs d.base segment with
  | .error f => .error (.containment f)
  | .ok place =>
    if extensionAt place ∈ d.extensions then .ok place
    else .error (.extensionNotAllowed (extensionAt place))

def locate (d : ServedDirectory) (fs : FileSystem) (segment : Text) :
    Except ServedFile.Fault Place :=
  match d.servedPlace fs segment with
  | .error f => .error f
  | .ok place => if (fs.at? place).any Node.isFile then .ok place else .error .notRegular

/-- What stands at the place is opened before it is known to be a file. -/
def read (d : ServedDirectory) (fs : FileSystem) (segment : Text) :
    Except ServedFile.Fault ServedFile :=
  match d.servedPlace fs segment with
  | .error f => .error f
  | .ok place =>
    match fs.openAt place with
    | .error e => .error (.system e)
    | .ok (.file bytes _) =>
      .ok ⟨(place.getLast?.map MediaType.ofName).getD MediaType.octets, bytes⟩
    | .ok _ => .error .notRegular

end ServedDirectory
end MediaPerimeter
