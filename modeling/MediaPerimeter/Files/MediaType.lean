import MediaPerimeter.Files.Walk

/-!
# Media types

The type of a file is read off its name: what follows the last dot decides, in letters of any case.
-/
namespace MediaPerimeter

namespace Path

/-- The part of a file name after its last dot. A name whose only dot comes first has none. -/
def extension? (name : Text) : Option Text :=
  match name.cutLast '.' with
  | some (before, after) => if before = [] then none else some after
  | none => none

def fileName? (path : Text) : Option Text :=
  match ((names path).filter (!isSelf ·)).getLast? with
  | some name => if isParent name then none else some name
  | none => none

end Path

namespace MediaType

def octets : String := "application/octet-stream"

def table : List (String × String) := [
  ("ts", "video/mp2t"),
  ("m3u8", "application/vnd.apple.mpegurl"),
  ("m4s", "video/iso.segment"),
  ("mp4", "video/mp4"),
  ("aac", "audio/aac"),
  ("mp3", "audio/mpeg"),
  ("wav", "audio/wav"),
  ("ogg", "audio/ogg"),
  ("opus", "audio/ogg"),
  ("m4a", "audio/mp4")]

def ofExtension (extension : Text) : String :=
  match table.find? fun row => row.1.toList == extension.lower with
  | some row => row.2
  | none => octets

def ofName (name : Text) : String := ((Path.extension? name).map ofExtension).getD octets

def ofPath (path : Text) : String := ((Path.fileName? path).map ofName).getD octets

end MediaType
end MediaPerimeter
