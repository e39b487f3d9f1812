import MediaPerimeter.Json.Basic
import MediaPerimeter.Text.Identifier
import MediaPerimeter.Time.Calendar

/-!
# Callback events

What is told to the receiver of a callback: an action, the stream that it concerns, if any, and a
name and a time of its own.
-/
namespace MediaPerimeter.Callback

structure Event where
  id : Text
  action : Text
  created : Instant
  stream : Option Text
deriving DecidableEq

namespace Event

def make (action : Text) (stream : Option Text) (now : Instant) (random : BitVec 128) : Event :=
  ⟨Identifier.ofBits random, action, now, stream⟩

def test (now : Instant) (random : BitVec 128) : Event := make "on_test".toList none now random

def json (e : Event) : Json :=
  .record ([("request_id", .string e.id), ("action", .string e.action),
    ("created_at", .string e.created.text)] ++
    match e.stream with
    | some stream => [("stream", .string stream)]
    | none => [])

end Event
end MediaPerimeter.Callback
