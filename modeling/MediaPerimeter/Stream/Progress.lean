import MediaPerimeter.Text.Blank

/-!
# Progress lines

The status line of a transcoder is a row of fields `key=value` between blanks, in any order. Some
values are padded (`speed= 1.2x`): a key without a value takes the next word, unless that is a
field itself.
-/
namespace MediaPerimeter

structure Progress where
  time : Text
  speed : Text
deriving DecidableEq

namespace Progress

inductive Field where
  | time
  | speed
deriving DecidableEq

def Field.name : Field → String
  | .time => "time"
  | .speed => "speed"

structure Missing where
  field : Field
deriving DecidableEq

def Missing.message (m : Missing) : String := s!"progress line has no '{m.field.name}=' field"

/-- The fields of a row of words; words without `=` that no field takes are passed over. -/
def fields : List Text → List (Text × Text)
  | [] => []
  | word :: words =>
    match word.cut '=' with
    | none => fields words
    | some (key, []) =>
      match words with
      | [] => [(key, [])]
      | next :: later =>
        if '=' ∈ next then (key, []) :: fields (next :: later) else (key, next) :: fields later
    | some (key, value) => (key, value) :: fields words

def lastValue (key : Text) (row : List (Text × Text)) : Option Text :=
  ((row.filter fun f => f.1 == key && f.2 != []).map Prod.snd).getLast?

def ofLine (line : Text) : Except Missing Progress :=
  let row := fields line.words
  match lastValue "time".toList row with
  | none => .error ⟨.time⟩
  | some time =>
    match lastValue "speed".toList row with
    | none => .error ⟨.speed⟩
    | some speed => .ok ⟨time, speed⟩

end Progress
end MediaPerimeter
