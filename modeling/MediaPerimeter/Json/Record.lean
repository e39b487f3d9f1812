import MediaPerimeter.Json.Reader

/-!
# Reading records

A record is asked for by rules, one for each field: its name, whether it must be there, and a reader
that adds the field to what has been collected. It may be written as an object, with other fields
among its own, or as the list of its values in the order of the rules.
-/
namespace MediaPerimeter.Json.Read

/-- One field of a record, collected into a value of type `σ`. -/
structure Rule (σ : Type) where
  name : Text
  /-- Whether an object must have the field. -/
  inObject : Bool
  /-- Whether a list must be long enough to hold it. -/
  inList : Bool
  read : Reader (σ → σ)

namespace Rule

variable {σ : Type}

def must {α : Type} (name : String) (read : Reader α) (put : α → σ → σ) : Rule σ :=
  ⟨name.toList, true, true, fun t => (read t).map fun r => (put r.1, r.2)⟩

/-- A field that an object may leave out. -/
def may {α : Type} (name : String) (read : Reader α) (put : α → σ → σ) : Rule σ :=
  { must name read put with inObject := false }

def usual {α : Type} (name : String) (read : Reader α) (put : α → σ → σ) : Rule σ :=
  { must name read put with inObject := false, inList := false }

end Rule

/-- The fault of a record as a whole, which is found before its end is read and told after it. -/
def refuse {α : Type} (message : String) (rest : Bytes) : Except Fault α :=
  .error ⟨.mismatch message, none, rest⟩

/-- What follows the end of an object, or stands in its place. -/
def pastObject (t : Bytes) : Bytes :=
  match skipBlanks t with
  | 0x7d :: rest => rest
  | t => t

def pastList (t : Bytes) : Bytes :=
  match skipBlanks t with
  | 0x5d :: rest => rest
  | 0x2c :: rest => skipBlanks rest
  | t => t

variable {σ : Type}

def recordFields (rules : List (Rule σ)) :
    (count : Nat) → (first : Bool) → (seen : List Text) → σ → Reader (List Text × σ)
  | 0, _, seen, s, t => .ok ((seen, s), t)
  | count + 1, first, seen, s, t => do
    match ← nextKey first t with
    | none => return ((seen, s), t)
    | some t =>
      let (key, t) ← stringTail t
      match rules.find? (·.name == key) with
      | none =>
        let (_, t) ← ((colon t).bind skip).mapError (Fault.within key)
        recordFields rules count false seen s t
      | some rule =>
        if key ∈ seen then refuse s!"duplicate field `{String.ofList key}`" (pastObject t)
        else
          let (put, t) ← ((colon t).bind rule.read).mapError (Fault.within key)
          recordFields rules count false (key :: seen) (put s) t

def objectRecord (rules : List (Rule σ)) (s : σ) : Reader σ := fun t => do
  let ((seen, s), t) ← recordFields rules (t.length + 1) true [] s t
  match rules.find? fun r => r.inObject && !seen.contains r.name with
  | some r => refuse s!"missing field `{String.ofList r.name}`" (pastObject t)
  | none => return (s, ← closeObject t)

def placeName (i : Nat) : Text := '[' :: Decimal.text i ++ [']']

/-- The values of a record in a list, of which `i` are read; a list that is too short is told with
`whole`. -/
def recordItems (whole : String) : List (Rule σ) → (i : Nat) → σ → Reader σ
  | [], _, s, t => .ok (s, t)
  | rule :: rules, i, s, t => do
    match ← (nextItem (i == 0) t).mapError (Fault.within (placeName i)) with
    | none =>
      if rule.inList then refuse s!"invalid length {i}, expected {whole}" (pastList t)
      else recordItems whole rules i s t
    | some t =>
      let (put, t) ← (rule.read t).mapError (Fault.within (placeName i))
      recordItems whole rules (i + 1) (put s) t

def listRecord (title : String) (rules : List (Rule σ)) (s : σ) : Reader σ := fun t => do
  let elements := if rules.length = 1 then "element" else "elements"
  let whole := s!"struct {title} with {rules.length} {elements}"
  let (s, t) ← recordItems whole rules 0 s t
  return (s, ← closeList t)

def record (title : String) (rules : List (Rule σ)) (s : σ) : Reader σ := value fun t =>
  match t with
  | 0x7b :: rest => objectRecord rules s rest
  | 0x5b :: rest => listRecord title rules s rest
  | _ => .error (mismatch s!"struct {title}" t)

def document {α : Type} (read : Reader α) (t : Bytes) : Except Fault α := do
  let (x, t) ← read t
  match skipBlanks t with
  | [] => return x
  | _ :: rest => malformed .trailingCharacters rest

end MediaPerimeter.Json.Read
