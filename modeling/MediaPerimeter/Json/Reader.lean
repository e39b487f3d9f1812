import MediaPerimeter.Json.Basic
import MediaPerimeter.Json.Number
import MediaPerimeter.Text.Percent
import MediaPerimeter.Text.Quoted

/-!
# Reading JSON values

Readers for strings, integers, optional values and lists, and one that passes over any value. A
value of another kind than the one asked for is read as far as needed to name it.
-/
namespace MediaPerimeter.Json.Read

def isBlank (b : UInt8) : Bool := b == 0x20 || b == 0x09 || b == 0x0a || b == 0x0d

def skipBlanks (t : Bytes) : Bytes := t.dropWhile isBlank

def word : Bytes → Bytes → Except Fault Bytes
  | [], t => .ok t
  | _ :: _, [] => malformed .endInValue []
  | w :: ws, b :: t => if b = w then word ws t else malformed .unknownWord t

def hexNumber : Bytes → Except Fault Nat
  | a :: b :: c :: d :: rest =>
    match Percent.pair? a b, Percent.pair? c d with
    | some high, some low => .ok (high.toNat * 256 + low.toNat)
    | _, _ => malformed .invalidEscape rest
  | _ => malformed .endInString []

def isLeading (n : Nat) : Bool := 0xd800 ≤ n && n < 0xdc00

def isTrailing (n : Nat) : Bool := 0xdc00 ≤ n && n < 0xe000

def pairChar (high low : Nat) : Char :=
  .ofNat (0x10000 + (high - 0xd800) * 0x400 + (low - 0xdc00))

/-- The bytes of an escape by number and the count of those that it was written with, behind the
letter. Surrogates must come in pairs. -/
def numberEscape (t : Bytes) : Except Fault (Bytes × Nat) := do
  let n ← hexNumber t
  if isTrailing n then malformed .loneSurrogate (t.drop 4)
  else if !isLeading n then return (Utf8.encode [Char.ofNat n], 4)
  else match t.drop 4 with
    | [] => malformed .endInString []
    | [0x5c] => malformed .endInString []
    | 0x5c :: 0x75 :: more =>
      let low ← hexNumber more
      if isTrailing low then return (Utf8.encode [pairChar n low], 10)
      else malformed .loneSurrogate (more.drop 4)
    | 0x5c :: _ :: more => malformed .escapeEndsEarly more
    | _ :: more => malformed .escapeEndsEarly more

def shortEscape? (b : UInt8) : Option UInt8 :=
  if b = 0x22 ∨ b = 0x5c ∨ b = 0x2f then some b
  else if b = 0x62 then some 0x08
  else if b = 0x66 then some 0x0c
  else if b = 0x6e then some 0x0a
  else if b = 0x72 then some 0x0d
  else if b = 0x74 then some 0x09
  else none

/-- The bytes of an escape and the count of those that follow its backslash. What is `skimmed` is
not checked for surrogates. -/
def escaped (skimmed : Bool) (t : Bytes) : Except Fault (Bytes × Nat) :=
  match t with
  | [] => malformed .endInString []
  | b :: rest =>
    if b = 0x75 then
      if skimmed then (hexNumber rest).map fun _ => ([], 5)
      else (numberEscape rest).map fun r => (r.1, r.2 + 1)
    else match shortEscape? b with
      | some x => .ok ([x], 1)
      | none => malformed .invalidEscape rest

def stringBytes (skimmed : Bool) : Reader Bytes
  | [] => malformed .endInString []
  | b :: rest =>
    if b = 0x22 then .ok ([], rest)
    else if b = 0x5c then
      match escaped skimmed rest with
      | .error f => .error f
      | .ok (bs, count) => (stringBytes skimmed (rest.drop count)).map fun r => (bs ++ r.1, r.2)
    else if b < 0x20 then malformed .controlCharacter (if skimmed then b :: rest else rest)
    else (stringBytes skimmed rest).map fun r => (b :: r.1, r.2)
termination_by t => t.length
decreasing_by
  · simp only [List.length_drop, List.length_cons]
    omega
  · exact Nat.lt_succ_self rest.length

def stringTail (t : Bytes) : Except Fault (Text × Bytes) := do
  let (bs, rest) ← stringBytes false t
  match Utf8.decode? bs with
  | some s => return (s, rest)
  | none => malformed .invalidCodePoint rest

/-- The fault of a value that is not what was `expected`. Strings and numbers are read, lists and
objects only recognised. -/
def mismatch (expected : String) (t : Bytes) : Fault :=
  let found := fun (what : String) (rest : Bytes) =>
    Fault.mk (.mismatch s!"invalid type: {what}, expected {expected}") none rest
  let after := fun (what : String) (r : Except Fault Bytes) =>
    match r with
    | .ok rest => found what rest
    | .error f => f
  match t with
  | 0x6e :: rest => after "null" (word (Utf8.encode "ull".toList) rest)
  | 0x74 :: rest => after "boolean `true`" (word (Utf8.encode "rue".toList) rest)
  | 0x66 :: rest => after "boolean `false`" (word (Utf8.encode "alse".toList) rest)
  | 0x22 :: rest =>
    match stringTail rest with
    | .ok (s, rest) => found s!"string {String.ofList (Quoted.text s)}" rest
    | .error f => f
  | 0x5b :: _ => found "sequence" t
  | 0x7b :: _ => found "map" t
  | b :: _ =>
    if b = 0x2d ∨ Number.isDigit b then
      match Number.read t with
      | .ok (n, rest) => found n.describe rest
      | .error f => f
    else ⟨.malformed .valueMissing, none, t.drop 1⟩
  | [] => ⟨.malformed .valueMissing, none, []⟩

def value {α : Type} (read : Reader α) : Reader α := fun t =>
  match skipBlanks t with
  | [] => malformed .endInValue []
  | b :: rest => read (b :: rest)

def string : Reader Text := value fun t =>
  match t with
  | 0x22 :: rest => stringTail rest
  | _ => .error (mismatch "a string" t)

def integer : Reader Int := value fun t =>
  if t.head? = some 0x2d ∨ (t.head?.any Number.isDigit) then do
    match ← Number.read t with
    | (.nonneg n, rest) =>
      if n < Nat.pow 2 63 then return (n, rest)
      else .error ⟨.mismatch s!"invalid value: integer `{n}`, expected i64", none, rest⟩
    | (.negative n, rest) => return (-n, rest)
    | (n, rest) => .error ⟨.mismatch s!"invalid type: {n.describe}, expected i64", none, rest⟩
  else .error (mismatch "i64" t)

def nullable {α : Type} (read : Reader α) : Reader (Option α) := value fun t =>
  match t with
  | 0x6e :: rest => (word (Utf8.encode "ull".toList) rest).map (none, ·)
  | _ => (read t).map fun r => (some r.1, r.2)

def nextItem (first : Bool) (t : Bytes) : Except Fault (Option Bytes) :=
  match skipBlanks t with
  | [] => malformed .endInList []
  | 0x5d :: _ => .ok none
  | b :: rest =>
    if first then .ok (some (b :: rest))
    else if b = 0x2c then
      match skipBlanks rest with
      | [] => malformed .endInValue []
      | 0x5d :: more => malformed .trailingComma more
      | next => .ok (some next)
    else malformed .listNotContinued rest

def closeList (t : Bytes) : Except Fault Bytes :=
  match skipBlanks t with
  | [] => malformed .endInList []
  | 0x5d :: rest => .ok rest
  | 0x2c :: rest =>
    match skipBlanks rest with
    | 0x5d :: more => malformed .trailingComma more
    | next => malformedAt .trailingCharacters next
  | _ :: rest => malformed .trailingCharacters rest

def items {α : Type} (read : Reader α) : (count : Nat) → (first : Bool) → Reader (List α)
  | 0, _, t => .ok ([], t)
  | count + 1, first, t => do
    match ← nextItem first t with
    | none => return ([], t)
    | some t =>
      let (x, t) ← read t
      let (xs, t) ← items read count false t
      return (x :: xs, t)

def list {α : Type} (read : Reader α) : Reader (List α) := value fun t =>
  match t with
  | 0x5b :: rest => do
    let (xs, t) ← items read rest.length true rest
    return (xs, ← closeList t)
  | _ => .error (mismatch "a sequence" t)

def nextKey (first : Bool) (t : Bytes) : Except Fault (Option Bytes) :=
  match skipBlanks t with
  | [] => malformed .endInObject []
  | 0x7d :: _ => .ok none
  | b :: rest =>
    if first then
      if b = 0x22 then .ok (some rest) else malformed .keyNotString rest
    else if b = 0x2c then
      match skipBlanks rest with
      | [] => malformed .endInValue []
      | 0x22 :: more => .ok (some more)
      | 0x7d :: more => malformed .trailingComma more
      | _ :: more => malformed .keyNotString more
    else malformed .objectNotContinued rest

def colon (t : Bytes) : Except Fault Bytes :=
  match skipBlanks t with
  | [] => malformed .endInObject []
  | 0x3a :: rest => .ok rest
  | _ :: rest => malformed .colonMissing rest

def closeObject (t : Bytes) : Except Fault Bytes :=
  match skipBlanks t with
  | [] => malformed .endInObject []
  | 0x7d :: rest => .ok rest
  | 0x2c :: rest => malformed .trailingComma rest
  | _ :: rest => malformed .trailingCharacters rest

def fields {α : Type} (read : Reader α) :
    (count : Nat) → (first : Bool) → Reader (List (Text × α))
  | 0, _, t => .ok ([], t)
  | count + 1, first, t => do
    match ← nextKey first t with
    | none => return ([], t)
    | some t =>
      let (key, t) ← stringTail t
      let (x, t) ← read (← colon t)
      let (xs, t) ← fields read count false t
      return ((key, x) :: xs, t)

/-- Any value whose lists and objects are nested less than `depth` deep. -/
def any : (depth : Nat) → Reader Json
  | 0 => fun t => malformedAt .tooDeep t
  | depth + 1 => value fun t =>
    match t with
    | 0x6e :: rest => (word (Utf8.encode "ull".toList) rest).map (.null, ·)
    | 0x74 :: rest => (word (Utf8.encode "rue".toList) rest).map (.bool true, ·)
    | 0x66 :: rest => (word (Utf8.encode "alse".toList) rest).map (.bool false, ·)
    | 0x22 :: rest => (stringTail rest).map fun r => (.string r.1, r.2)
    | 0x5b :: rest =>
      if depth = 0 then malformedAt .tooDeep t
      else do
        let (xs, t) ← items (any depth) rest.length true rest
        return (.array xs, ← closeList t)
    | 0x7b :: rest =>
      if depth = 0 then malformedAt .tooDeep t
      else do
        let (xs, t) ← fields (any depth) rest.length true rest
        return (.object xs, ← closeObject t)
    | b :: _ =>
      if b = 0x2d ∨ Number.isDigit b then
        (Number.read t).map fun r => (.number r.1.text, r.2)
      else malformedAt .valueMissing t
    | [] => malformed .valueMissing []

inductive Frame where
  | list
  | object
deriving DecidableEq

namespace Frame

def close : Frame → UInt8
  | list => 0x5d
  | object => 0x7d

def unclosed : Frame → Malformation
  | list => .endInList
  | object => .endInObject

def notContinued : Frame → Malformation
  | list => .listNotContinued
  | object => .objectNotContinued

def skipKey (frame : Frame) (t : Bytes) : Except Fault Bytes :=
  match frame with
  | list => .ok t
  | object =>
    match skipBlanks t with
    | [] => malformed .endInObject []
    | 0x22 :: rest =>
      match stringBytes true rest with
      | .error f => .error f
      | .ok (_, rest) => colon rest
    | _ :: rest => malformed .keyNotString rest

end Frame

def skipScalar (b : UInt8) (rest : Bytes) : Except Fault Bytes :=
  if b = 0x6e then word (Utf8.encode "ull".toList) rest
  else if b = 0x74 then word (Utf8.encode "rue".toList) rest
  else if b = 0x66 then word (Utf8.encode "alse".toList) rest
  else if b = 0x22 then (stringBytes true rest).map Prod.snd
  else if b = 0x2d ∨ Number.isDigit b then Number.skip (b :: rest)
  else malformed .valueMissing rest

inductive Awaited where
  | value
  | firstOrEnd
  | nextOrEnd
deriving DecidableEq

/-- Passes over values until all open frames are closed, in at most `steps` steps. -/
def skipFrames : (steps : Nat) → List Frame → Awaited → Bytes → Except Fault Bytes
  | 0, _, _, t => .ok t
  | steps + 1, frames, .value, t =>
    match skipBlanks t with
    | [] => malformed .endInValue []
    | 0x5b :: rest => skipFrames steps (.list :: frames) .firstOrEnd rest
    | 0x7b :: rest => skipFrames steps (.object :: frames) .firstOrEnd rest
    | b :: rest =>
      match skipScalar b rest with
      | .error f => .error f
      | .ok rest => skipFrames steps frames .nextOrEnd rest
  | _, [], _, t => .ok t
  | steps + 1, frame :: outer, awaited, t =>
    match skipBlanks t with
    | [] => malformed frame.unclosed []
    | b :: rest =>
      if b = frame.close then skipFrames steps outer .nextOrEnd rest
      else if awaited = .firstOrEnd ∨ b = 0x2c then
        match frame.skipKey (if awaited = .firstOrEnd then b :: rest else rest) with
        | .error f => .error f
        | .ok t => skipFrames steps (frame :: outer) .value t
      else malformed frame.notContinued rest

/-- Passes over any value. A step takes a byte, or is followed by one that does. -/
def skip : Reader Unit := fun t => (skipFrames (2 * t.length + 2) [] .value t).map ((), ·)

end MediaPerimeter.Json.Read
