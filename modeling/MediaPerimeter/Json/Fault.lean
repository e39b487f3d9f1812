import MediaPerimeter.Text.Decimal

/-!
# Faults in JSON texts

A text is read in one pass and refused at its first fault. A fault is either in the form of the text
or in what it says; either way it has a place, given by what is left unread.
-/
namespace MediaPerimeter.Json

inductive Malformation where
  | endInList
  | endInObject
  | endInString
  | endInValue
  | colonMissing
  | listNotContinued
  | objectNotContinued
  | unknownWord
  | valueMissing
  | invalidEscape
  | invalidNumber
  | numberOutOfRange
  | invalidCodePoint
  | controlCharacter
  | keyNotString
  | loneSurrogate
  | trailingComma
  | trailingCharacters
  | escapeEndsEarly
  | tooDeep
deriving DecidableEq

def Malformation.message : Malformation → String
  | endInList => "EOF while parsing a list"
  | endInObject => "EOF while parsing an object"
  | endInString => "EOF while parsing a string"
  | endInValue => "EOF while parsing a value"
  | colonMissing => "expected `:`"
  | listNotContinued => "expected `,` or `]`"
  | objectNotContinued => "expected `,` or `\x7d`"
  | unknownWord => "expected ident"
  | valueMissing => "expected value"
  | invalidEscape => "invalid escape"
  | invalidNumber => "invalid number"
  | numberOutOfRange => "number out of range"
  | invalidCodePoint => "invalid unicode code point"
  | controlCharacter => "control character (\\u0000-\\u001F) found while parsing a string"
  | keyNotString => "key must be a string"
  | loneSurrogate => "lone leading surrogate in hex escape"
  | trailingComma => "trailing comma"
  | trailingCharacters => "trailing characters"
  | escapeEndsEarly => "unexpected end of hex escape"
  | tooDeep => "recursion limit exceeded"

inductive Cause where
  | malformed (m : Malformation)
  /-- The text is JSON so far, but does not say what is asked for. -/
  | mismatch (message : String)
deriving DecidableEq

def Cause.message : Cause → String
  | .malformed m => m.message
  | .mismatch m => m

structure Fault where
  cause : Cause
  /-- The field, or the place in a list, in whose value the fault lies. -/
  inside : Option Text
  /-- What is left unread. -/
  rest : Bytes
deriving DecidableEq

namespace Fault

def isMismatch (f : Fault) : Bool :=
  match f.cause with
  | .malformed _ => false
  | .mismatch _ => true

def line (read : Bytes) : Nat := 1 + read.count 0x0a

def column (read : Bytes) : Nat := (read.reverse.takeWhile (· != 0x0a)).length

/-- What is wrong, and its place in the whole text. -/
def located (whole : Bytes) (f : Fault) : String :=
  let read := whole.take (whole.length - f.rest.length)
  s!"{f.cause.message} at line {line read} column {column read}"

def message (whole : Bytes) (f : Fault) : String :=
  match f.inside with
  | none => f.located whole
  | some name => s!"{String.ofList name}: {f.located whole}"

/-- The fault in the value of a field; the innermost name counts. -/
def within (name : Text) (f : Fault) : Fault := { f with inside := f.inside <|> some name }

end Fault

/-- A reader takes a value from the front of the text and returns what follows it. -/
abbrev Reader (α : Type) := Bytes → Except Fault (α × Bytes)

def malformed {α : Type} (m : Malformation) (rest : Bytes) : Except Fault α :=
  .error ⟨.malformed m, none, rest⟩

def malformedAt {α : Type} (m : Malformation) (rest : Bytes) : Except Fault α :=
  malformed m (rest.drop 1)

end MediaPerimeter.Json
