import MediaPerimeter.Text.Utf8

/-!
# Base64 for URLs

Bytes in letters, digits, `-` and `_`, without padding. Reading is strict: the bits that no byte
takes must be zero, so every sequence of bytes has exactly one text.
-/
namespace MediaPerimeter.Base64Url

def digit (n : Nat) : Char :=
  if n < 26 then .ofNat ('A'.toNat + n)
  else if n < 52 then .ofNat ('a'.toNat + (n - 26))
  else if n < 62 then .ofNat ('0'.toNat + (n - 52))
  else if n = 62 then '-'
  else '_'

def digit? (c : Char) : Option Nat :=
  if c.isUpper then some (c.toNat - 'A'.toNat)
  else if c.isLower then some (c.toNat - 'a'.toNat + 26)
  else if c.isDigit then some (c.toNat - '0'.toNat + 52)
  else if c = '-' then some 62
  else if c = '_' then some 63
  else none

def encode : Bytes → Text
  | [] => []
  | [a] => [digit (a.toNat / 4), digit (a.toNat % 4 * 16)]
  | [a, b] =>
    [digit (a.toNat / 4), digit (a.toNat % 4 * 16 + b.toNat / 16), digit (b.toNat % 16 * 4)]
  | a :: b :: c :: rest =>
    digit (a.toNat / 4) :: digit (a.toNat % 4 * 16 + b.toNat / 16) ::
      digit (b.toNat % 16 * 4 + c.toNat / 64) :: digit (c.toNat % 64) :: encode rest

def decode? : Text → Option Bytes
  | [] => some []
  | [_] => none
  | [a, b] => do
    let a ← digit? a
    let b ← digit? b
    if b % 16 = 0 then some [.ofNat (a * 4 + b / 16)] else none
  | [a, b, c] => do
    let a ← digit? a
    let b ← digit? b
    let c ← digit? c
    if c % 4 = 0 then some [.ofNat (a * 4 + b / 16), .ofNat (b % 16 * 16 + c / 4)] else none
  | a :: b :: c :: d :: rest => do
    let a ← digit? a
    let b ← digit? b
    let c ← digit? c
    let d ← digit? d
    let bs ← decode? rest
    some (.ofNat (a * 4 + b / 16) :: .ofNat (b % 16 * 16 + c / 4) :: .ofNat (c % 4 * 64 + d) :: bs)

inductive Fault where
  | symbol (byte : UInt8) (offset : Nat)
  | length (count : Nat)
  | lastSymbol (byte : UInt8) (offset : Nat)
  | padding
deriving DecidableEq

def Fault.message : Fault → String
  | symbol byte offset => s!"Invalid symbol {byte}, offset {offset}."
  | length count => s!"Invalid input length: {count}"
  | lastSymbol byte offset => s!"Invalid last symbol {byte}, offset {offset}."
  | padding => "Invalid padding"

def isSymbol (b : UInt8) : Bool := b < 0x80 && (digit? (.ofNat b.toNat)).isSome

/-- The fault in the last group of a text, which begins at `offset`. Behind two symbols a `=` is
padding, and padding that anything else follows is blamed itself. -/
def lastFault (offset : Nat) (group : Bytes) : Fault :=
  let symbols := group.takeWhile isSymbol
  let place := offset + symbols.length
  match group.drop symbols.length with
  | [] =>
    if symbols.length < 2 then .length place else .lastSymbol (symbols.getLastD 0) (place - 1)
  | b :: rest =>
    if b = 0x3d ∧ 2 ≤ symbols.length ∧ rest.all (· == 0x3d) then .padding else .symbol b place

/-- The fault of a text that cannot be read. A last group of one byte that is no symbol is noticed
first. -/
def fault (t : Text) : Fault :=
  let bytes := Utf8.encode t
  let whole := (bytes.length - 1) / 4 * 4
  let last := bytes.drop whole
  let place := ((bytes.take whole).takeWhile isSymbol).length
  if last.length = 1 ∧ last.all fun b => !isSymbol b && b != 0x3d then lastFault whole last
  else if place < whole then .symbol (bytes.getD place 0) place
  else lastFault whole last

end MediaPerimeter.Base64Url
