import MediaPerimeter.Json.Fault
import MediaPerimeter.Text.Shortest

/-!
# Numbers in JSON texts

An integer is held exactly as far as 64 bits go. A fraction, a number with an exponent, a longer
integer and a negative zero become doubles: as many leading digits as fit 64 bits, scaled by a power
of ten.
-/
namespace MediaPerimeter.Json

inductive Number where
  | nonneg (n : Nat)
  /-- The number `-n`, which is not zero. -/
  | negative (n : Nat)
  | float (x : Float)

namespace Number

def isDigit (b : UInt8) : Bool := 0x30 ≤ b && b ≤ 0x39

def digit (b : UInt8) : Nat := b.toNat - 0x30

def limit : Nat := Nat.pow 2 64

/-- Digits appended to a significand as long as it stays below the limit, and those left over. -/
def gather : (significand : Nat) → Bytes → Nat × Bytes
  | s, [] => (s, [])
  | s, d :: ds => if s * 10 + digit d < limit then gather (s * 10 + digit d) ds else (s, d :: ds)

def tenTo (n : Nat) : Float := Float.ofScientific 1 false n

def scale? (significand : Nat) (e : Int) : Option Float :=
  let x := Float.ofNat significand
  if 0 ≤ e then
    if e ≤ 308 then
      let y := x * tenTo e.toNat
      if y.isInf then none else some y
    else if significand = 0 then some x else none
  else if -308 ≤ e then some (x / tenTo (-e).toNat)
  else if -616 ≤ e then some (x / tenTo 308 / tenTo (-e - 308).toNat)
  else some 0

def signed (negative : Bool) (x : Float) : Number := .float (if negative then -x else x)

def ofParts (negative : Bool) (significand : Nat) (e : Int) (rest : Bytes) :
    Except Fault (Number × Bytes) :=
  match scale? significand e with
  | some x => .ok (signed negative x, rest)
  | none => malformed .numberOutOfRange rest

def maxExponent : Nat := Nat.pow 2 31 - 1

/-- The value of the digits of an exponent; when it grows too large, what follows the digit at
which it does. -/
def exponentValue : (e : Nat) → Bytes → Except Bytes Nat
  | e, [] => .ok e
  | e, d :: ds =>
    if maxExponent < e * 10 + digit d then .error ds else exponentValue (e * 10 + digit d) ds

def exponent (negative : Bool) (significand : Nat) (e : Int) (t : Bytes) :
    Except Fault (Number × Bytes) :=
  let (down, t) := match t with
    | 0x2b :: rest => (false, rest)
    | 0x2d :: rest => (true, rest)
    | _ => (false, t)
  let ds := t.takeWhile isDigit
  let rest := t.dropWhile isDigit
  if t = [] then malformed .endInValue t
  else if ds = [] then malformedAt .invalidNumber t
  else match exponentValue 0 ds with
    | .ok n => ofParts negative significand (if down then e - n else e + n) rest
    | .error left =>
      if significand ≠ 0 ∧ !down then malformed .numberOutOfRange (left ++ rest)
      else .ok (signed negative 0, rest)

def afterDigits (negative : Bool) (significand : Nat) (e : Int) (t : Bytes)
    (otherwise : Except Fault (Number × Bytes)) : Except Fault (Number × Bytes) :=
  match t with
  | 0x65 :: rest => exponent negative significand e rest
  | 0x45 :: rest => exponent negative significand e rest
  | _ => otherwise

def fraction (negative : Bool) (significand : Nat) (e : Int) (t : Bytes) :
    Except Fault (Number × Bytes) :=
  let ds := t.takeWhile isDigit
  let rest := t.dropWhile isDigit
  if ds = [] then
    if t = [] then malformed .endInValue t else malformedAt .invalidNumber t
  else
    let (s, left) := gather significand ds
    let e := e - (ds.length - left.length : Nat)
    afterDigits negative s e rest (ofParts negative s e rest)

def ofInteger (negative : Bool) (n : Nat) : Number :=
  if !negative then .nonneg n
  else if n = 0 ∨ Nat.pow 2 63 < n then .float (-(Float.ofNat n))
  else .negative n

def unsigned (negative : Bool) (t : Bytes) : Except Fault (Number × Bytes) :=
  let ds := t.takeWhile isDigit
  let rest := t.dropWhile isDigit
  match ds with
  | [] => if t = [] then malformed .endInValue t else malformedAt .invalidNumber t
  | 0x30 :: d :: more => malformedAt .invalidNumber (d :: more ++ rest)
  | _ =>
    let (s, left) := gather 0 ds
    match rest with
    | 0x2e :: more => fraction negative s left.length more
    | _ =>
      let whole := if left = [] then .ok (ofInteger negative s, rest)
        else ofParts negative s left.length rest
      afterDigits negative s left.length rest whole

def read : Reader Number
  | 0x2d :: rest => unsigned true rest
  | t => unsigned false t

def text : Number → Text
  | .nonneg n => Decimal.text n
  | .negative n => '-' :: Decimal.text n
  | .float x => Shortest.text x

def describe : Number → String
  | .float x => s!"floating point `{String.ofList (text (.float x))}`"
  | n => s!"integer `{String.ofList n.text}`"

def skip (t : Bytes) : Except Fault Bytes :=
  let t := match t with
    | 0x2d :: rest => rest
    | _ => t
  let ds := t.takeWhile isDigit
  match ds with
  | [] => malformedAt .invalidNumber t
  | 0x30 :: _ :: _ => malformedAt .invalidNumber (t.drop 1)
  | _ => skipFraction (t.dropWhile isDigit)
where
  /-- Passes over a fraction and an exponent, if they follow. -/
  skipFraction : Bytes → Except Fault Bytes
    | 0x2e :: rest =>
      if rest.takeWhile isDigit = [] then malformedAt .invalidNumber rest
      else skipExponent (rest.dropWhile isDigit)
    | t => skipExponent t
  skipExponent : Bytes → Except Fault Bytes
    | 0x65 :: rest => skipPower rest
    | 0x45 :: rest => skipPower rest
    | t => .ok t
  skipPower (t : Bytes) : Except Fault Bytes :=
    let ds := match t with
      | 0x2b :: rest => rest
      | 0x2d :: rest => rest
      | _ => t
    if ds.takeWhile isDigit = [] then malformedAt .invalidNumber ds
    else .ok (ds.dropWhile isDigit)

end Number
end MediaPerimeter.Json
