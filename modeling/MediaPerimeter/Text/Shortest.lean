import MediaPerimeter.Text.Decimal

/-!
# Shortest decimal texts of binary fractions

A binary fraction of limited precision stands for all reals that round to it. Its text takes the
fewest decimal digits that lie among them, and of two such decimals the nearer one.
-/
namespace MediaPerimeter.Shortest

structure Binary where
  significand : Nat
  exponent : Int
  /-- The next smaller number is only half as far away as the next greater one. -/
  closeBelow : Bool

abbrev Ratio := Nat × Nat

def Ratio.le (x y : Ratio) : Bool := x.1 * y.2 ≤ y.1 * x.2

def Ratio.scaled (n : Nat) (e : Int) : Ratio :=
  if 0 ≤ e then (n * Nat.pow 2 e.toNat, 1) else (n, Nat.pow 2 (-e).toNat)

def Ratio.decimal (n : Nat) (e : Int) : Ratio :=
  if 0 ≤ e then (n * Nat.pow 10 e.toNat, 1) else (n, Nat.pow 10 (-e).toNat)

namespace Binary

def value (b : Binary) : Ratio := .scaled b.significand b.exponent

/-- A number rounds to `b` if it lies between the middles to both neighbours; the middles themselves
round to an even significand. -/
def covers (b : Binary) (x : Ratio) : Bool :=
  let low := Ratio.scaled (4 * b.significand - if b.closeBelow then 1 else 2) (b.exponent - 2)
  let high := Ratio.scaled (4 * b.significand + 2) (b.exponent - 2)
  if b.significand % 2 = 0 then low.le x && x.le high else !x.le low && !high.le x

def magnitude (b : Binary) : Int :=
  let candidates := (List.range 640).map fun (i : Nat) => 310 - (i : Int)
  (candidates.find? fun e => (Ratio.decimal 1 e).le b.value).getD 0

def neighbours (b : Binary) (step : Int) : Nat × Nat :=
  let v := b.value
  let unit := Ratio.decimal 1 step
  let below := v.1 * unit.2 / (v.2 * unit.1)
  (below, below + 1)

/-- The nearer one of the neighbours that round to `b`. -/
def onGrid? (b : Binary) (step : Int) : Option Nat :=
  let (below, above) := b.neighbours step
  let hit := fun n => b.covers (.decimal n step)
  match hit below, hit above with
  | true, true =>
    let v := b.value
    let middle := Ratio.decimal (below * 10 + 5) (step - 1)
    if v.le middle && !(middle.le v && below % 2 == 1) then some below else some above
  | true, false => some below
  | false, true => some above
  | false, false => none

def digits (b : Binary) : Nat × Int :=
  let top := b.magnitude
  let found := (List.range 18).findSome? fun (i : Nat) =>
    (b.onGrid? (top - i)).map fun n => (n, top - i)
  found.getD (0, 0)

end Binary

def stripZeros (ds : Text) (e : Int) : Text × Int :=
  let kept := (ds.reverse.dropWhile (· == '0')).reverse
  (kept, e + (ds.length - kept.length : Nat))

/-- Positional between `1e-5` and `1e16`, with a digit on both sides of the point; outside, one
digit, the others after a point, and an exponent. -/
def layout (ds : Text) (e : Int) : Text :=
  let point : Int := ds.length + e
  if 0 ≤ e ∧ point ≤ 16 then ds ++ List.replicate e.toNat '0' ++ ['.', '0']
  else if 0 < point ∧ point ≤ 16 then ds.take point.toNat ++ '.' :: ds.drop point.toNat
  else if -5 < point ∧ point ≤ 0 then
    '0' :: '.' :: List.replicate (-point).toNat '0' ++ ds
  else
    let exponent := 'e' :: Decimal.intText (point - 1)
    if ds.length ≤ 1 then ds ++ exponent else ds.take 1 ++ '.' :: ds.drop 1 ++ exponent

def Binary.text (b : Binary) : Text :=
  let (n, e) := b.digits
  let (ds, e) := stripZeros (Decimal.text n) e
  layout ds e

def ofBits (bits : Nat) : Binary :=
  let field : Nat := bits / Nat.pow 2 52 % Nat.pow 2 11
  let fraction : Nat := bits % Nat.pow 2 52
  if field = 0 then ⟨fraction, -1074, false⟩
  else ⟨Nat.pow 2 52 + fraction, (field : Int) - 1075, fraction == 0 && 1 < field⟩

def text (x : Float) : Text :=
  let bits := x.toBits.toNat
  let magnitude := if bits % Nat.pow 2 63 = 0 then "0.0".toList else (ofBits bits).text
  if Nat.pow 2 63 ≤ bits then '-' :: magnitude else magnitude

end MediaPerimeter.Shortest
