import MediaPerimeter.Text.Basic

/-!
# Decimal numbers as text

Writing a number, and reading one within bounds. A leading `+` is read as nothing and leading
zeros are allowed; blanks, separators and an empty text are refused.
-/
namespace MediaPerimeter.Decimal

def value (ds : Text) : Nat := ds.foldl (fun n d => 10 * n + (d.toNat - '0'.toNat)) 0

def text (n : Nat) : Text := Nat.toDigits 10 n

def intText : Int → Text
  | .ofNat n => text n
  | .negSucc n => '-' :: text (n + 1)

def readDigits? (t : Text) : Option Nat :=
  if t ≠ [] ∧ t.all Char.isDigit then some (value t) else none

def readUpTo? (max : Nat) (t : Text) : Option Nat := do
  let n ← readDigits? (match t with | '+' :: rest => rest | _ => t)
  if n ≤ max then some n else none

def readBetween? (lo hi : Int) (t : Text) : Option Int := do
  let n ← match t with
    | '-' :: rest => (readDigits? rest).map fun n => -(n : Int)
    | '+' :: rest => (readDigits? rest).map fun n => (n : Int)
    | _ => (readDigits? t).map fun n => (n : Int)
  if lo ≤ n ∧ n ≤ hi then some n else none

theorem value_append_singleton (ds : Text) (d : Char) :
    value (ds ++ [d]) = 10 * value ds + (d.toNat - '0'.toNat) := by
  simp [value]

end MediaPerimeter.Decimal
