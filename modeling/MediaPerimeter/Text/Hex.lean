import MediaPerimeter.Text.Basic

/-!
# Hexadecimal digits

Reading digits of either case, writing them in small or capital letters.
-/
namespace MediaPerimeter.Hex

def digit? (c : Char) : Option Nat :=
  if c.isDigit then some (c.toNat - '0'.toNat)
  else if 'a' ≤ c ∧ c ≤ 'f' then some (c.toNat - 'a'.toNat + 10)
  else if 'A' ≤ c ∧ c ≤ 'F' then some (c.toNat - 'A'.toNat + 10)
  else none

def isDigit (c : Char) : Bool := (digit? c).isSome

/-- The number that a run of hexadecimal digits stands for; other characters count as zero. -/
def value (ds : Text) : Nat := ds.foldl (fun n d => 16 * n + (digit? d).getD 0) 0

def small (n : Nat) : Char := Nat.digitChar n

def capital (n : Nat) : Char := (Nat.digitChar n).toUpper

theorem digit?_digitChar : ∀ i : Fin 16, digit? (Nat.digitChar i.val) = some i.val := by decide

theorem isDigit_digitChar {n : Nat} (h : n < 16) : isDigit (Nat.digitChar n) = true := by
  rw [isDigit, digit?_digitChar ⟨n, h⟩]
  rfl

def text (n : Nat) : Text := Nat.toDigits 16 n

def byte (b : UInt8) : Text := [small (b.toNat / 16), small (b.toNat % 16)]

end MediaPerimeter.Hex
