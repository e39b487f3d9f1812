import MediaPerimeter.Text.Hex
import MediaPerimeter.Text.Utf8

/-!
# Percent escapes

A byte written as `%` and two hexadecimal digits. Reading leaves a `%` alone that begins no escape;
writing escapes every byte outside a given set, in capital digits.
-/
namespace MediaPerimeter.Percent

private def nibble? (b : UInt8) : Option Nat :=
  if b < 0x80 then Hex.digit? (Char.ofNat b.toNat) else none

def pair? (a b : UInt8) : Option UInt8 := do
  some (.ofNat ((← nibble? a) * 16 + (← nibble? b)))

def decode : Bytes → Bytes
  | [] => []
  | 0x25 :: a :: b :: rest =>
    match pair? a b with
    | some x => x :: decode rest
    | none => 0x25 :: decode (a :: b :: rest)
  | x :: rest => x :: decode rest
termination_by bs => bs.length

/-- Every `%` begins an escape. -/
def isEscaped : Bytes → Bool
  | [] => true
  | 0x25 :: a :: b :: rest => (pair? a b).isSome && isEscaped rest
  | x :: rest => x != 0x25 && isEscaped rest

def escape (b : UInt8) : Text := ['%', Hex.capital (b.toNat / 16), Hex.capital (b.toNat % 16)]

/-- The bytes as text: those in `keep`, which must be ASCII, as they are and the others escaped. -/
def encode (keep : UInt8 → Bool) (bs : Bytes) : Text :=
  bs.flatMap fun b => if keep b then [Char.ofNat b.toNat] else escape b

def encodeText (keep : UInt8 → Bool) (t : Text) : Text := encode keep (Utf8.encode t)

def keepsPrinted (marks : String) (b : UInt8) : Bool :=
  0x20 ≤ b && b < 0x7f && !(marks.toList.any fun c => c.toNat == b.toNat)

def isAlphanum (b : UInt8) : Bool :=
  (0x30 ≤ b && b ≤ 0x39) || (0x41 ≤ b && b ≤ 0x5a) || (0x61 ≤ b && b ≤ 0x7a)

end MediaPerimeter.Percent
