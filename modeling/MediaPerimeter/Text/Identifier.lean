import MediaPerimeter.Text.Hex

/-!
# Random identifiers

Thirty-two hexadecimal digits made of 128 random bits, of which six are set aside to mark the kind
of identifier.
-/
namespace MediaPerimeter.Identifier

def digits : (count : Nat) → Nat → Text
  | 0, _ => []
  | count + 1, n => digits count (n / 16) ++ [Hex.small (n % 16)]

/-- The thirteenth digit is a four, and the seventeenth one of `8`, `9`, `a` and `b`. -/
def ofBits (bits : BitVec 128) : Text :=
  let n := bits.toNat
  digits 12 (n >>> 80) ++ '4' :: digits 3 (n >>> 64) ++
    Hex.small (8 + n / Nat.pow 2 60 % 4) :: digits 15 n

theorem length_digits (count n : Nat) : (digits count n).length = count := by
  induction count generalizing n with
  | zero => rfl
  | succ count ih => simp [digits, ih]

theorem length_ofBits (bits : BitVec 128) : (ofBits bits).length = 32 := by
  simp [ofBits, length_digits]

theorem isDigit_of_mem_digits (count n : Nat) : ∀ c ∈ digits count n, Hex.isDigit c = true := by
  induction count generalizing n with
  | zero => exact List.forall_mem_nil _
  | succ count ih =>
    intro c hc
    rw [digits, List.mem_append, List.mem_singleton] at hc
    rcases hc with hc | rfl
    · exact ih _ c hc
    · exact Hex.isDigit_digitChar (Nat.mod_lt n (by decide))

theorem isDigit_of_mem_ofBits (bits : BitVec 128) : ∀ c ∈ ofBits bits, Hex.isDigit c = true := by
  intro c hc
  simp only [ofBits, List.mem_append, List.mem_cons] at hc
  rcases hc with (hc | rfl | hc) | rfl | hc
  case inl.inr.inl => decide
  case inr.inl => exact Hex.isDigit_digitChar (by omega)
  all_goals exact isDigit_of_mem_digits _ _ c hc

end MediaPerimeter.Identifier
