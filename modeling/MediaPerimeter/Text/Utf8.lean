import MediaPerimeter.Text.Basic

/-!
# UTF-8

Writing text as bytes and reading it back. Bytes that are not UTF-8 are taken apart into the longest
beginnings of a character that they show, so that a lenient reader can put one replacement character
in the place of each.
-/
namespace MediaPerimeter.Utf8

def encode (t : Text) : Bytes := t.flatMap String.utf8EncodeChar

def within (lo hi b : UInt8) : Bool := lo ≤ b && b ≤ hi

def isTail (b : UInt8) : Bool := within 0x80 0xbf b

def second₃ (a b : UInt8) : Bool :=
  if a = 0xe0 then within 0xa0 0xbf b else if a = 0xed then within 0x80 0x9f b else isTail b

def second₄ (a b : UInt8) : Bool :=
  if a = 0xf0 then within 0x90 0xbf b else if a = 0xf4 then within 0x80 0x8f b else isTail b

def bits (mask : Nat) (b : UInt8) : Nat := b.toNat % mask

/-- The characters in order, with `none` for each beginning of a character that is not completed. -/
def pieces : Bytes → List (Option Char)
  | [] => []
  | a :: r₁ =>
    if a < 0x80 then some (Char.ofNat a.toNat) :: pieces r₁
    else if within 0xc2 0xdf a then
      match r₁ with
      | [] => [none]
      | b :: r₂ =>
        if isTail b then some (Char.ofNat (bits 32 a * 64 + bits 64 b)) :: pieces r₂
        else none :: pieces (b :: r₂)
    else if within 0xe0 0xef a then
      match r₁ with
      | [] => [none]
      | b :: r₂ =>
        if second₃ a b then
          match r₂ with
          | [] => [none]
          | c :: r₃ =>
            if isTail c then
              some (Char.ofNat ((bits 16 a * 64 + bits 64 b) * 64 + bits 64 c)) :: pieces r₃
            else none :: pieces (c :: r₃)
        else none :: pieces (b :: r₂)
    else if within 0xf0 0xf4 a then
      match r₁ with
      | [] => [none]
      | b :: r₂ =>
        if second₄ a b then
          match r₂ with
          | [] => [none]
          | c :: r₃ =>
            if isTail c then
              match r₃ with
              | [] => [none]
              | d :: r₄ =>
                if isTail d then
                  some (Char.ofNat
                    (((bits 8 a * 64 + bits 64 b) * 64 + bits 64 c) * 64 + bits 64 d)) :: pieces r₄
                else none :: pieces (d :: r₄)
            else none :: pieces (c :: r₃)
        else none :: pieces (b :: r₂)
    else none :: pieces r₁
termination_by bs => bs.length

def decode? (bs : Bytes) : Option Text :=
  let ps := pieces bs
  if ps.all Option.isSome then some (ps.filterMap id) else none

def decodeLossy (bs : Bytes) : Text := (pieces bs).map fun p => p.getD '\ufffd'

end MediaPerimeter.Utf8
