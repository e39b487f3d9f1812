import MediaPerimeter.Text.Basic

/-!
# SHA-2

The hash functions of one family over words of 32 or 64 bits. A message is padded to whole blocks of
sixteen words; each block is mixed into a state of eight words. The rounds of the narrow function
use the upper halves of the wide constants.
-/
namespace MediaPerimeter

/-- The fractional parts of the cube roots of the first eighty primes. -/
def cubeRoots : List (BitVec 64) := [
  0x428a2f98d728ae22, 0x7137449123ef65cd, 0xb5c0fbcfec4d3b2f, 0xe9b5dba58189dbbc,
  0x3956c25bf348b538, 0x59f111f1b605d019, 0x923f82a4af194f9b, 0xab1c5ed5da6d8118,
  0xd807aa98a3030242, 0x12835b0145706fbe, 0x243185be4ee4b28c, 0x550c7dc3d5ffb4e2,
  0x72be5d74f27b896f, 0x80deb1fe3b1696b1, 0x9bdc06a725c71235, 0xc19bf174cf692694,
  0xe49b69c19ef14ad2, 0xefbe4786384f25e3, 0x0fc19dc68b8cd5b5, 0x240ca1cc77ac9c65,
  0x2de92c6f592b0275, 0x4a7484aa6ea6e483, 0x5cb0a9dcbd41fbd4, 0x76f988da831153b5,
  0x983e5152ee66dfab, 0xa831c66d2db43210, 0xb00327c898fb213f, 0xbf597fc7beef0ee4,
  0xc6e00bf33da88fc2, 0xd5a79147930aa725, 0x06ca6351e003826f, 0x142929670a0e6e70,
  0x27b70a8546d22ffc, 0x2e1b21385c26c926, 0x4d2c6dfc5ac42aed, 0x53380d139d95b3df,
  0x650a73548baf63de, 0x766a0abb3c77b2a8, 0x81c2c92e47edaee6, 0x92722c851482353b,
  0xa2bfe8a14cf10364, 0xa81a664bbc423001, 0xc24b8b70d0f89791, 0xc76c51a30654be30,
  0xd192e819d6ef5218, 0xd69906245565a910, 0xf40e35855771202a, 0x106aa07032bbd1b8,
  0x19a4c116b8d2d0c8, 0x1e376c085141ab53, 0x2748774cdf8eeb99, 0x34b0bcb5e19b48a8,
  0x391c0cb3c5c95a63, 0x4ed8aa4ae3418acb, 0x5b9cca4f7763e373, 0x682e6ff3d6b2b8a3,
  0x748f82ee5defb2fc, 0x78a5636f43172f60, 0x84c87814a1f0ab72, 0x8cc702081a6439ec,
  0x90befffa23631e28, 0xa4506cebde82bde9, 0xbef9a3f7b2c67915, 0xc67178f2e372532b,
  0xca273eceea26619c, 0xd186b8c721c0c207, 0xeada7dd6cde0eb1e, 0xf57d4f7fee6ed178,
  0x06f067aa72176fba, 0x0a637dc5a2c898a6, 0x113f9804bef90dae, 0x1b710b35131c471b,
  0x28db77f523047d84, 0x32caab7b40c72493, 0x3c9ebe0a15c9bebc, 0x431d67c49c100d4c,
  0x4cc5d4becb3e42b6, 0x597f299cfc657e2a, 0x5fcb6fab3ad6faec, 0x6c44198c4a475817]

/-- The fractional parts of the square roots of the first sixteen primes. -/
def squareRoots : List (BitVec 64) := [
  0x6a09e667f3bcc908, 0xbb67ae8584caa73b, 0x3c6ef372fe94f82b, 0xa54ff53a5f1d36f1,
  0x510e527fade682d1, 0x9b05688c2b3e6c1f, 0x1f83d9abfb41bd6b, 0x5be0cd19137e2179,
  0xcbbb9d5dc1059ed8, 0x629a292a367cd507, 0x9159015a3070dd17, 0x152fecd8f70e5939,
  0x67332667ffc00b31, 0x8eb44a8768581511, 0xdb0c2e0d64f98fa7, 0x47b5481dbefa4fa4]

structure Sha2 (w : Nat) where
  constants : List (BitVec w)
  start : List (BitVec w)
  /-- Three distances to rotate by. -/
  sumA : Nat × Nat × Nat
  sumE : Nat × Nat × Nat
  /-- Two distances to rotate and one to shift by. -/
  scheduleLow : Nat × Nat × Nat
  scheduleHigh : Nat × Nat × Nat
  size : Nat

def upperHalf (x : BitVec 64) : BitVec 32 := (x >>> 32).truncate 32

def sha256 : Sha2 32 where
  constants := (cubeRoots.take 64).map upperHalf
  start := (squareRoots.take 8).map upperHalf
  sumA := (2, 13, 22)
  sumE := (6, 11, 25)
  scheduleLow := (7, 18, 3)
  scheduleHigh := (17, 19, 10)
  size := 32

def sha512 : Sha2 64 where
  constants := cubeRoots
  start := squareRoots.take 8
  sumA := (28, 34, 39)
  sumE := (14, 18, 41)
  scheduleLow := (1, 8, 7)
  scheduleHigh := (19, 61, 6)
  size := 64

/-- The wide function from another start, cut to 48 bytes. -/
def sha384 : Sha2 64 := { sha512 with start := squareRoots.drop 8, size := 48 }

namespace Sha2

variable {w : Nat}

def bigEndian : (count : Nat) → Nat → Bytes
  | 0, _ => []
  | count + 1, n => bigEndian count (n / 256) ++ [.ofNat n]

def ofBigEndian (bs : Bytes) : Nat := bs.foldl (fun n b => n * 256 + b.toNat) 0

def blockBytes (w : Nat) : Nat := 2 * w

/-- A one bit, zeros up to the end of a block, and in its last two words the length in bits. -/
def padding (w length : Nat) : Bytes :=
  let block := blockBytes w
  let tail := w / 4
  0x80 :: List.replicate ((2 * block - (length + 1 + tail) % block) % block) 0 ++
    bigEndian tail (8 * length)

def words (w : Nat) : (count : Nat) → Bytes → List (BitVec w)
  | 0, _ => []
  | count + 1, bs => .ofNat w (ofBigEndian (bs.take (w / 8))) :: words w count (bs.drop (w / 8))

def rotations (d : Nat × Nat × Nat) (x : BitVec w) : BitVec w :=
  x.rotateRight d.1 ^^^ x.rotateRight d.2.1 ^^^ x.rotateRight d.2.2

def rotationsAndShift (d : Nat × Nat × Nat) (x : BitVec w) : BitVec w :=
  x.rotateRight d.1 ^^^ x.rotateRight d.2.1 ^^^ x >>> d.2.2

structure State (w : Nat) where
  a : BitVec w
  b : BitVec w
  c : BitVec w
  d : BitVec w
  e : BitVec w
  f : BitVec w
  g : BitVec w
  h : BitVec w

def State.ofList (ws : List (BitVec w)) : State w :=
  let word := fun i => ws.getD i 0
  ⟨word 0, word 1, word 2, word 3, word 4, word 5, word 6, word 7⟩

def State.toList (s : State w) : List (BitVec w) := [s.a, s.b, s.c, s.d, s.e, s.f, s.g, s.h]

def State.add (s t : State w) : State w :=
  ⟨s.a + t.a, s.b + t.b, s.c + t.c, s.d + t.d, s.e + t.e, s.f + t.f, s.g + t.g, s.h + t.h⟩

def round (v : Sha2 w) (s : State w) (word constant : BitVec w) : State w :=
  let choice := (s.e &&& s.f) ^^^ (~~~s.e &&& s.g)
  let majority := (s.a &&& s.b) ^^^ (s.a &&& s.c) ^^^ (s.b &&& s.c)
  let t₁ := s.h + rotations v.sumE s.e + choice + constant + word
  let t₂ := rotations v.sumA s.a + majority
  ⟨t₁ + t₂, s.a, s.b, s.c, s.d + t₁, s.e, s.f, s.g⟩

def nextWord (v : Sha2 w) (window : List (BitVec w)) : BitVec w :=
  let word := fun i => window.getD i 0
  rotationsAndShift v.scheduleHigh (word 14) + word 9 +
    rotationsAndShift v.scheduleLow (word 1) + word 0

/-- The rounds for the constants left; `window` holds the next sixteen words of the schedule. -/
def rounds (v : Sha2 w) : State w → (window : List (BitVec w)) → List (BitVec w) → State w
  | s, _, [] => s
  | s, window, k :: ks =>
    rounds v (round v s (window.getD 0 0) k) (window.drop 1 ++ [nextWord v window]) ks

def compress (v : Sha2 w) (s : State w) (block : Bytes) : State w :=
  s.add (rounds v s (words w 16 block) v.constants)

def blocks (v : Sha2 w) : (count : Nat) → State w → Bytes → State w
  | 0, s, _ => s
  | count + 1, s, bs =>
    blocks v count (compress v s (bs.take (blockBytes w))) (bs.drop (blockBytes w))

def hash (v : Sha2 w) (message : Bytes) : Bytes :=
  let padded := message ++ padding w message.length
  let last := blocks v (padded.length / blockBytes w) (.ofList v.start) padded
  (last.toList.flatMap fun x => bigEndian (w / 8) x.toNat).take v.size

end Sha2
end MediaPerimeter
