import MediaPerimeter.Text.Decimal
import MediaPerimeter.Text.Hex

/-!
# Internet addresses

Addresses of both families and their canonical text: four decimal numbers for version 4; for version
6 groups of small hexadecimal digits in which the first of the longest runs of at least two zero
groups is written `::`. A version 6 address that carries one of version 4 keeps the dotted form.
-/
namespace MediaPerimeter

structure IPv4 where
  a : UInt8
  b : UInt8
  c : UInt8
  d : UInt8
deriving DecidableEq

structure IPv6 where
  g₀ : UInt16
  g₁ : UInt16
  g₂ : UInt16
  g₃ : UInt16
  g₄ : UInt16
  g₅ : UInt16
  g₆ : UInt16
  g₇ : UInt16
deriving DecidableEq

inductive Address where
  | v4 (ip : IPv4)
  | v6 (ip : IPv6)
deriving DecidableEq

namespace IPv4

def number (ip : IPv4) : Nat :=
  ((ip.a.toNat * 256 + ip.b.toNat) * 256 + ip.c.toNat) * 256 + ip.d.toNat

def ofNumber (n : Nat) : IPv4 :=
  ⟨.ofNat (n / Nat.pow 256 3), .ofNat (n / Nat.pow 256 2), .ofNat (n / 256), .ofNat n⟩

def text (ip : IPv4) : Text :=
  Decimal.text ip.a.toNat ++ '.' :: Decimal.text ip.b.toNat ++
    '.' :: Decimal.text ip.c.toNat ++ '.' :: Decimal.text ip.d.toNat

def high (ip : IPv4) : UInt16 := .ofNat (ip.a.toNat * 256 + ip.b.toNat)

def low (ip : IPv4) : UInt16 := .ofNat (ip.c.toNat * 256 + ip.d.toNat)

end IPv4

namespace IPv6

def groups (ip : IPv6) : List UInt16 :=
  [ip.g₀, ip.g₁, ip.g₂, ip.g₃, ip.g₄, ip.g₅, ip.g₆, ip.g₇]

def ofGroups? : List UInt16 → Option IPv6
  | [g₀, g₁, g₂, g₃, g₄, g₅, g₆, g₇] => some ⟨g₀, g₁, g₂, g₃, g₄, g₅, g₆, g₇⟩
  | _ => none

def number (ip : IPv6) : Nat := ip.groups.foldl (fun n g => n * 65536 + g.toNat) 0

/-- The version 4 address that `::ffff:0:0/96` carries. -/
def mapped? (ip : IPv6) : Option IPv4 :=
  if ip.g₀ = 0 ∧ ip.g₁ = 0 ∧ ip.g₂ = 0 ∧ ip.g₃ = 0 ∧ ip.g₄ = 0 ∧ ip.g₅ = 0xffff then
    some ⟨.ofNat (ip.g₆.toNat / 256), .ofNat ip.g₆.toNat,
      .ofNat (ip.g₇.toNat / 256), .ofNat ip.g₇.toNat⟩
  else none

def zerosAt (gs : List UInt16) (i : Nat) : Nat := ((gs.drop i).takeWhile (· == 0)).length

def longestZeros (gs : List UInt16) : Nat :=
  (List.range gs.length).foldl (fun best i => if zerosAt gs best < zerosAt gs i then i else best) 0

def joined (gs : List UInt16) : Text :=
  List.intercalate [':'] (gs.map fun g => Hex.text g.toNat)

/-- The groups with their longest run of zeros left out, if it has two groups or more. -/
def compressed (gs : List UInt16) : Text :=
  let start := longestZeros gs
  let run := zerosAt gs start
  if 1 < run then joined (gs.take start) ++ ':' :: ':' :: joined (gs.drop (start + run))
  else joined gs

def text (ip : IPv6) : Text :=
  match ip.mapped? with
  | some v4 => "::ffff:".toList ++ v4.text
  | none => compressed ip.groups

theorem ofGroups?_groups (ip : IPv6) : ofGroups? ip.groups = some ip := rfl

theorem groups_of_ofGroups? {gs : List UInt16} {ip : IPv6} (h : ofGroups? gs = some ip) :
    ip.groups = gs := by
  unfold ofGroups? at h
  split at h
  · cases h; rfl
  · cases h

end IPv6

namespace Address

def text : Address → Text
  | .v4 ip => ip.text
  | .v6 ip => ip.text

def isV6 : Address → Bool
  | .v4 _ => false
  | .v6 _ => true

end Address

structure Endpoint where
  address : Address
  port : Nat
deriving DecidableEq

def Endpoint.text (e : Endpoint) : Text :=
  match e.address with
  | .v4 ip => ip.text ++ ':' :: Decimal.text e.port
  | .v6 ip => '[' :: ip.text ++ ']' :: ':' :: Decimal.text e.port

end MediaPerimeter
