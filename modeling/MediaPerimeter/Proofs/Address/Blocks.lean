import MediaPerimeter.Proofs.Address.Shown

/-!
# Blocks of addresses

A block is the addresses of one version that begin with the same bits. Each class that must not be
dialed is a list of blocks, and the class of an address is the first whose blocks it lies in. A
version 6 address that begins with the 96 bits of `::ffff:0:0` lies where the version 4 address in
its last 32 bits does.
-/
namespace MediaPerimeter

/-- The addresses whose leading bits are those of `base`. -/
structure Block where
  base : Address
  bits : Nat

def Block.contains (b : Block) (a : Address) : Bool :=
  match b.base, a with
  | .v4 base, .v4 ip => ip.number >>> (32 - b.bits) == base.number >>> (32 - b.bits)
  | .v6 base, .v6 ip => ip.number >>> (128 - b.bits) == base.number >>> (128 - b.bits)
  | _, _ => false

namespace Reach

def blocks : Reach → List Block
  | unspecified => [⟨.v4 ⟨0, 0, 0, 0⟩, 32⟩, ⟨.v6 ⟨0, 0, 0, 0, 0, 0, 0, 0⟩, 128⟩]
  | loopback => [⟨.v4 ⟨127, 0, 0, 0⟩, 8⟩, ⟨.v6 ⟨0, 0, 0, 0, 0, 0, 0, 1⟩, 128⟩]
  | privateNet => [⟨.v4 ⟨10, 0, 0, 0⟩, 8⟩, ⟨.v4 ⟨172, 16, 0, 0⟩, 12⟩, ⟨.v4 ⟨192, 168, 0, 0⟩, 16⟩,
      ⟨.v6 ⟨0xfc00, 0, 0, 0, 0, 0, 0, 0⟩, 7⟩]
  | linkLocal => [⟨.v4 ⟨169, 254, 0, 0⟩, 16⟩, ⟨.v6 ⟨0xfe80, 0, 0, 0, 0, 0, 0, 0⟩, 10⟩]
  | publicNet | unparseable => []

def covers (r : Reach) (a : Address) : Bool := r.blocks.any (·.contains a)

/-- The first class whose blocks the address lies in; outside of all blocks it is public. -/
def ofBlocks (a : Address) : Reach :=
  ([unspecified, loopback, privateNet, linkLocal].find? (·.covers a)).getD publicNet

end Reach

def Address.unmapped : Address → Address
  | .v4 ip => .v4 ip
  | .v6 ip => if ip.number >>> 32 = 0xffff then .v4 (.ofNumber ip.number) else .v6 ip

open Reach

theorem Reach.ofBlocks_eq (a : Address) : ofBlocks a =
    if covers unspecified a then unspecified else if covers loopback a then loopback
    else if covers privateNet a then privateNet else if covers linkLocal a then linkLocal
    else publicNet := by
  simp only [ofBlocks, List.find?_cons, List.find?_nil]
  cases covers unspecified a <;> cases covers loopback a <;> cases covers privateNet a <;>
    cases covers linkLocal a <;> rfl

namespace IPv4

theorem reach_eq_ofBlocks (ip : IPv4) : ip.reach = ofBlocks (.v4 ip) := by
  have hb := ip.b.toNat_lt
  have hc := ip.c.toNat_lt
  have hd := ip.d.toNat_lt
  have hcovers :
      ((ip.a = 0 ∧ ip.b = 0 ∧ ip.c = 0 ∧ ip.d = 0) ↔ covers unspecified (.v4 ip) = true) ∧
      (ip.a = 127 ↔ covers loopback (.v4 ip) = true) ∧
      ((ip.a = 10 ∨ (ip.a = 172 ∧ 16 ≤ ip.b ∧ ip.b ≤ 31) ∨ (ip.a = 192 ∧ ip.b = 168)) ↔
        covers privateNet (.v4 ip) = true) ∧
      ((ip.a = 169 ∧ ip.b = 254) ↔ covers linkLocal (.v4 ip) = true) := by
    simp only [covers, blocks, List.any_cons, List.any_nil, Block.contains, number,
      ← UInt8.toNat_inj, UInt8.le_iff_toNat_le, UInt8.reduceToNat, Nat.shiftRight_eq_div_pow,
      Bool.or_false, Bool.or_eq_true, beq_iff_eq]
    refine ⟨?_, ?_, ?_, ?_⟩ <;> omega
  obtain ⟨hunspecified, hloopback, hprivate, hlinkLocal⟩ := hcovers
  rw [ofBlocks_eq, reach]
  exact if_congr hunspecified rfl <| if_congr hloopback rfl <| if_congr hprivate rfl <|
    if_congr hlinkLocal rfl rfl

end IPv4

namespace IPv6

/-- What a mask of ones in front of zeros leaves of a number is its leading bits. -/
theorem and_mask {n mask k m : Nat} (hmask : mask = (2 ^ m - 1) <<< k) (hn : n < 2 ^ (m + k)) :
    n &&& mask = n / 2 ^ k * 2 ^ k := by
  have hshift : n &&& ((2 ^ m - 1) <<< k) = ((n >>> k) &&& (2 ^ m - 1)) <<< k := by
    refine Nat.eq_of_testBit_eq fun i => ?_
    simp only [Nat.testBit_and, Nat.testBit_shiftLeft, Nat.testBit_shiftRight]
    by_cases hi : k ≤ i
    · have hsum : k + (i - k) = i := by omega
      simp [hi, hsum]
    · simp [hi]
  have hlt : n / 2 ^ k < 2 ^ m :=
    Nat.div_lt_of_lt_mul (by rwa [← Nat.pow_add, Nat.add_comm])
  rw [hmask, hshift, Nat.and_two_pow_sub_one_eq_mod, Nat.shiftRight_eq_div_pow,
    Nat.mod_eq_of_lt hlt, Nat.shiftLeft_eq]

theorem toNat_lt (ip : IPv6) : ip.g₁.toNat < 65536 ∧ ip.g₂.toNat < 65536 ∧ ip.g₃.toNat < 65536 ∧
    ip.g₄.toNat < 65536 ∧ ip.g₅.toNat < 65536 ∧ ip.g₆.toNat < 65536 ∧ ip.g₇.toNat < 65536 :=
  ⟨ip.g₁.toNat_lt, ip.g₂.toNat_lt, ip.g₃.toNat_lt, ip.g₄.toNat_lt, ip.g₅.toNat_lt, ip.g₆.toNat_lt,
    ip.g₇.toNat_lt⟩

theorem number_eq (ip : IPv6) : ip.number =
    ((((((ip.g₀.toNat * 65536 + ip.g₁.toNat) * 65536 + ip.g₂.toNat) * 65536 + ip.g₃.toNat) * 65536 +
      ip.g₄.toNat) * 65536 + ip.g₅.toNat) * 65536 + ip.g₆.toNat) * 65536 + ip.g₇.toNat := by
  simp only [number, groups, List.foldl_cons, List.foldl_nil, Nat.zero_mul, Nat.zero_add]

theorem leading_eq (ip : IPv6) : ip.number / 2 ^ 112 = ip.g₀.toNat := by
  obtain ⟨h₁, h₂, h₃, h₄, h₅, h₆, h₇⟩ := toNat_lt ip
  rw [number_eq]
  omega

/-- Addresses with the same number are the same. -/
theorem number_injective {ip ip' : IPv6} (h : ip.number = ip'.number) : ip = ip' := by
  have hlast {front front' : Nat} {g g' : UInt16}
      (h : front * 65536 + g.toNat = front' * 65536 + g'.toNat) : front = front' ∧ g = g' := by
    have hlt := g.toNat_lt
    have hlt' := g'.toNat_lt
    exact ⟨by omega, UInt16.toNat_inj.mp (by omega)⟩
  rw [number_eq, number_eq] at h
  obtain ⟨h, h₇⟩ := hlast h
  obtain ⟨h, h₆⟩ := hlast h
  obtain ⟨h, h₅⟩ := hlast h
  obtain ⟨h, h₄⟩ := hlast h
  obtain ⟨h, h₃⟩ := hlast h
  obtain ⟨h, h₂⟩ := hlast h
  obtain ⟨h, h₁⟩ := hlast h
  have h₀ := UInt16.toNat_inj.mp h
  cases ip
  cases ip'
  rw [mk.injEq]
  exact ⟨h₀, h₁, h₂, h₃, h₄, h₅, h₆, h₇⟩

/-- A block of all bits is one address. -/
theorem contains_whole {base ip : IPv6} :
    (⟨.v6 base, 128⟩ : Block).contains (.v6 ip) = true ↔ ip = base := by
  simp only [Block.contains, Nat.sub_self, Nat.shiftRight_zero, beq_iff_eq]
  exact ⟨number_injective, congrArg number⟩

/-- A block of few bits depends on the first group only. -/
theorem contains_leading {base ip : IPv6} {bits : Nat} (h : bits ≤ 16) :
    (⟨.v6 base, bits⟩ : Block).contains (.v6 ip) = true ↔
      ip.g₀.toNat / 2 ^ (16 - bits) = base.g₀.toNat / 2 ^ (16 - bits) := by
  have hshift (ip : IPv6) : ip.number >>> (128 - bits) = ip.g₀.toNat / 2 ^ (16 - bits) := by
    have hsum : 128 - bits = 112 + (16 - bits) := by omega
    rw [Nat.shiftRight_eq_div_pow, hsum, Nat.pow_add, ← Nat.div_div_eq_div_mul, leading_eq]
  simp only [Block.contains, hshift, beq_iff_eq]

/-- The first group under a mask of ones in front of zeros is compared by its leading bits. -/
theorem masked_iff_contains (base : IPv6) {ip : IPv6} {bits : Nat} {mask : UInt16}
    (h : bits ≤ 16) (hmask : mask.toNat = (2 ^ bits - 1) <<< (16 - bits))
    (hbase : base.g₀ &&& mask = base.g₀) :
    ip.g₀ &&& mask = base.g₀ ↔ (⟨.v6 base, bits⟩ : Block).contains (.v6 ip) = true := by
  have hand (g : UInt16) : (g &&& mask).toNat = g.toNat / 2 ^ (16 - bits) * 2 ^ (16 - bits) := by
    rw [UInt16.toNat_and]
    apply and_mask hmask
    rw [Nat.add_sub_cancel' h]
    exact g.toNat_lt
  have hmasked : ip.g₀ &&& mask = base.g₀ ↔ ip.g₀ &&& mask = base.g₀ &&& mask := by rw [hbase]
  rw [hmasked, contains_leading h, ← UInt16.toNat_inj, hand, hand]
  exact Nat.mul_left_inj (Nat.two_pow_pos _).ne'

theorem ownReach_eq_ofBlocks (ip : IPv6) : ip.ownReach = ofBlocks (.v6 ip) := by
  have hcontains (base : IPv4) (bits : Nat) :
      (⟨.v4 base, bits⟩ : Block).contains (.v6 ip) = false := rfl
  have hunspecified : ip = ⟨0, 0, 0, 0, 0, 0, 0, 0⟩ ↔ covers unspecified (.v6 ip) = true := by
    simp only [covers, blocks, List.any_cons, List.any_nil, hcontains, Bool.false_or, Bool.or_false,
      contains_whole]
  have hloopback : ip = ⟨0, 0, 0, 0, 0, 0, 0, 1⟩ ↔ covers loopback (.v6 ip) = true := by
    simp only [covers, blocks, List.any_cons, List.any_nil, hcontains, Bool.false_or, Bool.or_false,
      contains_whole]
  have hprivate : ip.g₀ &&& 0xfe00 = 0xfc00 ↔ covers privateNet (.v6 ip) = true := by
    simp only [covers, blocks, List.any_cons, List.any_nil, hcontains, Bool.false_or, Bool.or_false]
    exact masked_iff_contains ⟨0xfc00, 0, 0, 0, 0, 0, 0, 0⟩ (show 7 ≤ 16 by decide) rfl rfl
  have hlinkLocal : ip.g₀ &&& 0xffc0 = 0xfe80 ↔ covers linkLocal (.v6 ip) = true := by
    simp only [covers, blocks, List.any_cons, List.any_nil, hcontains, Bool.false_or, Bool.or_false]
    exact masked_iff_contains ⟨0xfe80, 0, 0, 0, 0, 0, 0, 0⟩ (show 10 ≤ 16 by decide) rfl rfl
  rw [ofBlocks_eq, ownReach]
  exact if_congr hunspecified rfl <| if_congr hloopback rfl <| if_congr hprivate rfl <|
    if_congr hlinkLocal rfl rfl

/-- The version 4 address that is carried stands in the last 32 bits, behind those of `::ffff`. -/
theorem mapped?_eq (ip : IPv6) : ip.mapped? =
    if ip.number >>> 32 = 0xffff then some (.ofNumber ip.number) else none := by
  obtain ⟨h₁, h₂, h₃, h₄, h₅, h₆, h₇⟩ := toNat_lt ip
  have hnumber := number_eq ip
  have hpow : Nat.pow 256 3 = 16777216 ∧ Nat.pow 256 2 = 65536 := ⟨rfl, rfl⟩
  unfold mapped?
  refine if_congr ?_ ?_ rfl
  · simp only [← UInt16.toNat_inj, UInt16.reduceToNat, Nat.shiftRight_eq_div_pow]
    omega
  · simp only [IPv4.ofNumber, Option.some.injEq, IPv4.mk.injEq, ← UInt8.toNat_inj,
      UInt8.toNat_ofNat', hpow]
    refine ⟨?_, ?_, ?_, ?_⟩ <;> omega

end IPv6

theorem Address.reach_eq_ofBlocks (a : Address) : a.reach = ofBlocks a.unmapped := by
  cases a with
  | v4 ip => exact ip.reach_eq_ofBlocks
  | v6 ip =>
    rw [Address.reach, Address.unmapped, IPv6.mapped?_eq]
    by_cases hmapped : ip.number >>> 32 = 0xffff
    · rw [if_pos hmapped, if_pos hmapped]
      exact IPv4.reach_eq_ofBlocks _
    · rw [if_neg hmapped, if_neg hmapped]
      exact ip.ownReach_eq_ofBlocks

/-- A text is judged by the literal in it: without one it has no class, and otherwise that of the
first block around the address. It is safe if it shows an address outside of all blocks. -/
theorem Reach.ofText_blocks (t : Text) :
    (ofText t = unparseable ↔ ∀ a, ¬ Address.Shows t a) ∧
    (∀ a, Address.Shows t a → ofText t = ofBlocks a.unmapped) ∧
    (isSafe t = true ↔ ∃ a, Address.Shows t a ∧ ofBlocks a.unmapped = publicNet) := by
  have hshown {a : Address} (h : Address.Shows t a) : ofText t = ofBlocks a.unmapped := by
    rw [h.ofText, Address.reach_eq_ofBlocks]
  refine ⟨Address.ofText_eq_unparseable_iff, fun a ha => hshown ha, ?_⟩
  rw [isSafe, beq_iff_eq]
  constructor
  · intro h
    have hsome : ¬ ∀ a, ¬ Address.Shows t a := fun hnone => by
      rw [Address.ofText_eq_unparseable_iff.mpr hnone] at h
      cases h
    obtain ⟨a, ha⟩ := not_forall_not.mp hsome
    exact ⟨a, ha, (hshown ha).symm.trans h⟩
  · rintro ⟨a, ha, hpublic⟩
    rw [hshown ha, hpublic]

/-- A private address of version 4 inside one of version 6, in capitals and brackets. -/
theorem Reach.ofText_blocks_of_mapped :
    ofText "\t[::FFFF:172.31.0.9]\u3000".toList = privateNet ∧
      isSafe "\t[::FFFF:172.31.0.9]\u3000".toList = false := by
  have hshows : Address.Shows "\t[::FFFF:172.31.0.9]\u3000".toList
      (.v6 ⟨0, 0, 0, 0, 0, 0xffff, 0xac1f, 9⟩) := Address.shows_iff.mpr (by decide +kernel)
  have hprivate := (ofText_blocks _).2.1 _ hshows
  have hblock : ofBlocks (Address.v6 ⟨0, 0, 0, 0, 0, 0xffff, 0xac1f, 9⟩).unmapped = privateNet := by
    decide +kernel
  rw [hblock] at hprivate
  refine ⟨hprivate, ?_⟩
  rw [isSafe, hprivate]
  rfl

end MediaPerimeter
