import MediaPerimeter.Proofs.Address.Literal

/-!
# Addresses read back

What is written for an address is a literal of it, so it denotes that address: a version 4 address
in its four numbers, and a version 6 address in its groups, whichever run of zeros is left out of
them, or with the version 4 address that it carries at the end.
-/
namespace MediaPerimeter

namespace Hex

theorem text_of_lt {n : Nat} (h : n < 16) : text n = [Nat.digitChar n] :=
  Nat.toDigits_of_lt_base h

theorem text_of_le {n : Nat} (h : 16 ≤ n) : text n = text (n / 16) ++ [Nat.digitChar (n % 16)] :=
  Nat.toDigits_of_base_le (by decide) h

theorem isDigit_of_mem_text {n : Nat} : ∀ c ∈ text n, isDigit c = true := by
  induction n using Nat.strong_induction_on with
  | _ n ih =>
    intro c hc
    rcases Nat.lt_or_ge n 16 with hn | hn
    · rw [text_of_lt hn, List.mem_singleton] at hc
      exact hc ▸ isDigit_digitChar hn
    · rw [text_of_le hn, List.mem_append, List.mem_singleton] at hc
      rcases hc with hc | rfl
      · exact ih (n / 16) (Nat.div_lt_self (by omega) (by decide)) c hc
      · exact isDigit_digitChar (Nat.mod_lt n (by decide))

theorem value_text (n : Nat) : value (text n) = n := by
  induction n using Nat.strong_induction_on with
  | _ n ih =>
    rcases Nat.lt_or_ge n 16 with hn | hn
    · rw [text_of_lt hn, value, List.foldl_cons, digit?_digitChar ⟨n, hn⟩]
      simp
    · have hless : n / 16 < n := Nat.div_lt_self (by omega) (by decide)
      rw [text_of_le hn, value_append_singleton, ih (n / 16) hless,
        digit?_digitChar ⟨n % 16, Nat.mod_lt n (by decide)⟩]
      exact Nat.div_add_mod n 16

end Hex

namespace IPv6

theorem isGroup_text (g : UInt16) : IsGroup (Hex.text g.toNat) g where
  nonempty := Nat.toDigits_ne_nil
  short := (Nat.length_toDigits_le_iff (by decide) (by decide)).mpr g.toNat_lt
  digits := Hex.isDigit_of_mem_text
  value := Hex.value_text g.toNat

theorem isRow_joined (g : UInt16) (gs : List UInt16) :
    IsRow false (joined (g :: gs)) (g :: gs) := by
  induction gs generalizing g with
  | nil =>
    have hjoined : joined [g] = Hex.text g.toNat := by simp [joined]
    rw [hjoined]
    exact .last (isGroup_text g)
  | cons g' gs ih =>
    have hjoined : joined (g :: g' :: gs) = Hex.text g.toNat ++ ':' :: joined (g' :: gs) := by
      simp [joined, List.intercalate_cons_cons]
    rw [hjoined]
    exact .more (isGroup_text g) (ih g')

theorem isSide_joined (gs : List UInt16) : IsSide false (joined gs) gs := by
  cases gs with
  | nil => exact .nothing
  | cons g gs => exact .row (isRow_joined g gs)

theorem IsRow.point_not_mem {t : Text} {gs : List UInt16} (h : IsRow false t gs) : '.' ∉ t := by
  have hgroup {t : Text} {g : UInt16} (h : IsGroup t g) : '.' ∉ t := fun hmem =>
    absurd (h.digits '.' hmem) (by decide)
  generalize hdotted : false = dotted at h
  induction h with
  | last h => exact hgroup h
  | address => cases hdotted
  | more h _ ih => simp [hgroup h, ih hdotted]

theorem point_not_mem_joined (gs : List UInt16) : '.' ∉ joined gs := by
  cases gs with
  | nil => exact List.not_mem_nil
  | cons g gs => exact (isRow_joined g gs).point_not_mem

theorem point_not_mem_compressed (gs : List UInt16) : '.' ∉ compressed gs := by
  unfold compressed
  dsimp only
  split
  · simp [point_not_mem_joined]
  · exact point_not_mem_joined gs

/-- A run of zeros and what stands on both sides of it. -/
theorem around_zeros (gs : List UInt16) (start : Nat) :
    gs.take start ++ List.replicate (zerosAt gs start) 0 ++ gs.drop (start + zerosAt gs start) =
      gs := by
  have hzeros : (gs.drop start).takeWhile (· == 0) = List.replicate (zerosAt gs start) 0 :=
    List.eq_replicate_iff.mpr ⟨rfl, fun g hg => by simpa using List.mem_takeWhile_imp hg⟩
  have hdrop : gs.drop (start + zerosAt gs start) = (gs.drop start).dropWhile (· == 0) := by
    rw [← List.drop_drop]
    conv => lhs; rw [← List.takeWhile_append_dropWhile (p := (· == 0)) (l := gs.drop start)]
    exact List.drop_left
  rw [← hzeros, hdrop, List.append_assoc, List.takeWhile_append_dropWhile, List.take_append_drop]

theorem isLiteral_compressed (ip : IPv6) : IsLiteral (compressed ip.groups) ip := by
  have hlength : ip.groups.length = 8 := rfl
  unfold compressed
  dsimp only
  generalize longestZeros ip.groups = start
  split
  · rename_i hlong
    have hrun : zerosAt ip.groups start ≤ 8 - start := by
      refine (List.takeWhile_prefix _).length_le.trans_eq ?_
      rw [List.length_drop, hlength]
    have hfront : (ip.groups.take start).length = start := by
      rw [List.length_take, hlength]
      omega
    have hback : (ip.groups.drop (start + zerosAt ip.groups start)).length =
        8 - start - zerosAt ip.groups start := by
      rw [List.length_drop, hlength]
      omega
    have hzeros : 8 - start - (8 - start - zerosAt ip.groups start) = zerosAt ip.groups start := by
      omega
    refine .shortened (isSide_joined _) (isSide_joined _) (by omega) ?_
    rw [hfront, hback, hzeros, around_zeros]
  · exact .whole (isRow_joined ip.g₀ _)

theorem eq_of_mapped? {ip : IPv6} {inside : IPv4} (h : ip.mapped? = some inside) :
    ip = ⟨0, 0, 0, 0, 0, 0xffff, inside.high, inside.low⟩ := by
  obtain ⟨⟨h₀, h₁, h₂, h₃, h₄, h₅⟩, hinside⟩ := Option.ite_none_right_eq_some.mp h
  have hhalf (g : UInt16) : UInt16.ofNat ((UInt8.ofNat (g.toNat / 256)).toNat * 256 +
      (UInt8.ofNat g.toNat).toNat) = g := by
    have hlt := g.toNat_lt
    have hsum : (UInt8.ofNat (g.toNat / 256)).toNat * 256 + (UInt8.ofNat g.toNat).toNat =
        g.toNat := by
      rw [UInt8.toNat_ofNat', UInt8.toNat_ofNat']
      omega
    rw [hsum, UInt16.ofNat_toNat]
  obtain rfl := Option.some.inj hinside
  rw [IPv4.high, IPv4.low, hhalf, hhalf, ← h₀]
  cases ip
  simp_all

theorem isLiteral_text (ip : IPv6) : IsLiteral ip.text ip := by
  unfold text
  split
  · rename_i inside hinside
    have hffff : IsGroup "ffff".toList 0xffff := ⟨nofun, by decide, List.all_eq_true.mp rfl, rfl⟩
    refine .shortened .nothing (.row (.more hffff (.address inside))) (by simp) ?_
    rw [eq_of_mapped? hinside]
    rfl
  · exact isLiteral_compressed ip

end IPv6

namespace Address

/-- A version 4 address is read back from its text. -/
theorem ofText?_v4 (ip : IPv4) : ofText? ip.text = some (.v4 ip) :=
  ofText?_eq_some_iff.mpr (.v4 ip)

/-- A version 6 address is read back from its groups. -/
theorem ofText?_v6 (ip : IPv6) : ofText? (IPv6.compressed ip.groups) = some (.v6 ip) :=
  ofText?_eq_some_iff.mpr (.v6 (IPv6.isLiteral_compressed ip))

theorem isLiteral_text (a : Address) : IsLiteral a.text a := by
  cases a with
  | v4 ip => exact .v4 ip
  | v6 ip => exact .v6 (IPv6.isLiteral_text ip)

end Address
end MediaPerimeter
