import MediaPerimeter.Address.Reader
import MediaPerimeter.Proofs.Text.Cut
import MediaPerimeter.Proofs.Text.Escape
import Mathlib.Algebra.Group.Nat.Defs
import Mathlib.Data.List.Induction

/-!
# Literals

The texts that denote an address. A version 4 address has one literal, its four numbers without
leading zeros. A version 6 address has many: a group may have zeros in front and letters of either
case, the last two groups may be a version 4 address, and one run of zero groups, wherever it is,
may be left out between two colons. The readers take the literals and nothing else.
-/
namespace MediaPerimeter

open Text (StartsAt)

theorem eq_cons_of_expect {c : Char} {t rest : Text} (h : expect c t = some rest) :
    t = c :: rest := by
  cases t with
  | nil => cases h
  | cons x t =>
    by_cases hx : x = c
    · rw [expect, if_pos hx] at h
      cases h
      rw [hx]
    · rw [expect, if_neg hx] at h
      cases h

theorem expect_self (c : Char) (t : Text) : expect c (c :: t) = some t := if_pos rfl

namespace Decimal

theorem digitChar_toNat_sub : ∀ i : Fin 10,
    Nat.digitChar ((Char.ofNat (48 + i.val)).toNat - '0'.toNat) = Char.ofNat (48 + i.val) := by
  decide

theorem digitChar_of_isDigit {c : Char} (h : c.isDigit = true) :
    Nat.digitChar (c.toNat - '0'.toNat) = c := by
  obtain ⟨hlo, hhi⟩ := Text.toNat_of_isDigit h
  have hsum : 48 + (c.toNat - 48) = c.toNat := by omega
  have hdigit := digitChar_toNat_sub ⟨c.toNat - 48, by omega⟩
  rwa [hsum, Char.ofNat_toNat] at hdigit

theorem text_append_digit {n d : Nat} (hn : 0 < n) (hd : d < 10) :
    text (10 * n + d) = text n ++ [Nat.digitChar d] := by
  have hdiv : (10 * n + d) / 10 = n := by omega
  have hmod : (10 * n + d) % 10 = d := by omega
  rw [text, Nat.toDigits_of_base_le (by decide) (by omega), hdiv, hmod]
  rfl

/-- A number is written as it was read, unless there are zeros in front of it. -/
theorem text_value {ds : Text} (hne : ds ≠ []) (hds : ∀ c ∈ ds, c.isDigit = true)
    (hzero : ds.head? = some '0' → ds.length = 1) : text (value ds) = ds := by
  induction ds using List.reverseRecOn with
  | nil => exact absurd rfl hne
  | append_singleton front d ih =>
    have hd : d.isDigit = true := hds d (by simp)
    have hlow : d.toNat - '0'.toNat < 10 := by
      have hrange := Text.toNat_of_isDigit hd
      change d.toNat - 48 < 10
      omega
    rw [value_append_singleton]
    cases front with
    | nil =>
      rw [value, List.foldl_nil, Nat.mul_zero, Nat.zero_add, text, Nat.toDigits_of_lt_base hlow,
        digitChar_of_isDigit hd, List.nil_append]
    | cons c front =>
      have hc : c ≠ '0' := by
        rintro rfl
        simpa using hzero rfl
      have hfront : text (value (c :: front)) = c :: front := by
        apply ih (List.cons_ne_nil c front)
        · intro x hx
          exact hds x (List.mem_append_left _ hx)
        · intro hhead
          exact absurd (Option.some.inj hhead) hc
      have hpositive : 0 < value (c :: front) := by
        apply Nat.pos_of_ne_zero
        intro h0
        apply hc
        rw [h0] at hfront
        exact (List.cons.inj hfront).1.symm
      rw [text_append_digit hpositive hlow, hfront, digitChar_of_isDigit hd]

end Decimal

namespace IPv4

variable {t rest : Text}

/-- No byte is written with a zero in front or with more than three digits. -/
theorem wellFormed_byte : ∀ i : Fin 256, let ds := Decimal.text i.val
    ¬ (3 < ds.length ∨ 255 < Decimal.value ds ∨ (ds.head? = some '0' ∧ 1 < ds.length)) := by
  decide +kernel

theorem octet_text (b : UInt8) (h : StartsAt (!Char.isDigit ·) rest) :
    octet (Decimal.text b.toNat ++ rest) = some (b, rest) := by
  obtain ⟨htake, hdrop⟩ := Text.takeWhile_of_startsAt (p := Char.isDigit)
    (fun c hc => Decimal.isDigit_of_mem_text hc) h
  have hform := wellFormed_byte ⟨b.toNat, UInt8.toNat_lt b⟩
  unfold octet
  rw [htake, hdrop]
  dsimp only
  rw [if_neg (not_or.mpr ⟨Decimal.text_ne_nil _, hform⟩), Decimal.value_text, UInt8.ofNat_toNat]

theorem text_of_octet {b : UInt8} (h : octet t = some (b, rest)) :
    t = Decimal.text b.toNat ++ rest := by
  dsimp only [octet] at h
  split at h
  · cases h
  · rename_i hform
    cases h
    simp only [not_or, not_and] at hform
    obtain ⟨hne, -, hvalue, hzero⟩ := hform
    have hbyte : (UInt8.ofNat (Decimal.value (t.takeWhile Char.isDigit))).toNat =
        Decimal.value (t.takeWhile Char.isDigit) := toNat_byte (by omega)
    have htext : Decimal.text (Decimal.value (t.takeWhile Char.isDigit)) =
        t.takeWhile Char.isDigit := by
      apply Decimal.text_value hne
      · intro c hc
        exact List.mem_takeWhile_imp hc
      · intro hhead
        have hsome := List.length_pos_iff.mpr hne
        have hshort := hzero hhead
        omega
    rw [hbyte, htext, List.takeWhile_append_dropWhile]

theorem startsAt_point (t : Text) : StartsAt (!Char.isDigit ·) ('.' :: t) := by
  rintro c ⟨⟩
  rfl

theorem read_text (ip : IPv4) (h : StartsAt (!Char.isDigit ·) rest) :
    read (ip.text ++ rest) = some (ip, rest) := by
  simp only [text, List.append_assoc, List.cons_append, read]
  rw [octet_text _ (startsAt_point _)]
  simp only [Option.bind_eq_bind, Option.bind_some, expect, if_true]
  rw [octet_text _ (startsAt_point _)]
  simp only [Option.bind_some, if_true]
  rw [octet_text _ (startsAt_point _)]
  simp only [Option.bind_some, if_true]
  rw [octet_text _ h]
  rfl

/-- What is read as a version 4 address is its four numbers. -/
theorem text_of_read {ip : IPv4} (h : read t = some (ip, rest)) : t = ip.text ++ rest := by
  simp only [read, Option.bind_eq_bind, Option.bind_eq_some_iff, Prod.exists] at h
  obtain ⟨a, t₁, ha, u₁, hu₁, b, t₂, hb, u₂, hu₂, c, t₃, hc, u₃, hu₃, d, t₄, hd, hip⟩ := h
  cases hip
  rw [text_of_octet ha, eq_cons_of_expect hu₁, text_of_octet hb, eq_cons_of_expect hu₂,
    text_of_octet hc, eq_cons_of_expect hu₃, text_of_octet hd]
  simp [text]

/-- No version 4 address is read where hexadecimal digits end at a colon or with the text. -/
theorem read_of_colon {ds : Text} (hds : ∀ c ∈ ds, Hex.isDigit c = true)
    (hrest : StartsAt (· == ':') rest) : read (ds ++ rest) = none := by
  by_contra hread
  obtain ⟨p, hp⟩ := Option.ne_none_iff_exists'.mp hread
  simp only [read, Option.bind_eq_bind, Option.bind_eq_some_iff, Prod.exists] at hp
  obtain ⟨a, t₁, ha, u, hu, -⟩ := hp
  have hdigits : ∀ c ∈ Decimal.text a.toNat, Hex.isDigit c = true := fun c hc => by
    simp [Hex.isDigit, Hex.digit?, Decimal.isDigit_of_mem_text hc]
  have hpoint : StartsAt (!Hex.isDigit ·) ('.' :: u) := by
    rintro c ⟨⟩
    decide
  have hcolon : StartsAt (!Hex.isDigit ·) rest := by
    apply hrest.mono
    intro c hc
    rw [beq_iff_eq.mp hc]
    decide
  have hsame := text_of_octet ha
  rw [eq_cons_of_expect hu] at hsame
  have hdrop := (Text.takeWhile_of_startsAt hds hcolon).2
  rw [hsame, (Text.takeWhile_of_startsAt hdigits hpoint).2] at hdrop
  subst hdrop
  exact absurd (hrest '.' rfl) (by decide)

end IPv4

namespace Hex

theorem value_append_singleton (ds : Text) (d : Char) :
    value (ds ++ [d]) = 16 * value ds + (digit? d).getD 0 := by
  simp [value]

theorem toNat_of_isDigit {c : Char} (h : isDigit c = true) : (48 ≤ c.toNat ∧ c.toNat ≤ 57) ∨
    (97 ≤ c.toNat ∧ c.toNat ≤ 102) ∨ (65 ≤ c.toNat ∧ c.toNat ≤ 70) := by
  unfold isDigit digit? at h
  split_ifs at h with hdigit hsmall hcapital
  · exact .inl (Text.toNat_of_isDigit hdigit)
  · exact .inr (.inl hsmall)
  · exact .inr (.inr hcapital)
  · cases h

theorem digit?_lt {c : Char} {n : Nat} (h : digit? c = some n) : n < 16 := by
  unfold digit? at h
  split_ifs at h with hdigit hsmall hcapital
  · have hrange := Text.toNat_of_isDigit hdigit
    cases h
    change c.toNat - 48 < 16
    omega
  · have hle : c.toNat ≤ 102 := hsmall.2
    cases h
    change c.toNat - 97 + 10 < 16
    omega
  · have hle : c.toNat ≤ 70 := hcapital.2
    cases h
    change c.toNat - 65 + 10 < 16
    omega

theorem value_lt (ds : Text) : value ds < 16 ^ ds.length := by
  induction ds using List.reverseRecOn with
  | nil => exact Nat.one_pos
  | append_singleton front d ih =>
    have hdigit : (digit? d).getD 0 < 16 := by
      cases hd : digit? d with
      | none => exact Nat.succ_pos 15
      | some n => exact digit?_lt hd
    rw [value_append_singleton, List.length_append, List.length_singleton, Nat.pow_succ]
    omega

end Hex

namespace IPv6

structure IsGroup (t : Text) (g : UInt16) : Prop where
  nonempty : t ≠ []
  short : t.length ≤ 4
  digits : ∀ c ∈ t, Hex.isDigit c = true
  value : Hex.value t = g.toNat

/-- Groups with colons between them. In a dotted row the last two are a version 4 address. -/
inductive IsRow : Bool → Text → List UInt16 → Prop
  | last {t : Text} {g : UInt16} (h : IsGroup t g) : IsRow false t [g]
  | address (ip : IPv4) : IsRow true ip.text [ip.high, ip.low]
  | more {dotted : Bool} {t u : Text} {g : UInt16} {gs : List UInt16} (h : IsGroup t g)
      (hrow : IsRow dotted u gs) : IsRow dotted (t ++ ':' :: u) (g :: gs)

inductive IsSide : Bool → Text → List UInt16 → Prop
  | nothing : IsSide false [] []
  | row {dotted : Bool} {t : Text} {gs : List UInt16} (h : IsRow dotted t gs) : IsSide dotted t gs

inductive IsLiteral : Text → IPv6 → Prop
  | whole {dotted : Bool} {t : Text} {ip : IPv6} (h : IsRow dotted t ip.groups) : IsLiteral t ip
  | shortened {dotted : Bool} {front back : Text} {gs hs : List UInt16} {ip : IPv6}
      (hfront : IsSide false front gs) (hback : IsSide dotted back hs)
      (hlt : gs.length + hs.length < 8)
      (hgroups : ip.groups = gs ++ List.replicate (8 - gs.length - hs.length) 0 ++ hs) :
      IsLiteral (front ++ ':' :: ':' :: back) ip

variable {t u rest : Text} {g : UInt16} {gs : List UInt16} {dotted : Bool}

theorem not_isDigit_of_colon (h : StartsAt (· == ':') rest) : StartsAt (!Hex.isDigit ·) rest := by
  apply h.mono
  intro c hc
  rw [beq_iff_eq.mp hc]
  decide

theorem group_append (h : IsGroup t g) (hrest : StartsAt (· == ':') rest) :
    group (t ++ rest) = some (g, rest) := by
  obtain ⟨htake, hdrop⟩ := Text.takeWhile_of_startsAt h.digits (not_isDigit_of_colon hrest)
  unfold group
  rw [htake, hdrop]
  dsimp only
  rw [if_neg (not_or.mpr ⟨h.nonempty, Nat.not_lt.mpr h.short⟩), h.value, UInt16.ofNat_toNat]

theorem isGroup_of_group (h : group t = some (g, rest)) : ∃ ds, IsGroup ds g ∧ t = ds ++ rest := by
  dsimp only [group] at h
  split at h
  · cases h
  · rename_i hform
    cases h
    obtain ⟨hne, hlength⟩ := not_or.mp hform
    have hshort := Nat.not_lt.mp hlength
    have hlt : Hex.value (t.takeWhile Hex.isDigit) < 16 ^ 4 :=
      (Hex.value_lt _).trans_le (Nat.pow_le_pow_right (by decide) hshort)
    refine ⟨t.takeWhile Hex.isDigit, ⟨hne, hshort, ?_, ?_⟩, List.takeWhile_append_dropWhile.symm⟩
    · intro c hc
      exact List.mem_takeWhile_imp hc
    · exact (UInt16.toNat_ofNat_of_lt' hlt).symm

def Ends (rest : Text) : Prop := rest = [] ∨ ∃ after, rest = ':' :: ':' :: after

theorem Ends.startsAt (h : Ends rest) : StartsAt (· == ':') rest := by
  rcases h with rfl | ⟨after, rfl⟩
  · exact nofun
  · rintro c ⟨⟩
    rfl

theorem startsAt_nil : StartsAt (· == ':') [] := nofun

theorem startsAt_colon (t : Text) : StartsAt (· == ':') (':' :: t) := by
  rintro c ⟨⟩
  rfl

theorem read_of_startsAt (h : StartsAt (· == ':') t) : IPv4.read t = none :=
  by
  simpa using IPv4.read_of_colon (List.forall_mem_nil _) h

/-- No more groups are read where they end. -/
theorem leading_ends (h : Ends rest) (left : Nat) (first : Bool) :
    leading left first rest = ([], false, rest) := by
  cases left with
  | zero => rfl
  | succ left =>
    rcases h with rfl | ⟨after, rfl⟩
    · cases first with
      | true =>
        have hread : IPv4.read [] = none := rfl
        simp [leading, hread, group]
      | false => rfl
    · have hwhole := read_of_startsAt (startsAt_colon (':' :: after))
      have htail := read_of_startsAt (startsAt_colon after)
      have hgroup (t : Text) : group (':' :: t) = none := rfl
      cases first <;> simp [leading, expect, hwhole, htail, hgroup]

theorem leading_group {left : Nat} {first : Bool}
    (ht : (if first then some t else expect ':' t) = some (u ++ rest)) (hu : IsGroup u g)
    (hrest : StartsAt (· == ':') rest) :
    leading (left + 1) first t =
      (g :: (leading left false rest).1, (leading left false rest).2.1,
        (leading left false rest).2.2) := by
  rw [leading, ht]
  simp only [IPv4.read_of_colon hu.digits hrest, ite_self, group_append hu hrest]

/-- A row is read as its groups, by a reader that has room for them. -/
theorem leading_row (h : IsRow dotted u gs) (hrest : Ends rest) {left : Nat} {first : Bool}
    (hleft : gs.length ≤ left)
    (ht : (if first then some t else expect ':' t) = some (u ++ rest)) :
    leading left first t = (gs, dotted, rest) := by
  induction h generalizing left first t with
  | last hgroup =>
    obtain ⟨left, rfl⟩ : ∃ n, left = n + 1 := ⟨left - 1, by simp at hleft; omega⟩
    rw [leading_group ht hgroup hrest.startsAt, leading_ends hrest]
  | address ip =>
    obtain ⟨left, rfl⟩ : ∃ n, left = n + 2 := ⟨left - 2, by simp at hleft; omega⟩
    have hdigit : StartsAt (!Char.isDigit ·) rest := by
      apply hrest.startsAt.mono
      intro c hc
      rw [beq_iff_eq.mp hc]
      decide
    rw [leading, ht]
    simp only [if_neg (Nat.succ_ne_zero left), IPv4.read_text ip hdigit]
  | @more dotted v w g gs hgroup hrow ih =>
    obtain ⟨left, rfl⟩ : ∃ n, left = n + 1 := ⟨left - 1, by simp at hleft; omega⟩
    rw [List.append_assoc, List.cons_append] at ht
    have hnext : (if false then some (':' :: (w ++ rest)) else expect ':' (':' :: (w ++ rest))) =
        some (w ++ rest) := expect_self ':' _
    rw [leading_group ht hgroup (startsAt_colon _), ih (by simpa using hleft) hnext]

theorem leading_side (h : IsSide dotted u gs) (hrest : Ends rest) {left : Nat}
    (hleft : gs.length ≤ left) : leading left true (u ++ rest) = (gs, dotted, rest) := by
  cases h with
  | nothing => exact leading_ends hrest left true
  | row hrow => exact leading_row hrow hrest hleft rfl

/-- What a reader of groups takes: nothing, or a row, in front of which the colon that follows
other groups stands. -/
def Takes (first : Bool) (t : Text) (taken : List UInt16 × Bool × Text) : Prop :=
  taken = ([], false, t) ∨
    ∃ u, t = (if first then u else ':' :: u) ++ taken.2.2 ∧ IsRow taken.2.1 u taken.1

theorem takes_leading (left : Nat) (first : Bool) (t : Text) :
    Takes first t (leading left first t) ∧ (leading left first t).1.length ≤ left := by
  induction left generalizing first t with
  | zero => exact ⟨.inl rfl, Nat.le_refl 0⟩
  | succ left ih =>
    unfold leading
    split
    · exact ⟨.inl rfl, Nat.zero_le _⟩
    · rename_i u hu
      have ht : t = (if first then [] else [':']) ++ u := by
        cases first with
        | true => exact Option.some.inj hu
        | false => exact eq_cons_of_expect hu
      split
      · rename_i ip rest hread
        split at hread
        · cases hread
        · refine ⟨.inr ⟨ip.text, ?_, .address ip⟩, ?_⟩
          · rw [ht, IPv4.text_of_read hread]
            cases first <;> rfl
          · simp
            omega
      · split
        · exact ⟨.inl rfl, Nat.zero_le _⟩
        · rename_i g rest hgroup
          obtain ⟨ds, hds, rfl⟩ := isGroup_of_group hgroup
          obtain ⟨htakes, hlength⟩ := ih false rest
          generalize leading left false rest = taken at htakes hlength
          refine ⟨.inr ?_, Nat.succ_le_succ hlength⟩
          rcases htakes with rfl | ⟨v, hv, hrow⟩
          · exact ⟨ds, by rw [ht]; cases first <;> rfl, .last hds⟩
          · refine ⟨ds ++ ':' :: v, ?_, .more hds hrow⟩
            rw [ht, hv]
            cases first <;> simp

theorem side_of_leading {left : Nat} (h : leading left true t = (gs, dotted, rest)) :
    (∃ u, t = u ++ rest ∧ IsSide dotted u gs) ∧ gs.length ≤ left := by
  obtain ⟨htakes, hlength⟩ := takes_leading left true t
  rw [h] at htakes hlength
  refine ⟨?_, hlength⟩
  rcases htakes with hnone | ⟨u, hu, hrow⟩
  · cases hnone
    exact ⟨[], rfl, .nothing⟩
  · exact ⟨u, hu, .row hrow⟩

theorem read_of_isLiteral {ip : IPv6} (h : IsLiteral t ip) : read t = some (ip, []) := by
  cases h with
  | whole hrow =>
    have hlead := leading_side (.row hrow) (.inl rfl) (Nat.le_refl 8)
    rw [List.append_nil] at hlead
    rw [read, hlead]
    rfl
  | @shortened dotted front back gs hs ip hfront hback hlt hgroups =>
    have hleads := leading_side hfront (.inr ⟨back, rfl⟩) (show gs.length ≤ 8 by omega)
    have hback := leading_side hback (.inl rfl) (show hs.length ≤ 7 - gs.length by omega)
    rw [List.append_nil] at hback
    rw [read, hleads]
    dsimp only
    rw [if_neg (by omega), if_neg (by decide)]
    simp only [hback, ← hgroups, ofGroups?_groups, Option.map_some]

theorem isLiteral_of_read {ip : IPv6} (h : read t = some (ip, [])) : IsLiteral t ip := by
  rcases hlead : leading 8 true t with ⟨gs, dotted, after⟩
  obtain ⟨⟨front, rfl, hfront⟩, hlength⟩ := side_of_leading hlead
  simp only [read, hlead] at h
  split at h
  · rename_i height
    obtain ⟨ip', hgroups, hip⟩ := Option.map_eq_some_iff.mp h
    cases hip
    cases hfront with
    | nothing => cases height
    | row hrow =>
      rw [List.append_nil]
      exact .whole (groups_of_ofGroups? hgroups ▸ hrow)
  · rename_i hshort
    split at h
    · cases h
    · rename_i hdotted
      rw [Bool.not_eq_true] at hdotted
      subst hdotted
      split at h
      · rename_i rest
        rcases hback : leading (7 - gs.length) true rest with ⟨hs, dotted, last⟩
        rw [hback] at h
        obtain ⟨ip', hgroups, hip⟩ := Option.map_eq_some_iff.mp h
        cases hip
        obtain ⟨⟨back, rfl, hside⟩, hroom⟩ := side_of_leading hback
        rw [List.append_nil]
        exact .shortened hfront hside (by omega) (groups_of_ofGroups? hgroups)
      · cases h

/-- A literal begins with digits in front of a colon, and so with no version 4 address. -/
theorem readV4_of_isLiteral {ip : IPv6} (h : IsLiteral t ip) : IPv4.read t = none := by
  have hrow {dotted : Bool} {u rest : Text} {gs : List UInt16} (hrow : IsRow dotted u gs)
      (hrest : StartsAt (· == ':') rest) (hlong : dotted = true → gs.length ≠ 2) :
      IPv4.read (u ++ rest) = none := by
    cases hrow with
    | last hgroup => exact IPv4.read_of_colon hgroup.digits hrest
    | address => exact absurd rfl (hlong rfl)
    | more hgroup =>
      rw [List.append_assoc]
      exact IPv4.read_of_colon hgroup.digits (startsAt_colon _)
  cases h with
  | whole h =>
    have hlength : ip.groups.length ≠ 2 := by
      intro hlength
      cases hlength
    have hread := hrow h startsAt_nil fun _ => hlength
    rwa [List.append_nil] at hread
  | shortened hfront =>
    cases hfront with
    | nothing => exact read_of_startsAt (startsAt_colon _)
    | row h => exact hrow h (startsAt_colon _) nofun

end IPv6

namespace Address

inductive IsLiteral : Text → Address → Prop
  | v4 (ip : IPv4) : IsLiteral ip.text (.v4 ip)
  | v6 {t : Text} {ip : IPv6} (h : IPv6.IsLiteral t ip) : IsLiteral t (.v6 ip)

/-- The texts that denote an address are its literals. -/
theorem ofText?_eq_some_iff {t : Text} {a : Address} : ofText? t = some a ↔ IsLiteral t a := by
  constructor
  · intro h
    unfold ofText? at h
    split at h
    · rename_i ip hread
      cases h
      rw [IPv4.text_of_read hread, List.append_nil]
      exact .v4 ip
    · cases h
    · split at h
      · rename_i hread
        cases h
        exact .v6 (IPv6.isLiteral_of_read hread)
      · cases h
  · intro h
    cases h with
    | v4 ip =>
      have hread := IPv4.read_text ip (show StartsAt (!Char.isDigit ·) [] from nofun)
      rw [List.append_nil] at hread
      rw [ofText?, hread]
    | v6 h => rw [ofText?, IPv6.readV4_of_isLiteral h, IPv6.read_of_isLiteral h]

end Address
end MediaPerimeter
