import MediaPerimeter.Proofs.Text.Cut
import MediaPerimeter.Proofs.Text.Utf8

/-!
# What escaped text stands for

`Spells` says which bytes a text stands for if every `%` in it begins an escape, apart from the
scanner that looks for bad escapes and from the reader of good ones. The scanner passes a text
exactly if it stands for some bytes, and these are the ones that the reader finds.
-/
namespace MediaPerimeter

/-- Text whose first byte is ASCII begins with that character. -/
theorem Utf8.exists_cons_of_encode {t : Text} {b : UInt8} {rest : Bytes}
    (h : encode t = b :: rest) (hlt : b.toNat < 0x80) :
    ∃ u, t = Char.ofNat b.toNat :: u ∧ encode u = rest := by
  cases t with
  | nil => cases h
  | cons c u =>
    rw [encode_cons] at h
    have hmem : b ∈ String.utf8EncodeChar c := by
      cases hbytes : String.utf8EncodeChar c with
      | nil => exact absurd hbytes String.utf8EncodeChar_ne_nil
      | cons x xs =>
        rw [hbytes, List.cons_append, List.cons.injEq] at h
        rw [h.1]
        exact List.mem_cons_self
    have hchar := toNat_of_mem_encodeChar hmem hlt
    rw [encodeChar_of_lt (by omega), List.singleton_append, List.cons.injEq] at h
    refine ⟨u, ?_, h.2⟩
    rw [hchar, Char.ofNat_toNat]

namespace Percent

/-- Every `%` of the text begins an escape, in digits of either case, and the text stands for the
bytes. -/
inductive Spells : Text → Bytes → Prop
  | done : Spells [] []
  | plain {c : Char} {t bs} (hc : c ≠ '%') (more : Spells t bs) :
      Spells (c :: t) (String.utf8EncodeChar c ++ bs)
  | escape {a b : Char} {i j : Nat} {t bs} (ha : Hex.digit? a = some i)
      (hb : Hex.digit? b = some j) (more : Spells t bs) :
      Spells ('%' :: a :: b :: t) (.ofNat (i * 16 + j) :: bs)

theorem ne_of_mem_encodeChar {c : Char} (hc : c ≠ '%') {b : UInt8}
    (hb : b ∈ String.utf8EncodeChar c) : b ≠ 0x25 := by
  rintro rfl
  have hsame := Utf8.toNat_of_mem_encodeChar hb (by decide)
  exact hc (Char.toNat_inj.mp hsame.symm)

theorem digit?_lt {c : Char} {i : Nat} (h : Hex.digit? c = some i) : c.toNat < 0x80 := by
  unfold Hex.digit? at h
  split at h
  · rename_i hdigit
    have hrange := Text.toNat_of_isDigit hdigit
    omega
  split at h
  · rename_i hsmall
    exact Nat.lt_of_le_of_lt hsmall.2 (by decide)
  split at h
  · rename_i hcapital
    exact Nat.lt_of_le_of_lt hcapital.2 (by decide)
  · cases h

/-- A pair of bytes stands for what its two digits stand for. -/
theorem pair?_eq_some_iff {x y v : UInt8} : pair? x y = some v ↔
    ∃ i j, (x < 0x80 ∧ Hex.digit? (Char.ofNat x.toNat) = some i) ∧
      (y < 0x80 ∧ Hex.digit? (Char.ofNat y.toNat) = some j) ∧ v = .ofNat (i * 16 + j) := by
  have hpair : pair? x y = (if x < 0x80 then Hex.digit? (Char.ofNat x.toNat) else none).bind
      fun i => (if y < 0x80 then Hex.digit? (Char.ofNat y.toNat) else none).bind
        fun j => some (.ofNat (i * 16 + j)) := rfl
  rw [hpair]
  constructor
  · intro h
    obtain ⟨i, hi, h⟩ := Option.bind_eq_some_iff.mp h
    obtain ⟨j, hj, h⟩ := Option.bind_eq_some_iff.mp h
    have hi := Option.ite_none_right_eq_some.mp hi
    have hj := Option.ite_none_right_eq_some.mp hj
    exact ⟨i, j, hi, hj, (Option.some.inj h).symm⟩
  · rintro ⟨i, j, ⟨hx, hi⟩, ⟨hy, hj⟩, rfl⟩
    simp only [if_pos hx, if_pos hy, hi, hj, Option.bind_some]

theorem pair?_digits {a b : Char} {i j : Nat} (ha : Hex.digit? a = some i)
    (hb : Hex.digit? b = some j) :
    pair? (.ofNat a.toNat) (.ofNat b.toNat) = some (.ofNat (i * 16 + j)) := by
  have hbyte : ∀ {c : Char} {n}, Hex.digit? c = some n →
      UInt8.ofNat c.toNat < 0x80 ∧
        Hex.digit? (Char.ofNat (UInt8.ofNat c.toNat).toNat) = some n := by
    intro c n hc
    have hlt := digit?_lt hc
    have hnat : (UInt8.ofNat c.toNat).toNat = c.toNat := toNat_byte (by omega)
    rw [UInt8.lt_iff_toNat_lt, hnat, Char.ofNat_toNat]
    exact ⟨hlt, hc⟩
  exact pair?_eq_some_iff.mpr ⟨i, j, hbyte ha, hbyte hb, rfl⟩

theorem encode_escaped {a b : Char} {i j : Nat} (ha : Hex.digit? a = some i)
    (hb : Hex.digit? b = some j) (t : Text) : Utf8.encode ('%' :: a :: b :: t) =
      0x25 :: .ofNat a.toNat :: .ofNat b.toNat :: Utf8.encode t := by
  simp only [Utf8.encode_cons]
  rw [Utf8.encodeChar_of_lt (digit?_lt ha), Utf8.encodeChar_of_lt (digit?_lt hb),
    Utf8.encodeChar_of_lt (by decide)]
  rfl

theorem Spells.decode_eq {t : Text} {bs : Bytes} (h : Spells t bs) :
    decode (Utf8.encode t) = bs := by
  induction h with
  | done => exact decode.eq_1
  | plain hc _ ih =>
    rw [Utf8.encode_cons, decode_append fun b hb => ne_of_mem_encodeChar hc hb, ih]
  | escape ha hb _ ih =>
    have hpair := pair?_digits ha hb
    rw [encode_escaped ha hb, decode, hpair, ih]

theorem Spells.isEscaped {t : Text} {bs : Bytes} (h : Spells t bs) :
    isEscaped (Utf8.encode t) = true := by
  induction h with
  | done => rfl
  | plain hc _ ih =>
    rw [Utf8.encode_cons, isEscaped_append fun b hb => ne_of_mem_encodeChar hc hb, ih]
  | escape ha hb _ ih =>
    have hpair := pair?_digits ha hb
    rw [encode_escaped ha hb, Percent.isEscaped, hpair, ih]
    rfl

theorem Spells.unique {t : Text} {bs bs' : Bytes} (h : Spells t bs) (h' : Spells t bs') :
    bs = bs' := h.decode_eq.symm.trans h'.decode_eq

theorem exists_pair_of_isEscaped {bs : Bytes} (h : isEscaped (0x25 :: bs) = true) :
    ∃ x y v rest, bs = x :: y :: rest ∧ pair? x y = some v ∧ isEscaped rest = true := by
  match bs, h with
  | x :: y :: rest, h =>
    rw [isEscaped, Bool.and_eq_true, Option.isSome_iff_exists] at h
    obtain ⟨⟨v, hpair⟩, hrest⟩ := h
    exact ⟨x, y, v, rest, rfl, hpair, hrest⟩

/-- The text of which the scanner has seen nothing but escapes stands for some bytes. -/
theorem exists_spells {t : Text} (h : isEscaped (Utf8.encode t) = true) : ∃ bs, Spells t bs := by
  induction hlength : t.length using Nat.strong_induction_on generalizing t with
  | _ n ih =>
    cases t with
    | nil => exact ⟨[], .done⟩
    | cons c t =>
      rw [List.length_cons] at hlength
      by_cases hc : c = '%'
      · subst hc
        rw [Utf8.encode_cons, Utf8.encodeChar_of_lt (by decide), List.singleton_append] at h
        obtain ⟨x, y, v, rest, hbytes, hpair, hrest⟩ := exists_pair_of_isEscaped h
        obtain ⟨i, j, ⟨hx, hi⟩, ⟨hy, hj⟩, -⟩ := pair?_eq_some_iff.mp hpair
        -- Both digits are ASCII, so they are characters of the text too.
        have hx := UInt8.lt_iff_toNat_lt.mp hx
        have hy := UInt8.lt_iff_toNat_lt.mp hy
        obtain ⟨u, rfl, hsecond⟩ := Utf8.exists_cons_of_encode hbytes hx
        obtain ⟨more, rfl, hmore⟩ := Utf8.exists_cons_of_encode hsecond hy
        rw [← hmore] at hrest
        simp only [List.length_cons] at hlength
        obtain ⟨bs, hspells⟩ := ih more.length (by omega) hrest rfl
        exact ⟨_, .escape hi hj hspells⟩
      · rw [Utf8.encode_cons, isEscaped_append fun b hb => ne_of_mem_encodeChar hc hb] at h
        obtain ⟨bs, hspells⟩ := ih t.length (by omega) h rfl
        exact ⟨_, .plain hc hspells⟩

theorem isEscaped_iff {t : Text} : isEscaped (Utf8.encode t) = true ↔ ∃ bs, Spells t bs :=
  ⟨exists_spells, fun ⟨_, h⟩ => h.isEscaped⟩

theorem digit?_capital : ∀ i : Fin 16, Hex.digit? (Hex.capital i.val) = some i.val := by decide

/-- What is written stands for the bytes that were to be written. -/
theorem spells_encode {keep : UInt8 → Bool} (hkeep : Plain keep) (bs : Bytes) :
    Spells (encode keep bs) bs := by
  induction bs with
  | nil => exact .done
  | cons b bs ih =>
    have hb := UInt8.toNat_lt b
    rw [encode, List.flatMap_cons]
    split
    · rename_i hkept
      obtain ⟨hlt, hne⟩ := hkeep b hkept
      have hchar : Char.ofNat b.toNat ≠ '%' := by
        intro he
        have hnat := congrArg Char.toNat he
        rw [toNat_ofNat_of_lt ⟨b.toNat, hlt⟩] at hnat
        exact hne (UInt8.toNat_inj.mp hnat)
      have hbytes : String.utf8EncodeChar (Char.ofNat b.toNat) = [b] := by
        have hkept := encode_kept hlt []
        rwa [Utf8.encode_cons, Utf8.encode, List.flatMap_nil, List.append_nil] at hkept
      have hspells := Spells.plain hchar ih
      rwa [hbytes] at hspells
    · have hspells := Spells.escape (digit?_capital ⟨b.toNat / 16, by omega⟩)
        (digit?_capital ⟨b.toNat % 16, by omega⟩) ih
      rwa [Nat.div_add_mod', UInt8.ofNat_toNat] at hspells

theorem decode_encode {keep : UInt8 → Bool} (hkeep : Plain keep) (bs : Bytes) :
    decode (Utf8.encode (encode keep bs)) = bs := (spells_encode hkeep bs).decode_eq

theorem isEscaped_encode {keep : UInt8 → Bool} (hkeep : Plain keep) (bs : Bytes) :
    isEscaped (Utf8.encode (encode keep bs)) = true := (spells_encode hkeep bs).isEscaped

end Percent
end MediaPerimeter
