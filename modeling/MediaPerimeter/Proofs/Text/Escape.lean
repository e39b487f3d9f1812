import MediaPerimeter.Text.Decimal
import MediaPerimeter.Text.Percent

/-!
# Bytes and digits that are read as they stand

ASCII characters are their own bytes, the reader of percent escapes and the scanner for bad ones pass
over all bytes but `%`, and decimal numbers are read back as they were written.
-/
namespace MediaPerimeter

theorem toNat_byte {n : Nat} (h : n < 256) : (UInt8.ofNat n).toNat = n :=
  UInt8.toNat_ofNat_of_lt' h

theorem Utf8.encode_cons (c : Char) (t : Text) :
    Utf8.encode (c :: t) = String.utf8EncodeChar c ++ Utf8.encode t := List.flatMap_cons

theorem Utf8.encode_append (a b : Text) :
    Utf8.encode (a ++ b) = Utf8.encode a ++ Utf8.encode b := List.flatMap_append

theorem Utf8.encodeChar_of_lt {c : Char} (h : c.toNat < 128) :
    String.utf8EncodeChar c = [UInt8.ofNat c.toNat] := by
  have hsize : c.utf8Size = 1 := by
    rw [Char.utf8Size, if_pos]
    exact UInt32.le_iff_toNat_le.mpr (Nat.le_of_lt_succ h)
  rw [String.utf8EncodeChar_eq_singleton hsize]
  rfl

namespace Percent

def Plain (keep : UInt8 → Bool) : Prop := ∀ b, keep b = true → b.toNat < 128 ∧ b ≠ 0x25

theorem toNat_ofNat_of_lt : ∀ i : Fin 128, (Char.ofNat i.val).toNat = i.val := by decide

theorem encode_kept {b : UInt8} (h : b.toNat < 128) (t : Text) :
    Utf8.encode (Char.ofNat b.toNat :: t) = b :: Utf8.encode t := by
  have hchar : (Char.ofNat b.toNat).toNat = b.toNat := toNat_ofNat_of_lt ⟨b.toNat, h⟩
  rw [Utf8.encode_cons, Utf8.encodeChar_of_lt (by rwa [hchar]), hchar, UInt8.ofNat_toNat]
  rfl

theorem decode_kept {b : UInt8} (h : b ≠ 0x25) (bs : Bytes) : decode (b :: bs) = b :: decode bs :=
  decode.eq_3 b bs fun _ _ _ hb _ => h hb

theorem decode_append {kept : Bytes} (h : ∀ b ∈ kept, b ≠ 0x25) (bs : Bytes) :
    decode (kept ++ bs) = kept ++ decode bs := by
  induction kept with
  | nil => rfl
  | cons b kept ih =>
    obtain ⟨hb, hkept⟩ := List.forall_mem_cons.mp h
    rw [List.cons_append, decode_kept hb, ih hkept, List.cons_append]

theorem decode_of_not_mem {bs : Bytes} (h : ∀ b ∈ bs, b ≠ 0x25) : decode bs = bs := by
  have hall := decode_append h []
  rwa [decode.eq_1, List.append_nil] at hall

theorem isEscaped_kept {b : UInt8} (h : b ≠ 0x25) (bs : Bytes) :
    isEscaped (b :: bs) = isEscaped bs := by
  rw [isEscaped.eq_3 b bs fun _ _ _ hb _ => h hb, bne_iff_ne.mpr h, Bool.true_and]

theorem isEscaped_append {kept : Bytes} (h : ∀ b ∈ kept, b ≠ 0x25) (bs : Bytes) :
    isEscaped (kept ++ bs) = isEscaped bs := by
  induction kept with
  | nil => rfl
  | cons b kept ih =>
    obtain ⟨hb, hkept⟩ := List.forall_mem_cons.mp h
    rw [List.cons_append, isEscaped_kept hb, ih hkept]

end Percent

namespace Decimal

theorem value_text (n : Nat) : value (text n) = n := Nat.ofDigitChars_ten_toDigits

theorem isDigit_of_mem_text {n : Nat} {c : Char} (h : c ∈ text n) : c.isDigit = true :=
  Nat.isDigit_of_mem_toDigits (by decide) (by decide) h

theorem text_ne_nil (n : Nat) : text n ≠ [] := Nat.toDigits_ne_nil

theorem readDigits?_eq_some_iff {ds : Text} {n : Nat} : readDigits? ds = some n ↔
    (ds ≠ [] ∧ ∀ c ∈ ds, c.isDigit = true) ∧ value ds = n := by
  rw [readDigits?, Option.ite_none_right_eq_some, List.all_eq_true, Option.some.injEq]

/-- A number is read from its digits, which may follow a `+`. -/
theorem readUpTo?_eq_some_iff {max n : Nat} {t : Text} : readUpTo? max t = some n ↔
    ∃ ds, (t = ds ∨ t = '+' :: ds) ∧ ds ≠ [] ∧ (∀ c ∈ ds, c.isDigit = true) ∧ value ds = n ∧
      n ≤ max := by
  constructor
  · intro h
    obtain ⟨m, hread, hmax⟩ := Option.bind_eq_some_iff.mp h
    obtain ⟨hle, hm⟩ := Option.ite_none_right_eq_some.mp hmax
    obtain rfl := Option.some.inj hm
    obtain ⟨⟨hne, hds⟩, hvalue⟩ := readDigits?_eq_some_iff.mp hread
    refine ⟨_, ?_, hne, hds, hvalue, hle⟩
    split
    · exact .inr rfl
    · exact .inl rfl
  · rintro ⟨ds, ht, hne, hds, rfl, hmax⟩
    have hread : readDigits? ds = some (value ds) := readDigits?_eq_some_iff.mpr ⟨⟨hne, hds⟩, rfl⟩
    refine Option.bind_eq_some_iff.mpr ⟨value ds, ?_, if_pos hmax⟩
    rcases ht with rfl | rfl
    · split
      · exact absurd (hds '+' List.mem_cons_self) (by decide)
      · exact hread
    · exact hread

theorem readUpTo?_of_digits {max : Nat} {ds : Text} (hne : ds ≠ [])
    (hds : ∀ c ∈ ds, c.isDigit = true) (hmax : value ds ≤ max) :
    readUpTo? max ds = some (value ds) :=
  readUpTo?_eq_some_iff.mpr ⟨ds, .inl rfl, hne, hds, rfl, hmax⟩

theorem readUpTo?_text {n max : Nat} (h : n ≤ max) : readUpTo? max (text n) = some n := by
  rw [readUpTo?_of_digits (text_ne_nil n) (fun c hc => isDigit_of_mem_text hc)
    (by rwa [value_text]), value_text]

theorem le_of_readUpTo? {max n : Nat} {t : Text} (h : readUpTo? max t = some n) : n ≤ max := by
  obtain ⟨ds, -, -, -, -, hmax⟩ := readUpTo?_eq_some_iff.mp h
  exact hmax

end Decimal
end MediaPerimeter
