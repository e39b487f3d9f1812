import Mathlib.Data.List.Basic
import MediaPerimeter.Http.Request
import MediaPerimeter.Proofs.Text.Cut
import MediaPerimeter.Proofs.Text.Escape
import MediaPerimeter.Proofs.Text.Utf8

/-!
# Texts in forms

Writers of forms differ in which characters they escape, in how they write a space and in the case of
digits. `Form.Spells` allows for all of them, and whatever they make of a text is read as that text.
-/
namespace MediaPerimeter.Http.Form

def isPlain (c : Char) : Bool := c.isAlphanum || "*-._!~'()".toList.contains c

def digit (isCapital : Bool) (n : Nat) : Char := if isCapital then Hex.capital n else Hex.small n

inductive Spells : Text → Bytes → Prop
  | done : Spells [] []
  | plain {c t bs} (hc : isPlain c = true) (more : Spells t bs) :
      Spells (c :: t) (.ofNat c.toNat :: bs)
  | space {t bs} (more : Spells t bs) : Spells ('+' :: t) (0x20 :: bs)
  | escape {b : UInt8} {t bs} (high low : Bool) (more : Spells t bs) :
      Spells ('%' :: digit high (b.toNat / 16) :: digit low (b.toNat % 16) :: t) (b :: bs)

theorem plain_lt {c : Char} (h : isPlain c = true) : c.toNat < 128 := by
  rw [isPlain, Bool.or_eq_true] at h
  rcases h with h | h
  · have hc := Text.toNat_of_isAlphanum h
    omega
  · have hmarks : "*-._!~'()".toList.all (fun mark => decide (mark.toNat < 128)) = true := by decide
    exact of_decide_eq_true (List.all_eq_true.mp hmarks c (List.contains_iff_mem.mp h))

theorem plain_byte {c : Char} (h : isPlain c = true) :
    UInt8.ofNat c.toNat ≠ 0x25 ∧ UInt8.ofNat c.toNat ≠ 0x2b := by
  have hall : ∀ i : Fin 128, isPlain (.ofNat i.val) = true →
      UInt8.ofNat i.val ≠ 0x25 ∧ UInt8.ofNat i.val ≠ 0x2b := by decide
  refine hall ⟨c.toNat, plain_lt h⟩ ?_
  rwa [Char.ofNat_toNat]

theorem pair?_digit : ∀ (i j : Fin 16) (high low : Bool),
    Percent.pair? (.ofNat (digit high i.val).toNat) (.ofNat (digit low j.val).toNat) =
      some (.ofNat (i.val * 16 + j.val)) := by decide

theorem isPlain_digit : ∀ (i : Fin 16) (isCapital : Bool), isPlain (digit isCapital i.val) = true := by
  decide

theorem digit_lt (b : UInt8) : b.toNat / 16 < 16 ∧ b.toNat % 16 < 16 := by
  have hb := UInt8.toNat_lt b
  omega

def mayStand (c : Char) : Bool := isPlain c || c == '+' || c == '%'

theorem Spells.mem {t : Text} {bs : Bytes} (h : Spells t bs) {c : Char} (hc : c ∈ t) :
    mayStand c = true := by
  have hplain : ∀ {c : Char}, isPlain c = true → mayStand c = true := by
    intro c hc
    rw [mayStand, hc, Bool.true_or, Bool.true_or]
  induction h with
  | done => cases hc
  | plain hkept _ ih =>
    rcases List.mem_cons.mp hc with rfl | hc
    · exact hplain hkept
    · exact ih hc
  | space _ ih =>
    rcases List.mem_cons.mp hc with rfl | hc
    · rfl
    · exact ih hc
  | @escape b t bs high low _ ih =>
    obtain ⟨hhigh, hlow⟩ := digit_lt b
    simp only [List.mem_cons] at hc
    rcases hc with rfl | rfl | rfl | hc
    · rfl
    · exact hplain (isPlain_digit ⟨_, hhigh⟩ high)
    · exact hplain (isPlain_digit ⟨_, hlow⟩ low)
    · exact ih hc

/-- A mark that divides a target or a form is not in it. -/
theorem Spells.not_mem {t : Text} {bs : Bytes} (h : Spells t bs) {mark : Char}
    (hmark : mayStand mark = false) : mark ∉ t := fun hc =>
  absurd (h.mem hc) (by rw [hmark]; exact Bool.false_ne_true)

theorem Spells.percent_decode {t : Text} {bs : Bytes} (h : Spells t bs) :
    Percent.decode ((Utf8.encode t).map fun b => if b = 0x2b then 0x20 else b) = bs := by
  induction h with
  | done => exact Percent.decode.eq_1
  | @plain c t bs hc _ ih =>
    obtain ⟨hpercent, hplus⟩ := plain_byte hc
    rw [Utf8.encode_cons, Utf8.encodeChar_of_lt (plain_lt hc), List.singleton_append, List.map_cons,
      if_neg hplus, Percent.decode_kept hpercent, ih]
  | space _ ih =>
    rw [Utf8.encode_cons, Utf8.encodeChar_of_lt (by decide), List.singleton_append, List.map_cons,
      if_pos (by decide), Percent.decode_kept (by decide), ih]
  | @escape b t bs high low _ ih =>
    obtain ⟨hhigh, hlow⟩ := digit_lt b
    have hx := isPlain_digit ⟨_, hhigh⟩ high
    have hy := isPlain_digit ⟨_, hlow⟩ low
    have hpair := pair?_digit ⟨_, hhigh⟩ ⟨_, hlow⟩ high low
    dsimp only at hx hy hpair
    rw [Nat.div_add_mod', UInt8.ofNat_toNat] at hpair
    rw [Utf8.encode_cons, Utf8.encode_cons, Utf8.encode_cons, Utf8.encodeChar_of_lt (by decide),
      Utf8.encodeChar_of_lt (plain_lt hx), Utf8.encodeChar_of_lt (plain_lt hy)]
    simp only [List.singleton_append, List.map_cons, if_neg (plain_byte hx).2,
      if_neg (plain_byte hy).2]
    have hescape : (if UInt8.ofNat '%'.toNat = 0x2b then 0x20 else UInt8.ofNat '%'.toNat) = 0x25 := by
      decide
    rw [hescape, Percent.decode, hpair, ih]

theorem decode_of_spells {e t : Text} (h : Spells e (Utf8.encode t)) : decode e = t := by
  rw [decode, h.percent_decode, Utf8.decodeLossy_encode]

theorem spells_self {t : Text} (h : t.all isPlain = true) : Spells t (Utf8.encode t) := by
  induction t with
  | nil => exact .done
  | cons c t ih =>
    rw [List.all_cons, Bool.and_eq_true] at h
    obtain ⟨hc, ht⟩ := h
    rw [Utf8.encode_cons, Utf8.encodeChar_of_lt (plain_lt hc)]
    exact .plain hc (ih ht)

/-- The only field of a form is read as the text that its value stands for. -/
theorem single?_of_spells {name : String} {e t : Text} (hname : name.toList.all isPlain = true)
    (h : Spells e (Utf8.encode t)) : single? name (name.toList ++ '=' :: e) = some t := by
  have hself := spells_self hname
  have hand : '&' ∉ name.toList ++ '=' :: e := by
    simp only [List.mem_append, List.mem_cons, not_or]
    exact ⟨hself.not_mem (by decide), by decide, h.not_mem (by decide)⟩
  have hequals : '=' ∉ name.toList := hself.not_mem (by decide)
  have hfields : fields (name.toList ++ '=' :: e) = [(name.toList, t)] := by
    have hne : (name.toList ++ '=' :: e != []) = true := by simp
    rw [fields, Text.split_of_not_mem hand, List.filter_singleton, hne]
    simp only [cond_true, List.map_cons, List.map_nil, field, Text.cut_append hequals,
      decode_of_spells hself, decode_of_spells h]
  rw [single?, hfields, List.filter_singleton, beq_self_eq_true]
  rfl

/-- A writer that keeps only plain characters spells what it writes. -/
theorem spells_encode {keep : UInt8 → Bool}
    (hkeep : ∀ b, keep b = true → b.toNat < 128 ∧ isPlain (.ofNat b.toNat) = true) (bs : Bytes) :
    Spells (Percent.encode keep bs) bs := by
  induction bs with
  | nil => exact .done
  | cons b bs ih =>
    rw [Percent.encode, List.flatMap_cons]
    split
    · rename_i hb
      obtain ⟨hlt, hplain⟩ := hkeep b hb
      have hbyte : UInt8.ofNat (Char.ofNat b.toNat).toNat = b := by
        rw [Percent.toNat_ofNat_of_lt ⟨b.toNat, hlt⟩, UInt8.ofNat_toNat]
      have hspells : Spells (.ofNat b.toNat :: Percent.encode keep bs)
          (.ofNat (Char.ofNat b.toNat).toNat :: bs) := .plain hplain ih
      rwa [hbyte] at hspells
    · exact .escape true true ih

end MediaPerimeter.Http.Form
