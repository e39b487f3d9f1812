import MediaPerimeter.Proofs.Text.Escape

/-!
# Text through its bytes

A text is read back from the bytes that encode it, and it passes a percent escape of these bytes
whatever else is escaped with it.
-/
namespace MediaPerimeter.Utf8

theorem within_iff {lo hi b : UInt8} :
    within lo hi b = true ↔ lo.toNat ≤ b.toNat ∧ b.toNat ≤ hi.toNat := by
  simp only [within, Bool.and_eq_true, decide_eq_true_eq, UInt8.le_iff_toNat_le]

theorem within_eq_false {lo hi b : UInt8} (h : b.toNat < lo.toNat ∨ hi.toNat < b.toNat) :
    within lo hi b = false := by
  rw [← Bool.not_eq_true, within_iff]
  omega

theorem isTail_iff {b : UInt8} : isTail b = true ↔ 0x80 ≤ b.toNat ∧ b.toNat ≤ 0xbf := within_iff

theorem second₃_iff {a b : UInt8} : second₃ a b = true ↔ 0x80 ≤ b.toNat ∧ b.toNat ≤ 0xbf ∧
    (a.toNat = 0xe0 → 0xa0 ≤ b.toNat) ∧ (a.toNat = 0xed → b.toNat ≤ 0x9f) := by
  have he0 : a = 0xe0 ↔ a.toNat = 0xe0 := UInt8.toNat_inj.symm
  have hed : a = 0xed ↔ a.toNat = 0xed := UInt8.toNat_inj.symm
  simp only [second₃, he0, hed]
  split
  · rw [within_iff]
    simp only [UInt8.reduceToNat]
    omega
  · split
    · rw [within_iff]
      simp only [UInt8.reduceToNat]
      omega
    · rw [isTail_iff]
      omega

theorem second₄_iff {a b : UInt8} : second₄ a b = true ↔ 0x80 ≤ b.toNat ∧ b.toNat ≤ 0xbf ∧
    (a.toNat = 0xf0 → 0x90 ≤ b.toNat) ∧ (a.toNat = 0xf4 → b.toNat ≤ 0x8f) := by
  have hf0 : a = 0xf0 ↔ a.toNat = 0xf0 := UInt8.toNat_inj.symm
  have hf4 : a = 0xf4 ↔ a.toNat = 0xf4 := UInt8.toNat_inj.symm
  simp only [second₄, hf0, hf4]
  split
  · rw [within_iff]
    simp only [UInt8.reduceToNat]
    omega
  · split
    · rw [within_iff]
      simp only [UInt8.reduceToNat]
      omega
    · rw [isTail_iff]
      omega

section Pieces

variable {a b c d : UInt8} {rest : Bytes}

theorem pieces_one (ha : a.toNat < 0x80) :
    pieces (a :: rest) = some (Char.ofNat a.toNat) :: pieces rest := by
  have h₁ : a < 0x80 := UInt8.lt_iff_toNat_lt.mpr ha
  rw [pieces.eq_def]
  dsimp only
  rw [if_pos h₁]

theorem not_lt_of_le (ha : 0xc2 ≤ a.toNat) : ¬ a < 0x80 := fun hlt => by
  have hnat : a.toNat < 0x80 := UInt8.lt_iff_toNat_lt.mp hlt
  omega

theorem pieces_two (ha : 0xc2 ≤ a.toNat ∧ a.toNat ≤ 0xdf) (hb : isTail b = true) :
    pieces (a :: b :: rest) = some (Char.ofNat (bits 32 a * 64 + bits 64 b)) :: pieces rest := by
  have h₂ : within 0xc2 0xdf a = true := within_iff.mpr ha
  rw [pieces.eq_def]
  dsimp only
  rw [if_neg (not_lt_of_le ha.1), if_pos h₂, if_pos hb]

theorem pieces_three (ha : 0xe0 ≤ a.toNat ∧ a.toNat ≤ 0xef) (hb : second₃ a b = true)
    (hc : isTail c = true) : pieces (a :: b :: c :: rest) =
      some (Char.ofNat ((bits 16 a * 64 + bits 64 b) * 64 + bits 64 c)) :: pieces rest := by
  have h₂ : within 0xc2 0xdf a = false := within_eq_false (.inr (Nat.lt_of_lt_of_le (by decide) ha.1))
  have h₃ : within 0xe0 0xef a = true := within_iff.mpr ha
  rw [pieces.eq_def]
  dsimp only
  rw [if_neg (not_lt_of_le (by omega)), h₂, if_neg Bool.false_ne_true, if_pos h₃, if_pos hb,
    if_pos hc]

theorem pieces_four (ha : 0xf0 ≤ a.toNat ∧ a.toNat ≤ 0xf4) (hb : second₄ a b = true)
    (hc : isTail c = true) (hd : isTail d = true) : pieces (a :: b :: c :: d :: rest) =
      some (Char.ofNat (((bits 8 a * 64 + bits 64 b) * 64 + bits 64 c) * 64 + bits 64 d)) ::
        pieces rest := by
  have h₂ : within 0xc2 0xdf a = false := within_eq_false (.inr (Nat.lt_of_lt_of_le (by decide) ha.1))
  have h₃ : within 0xe0 0xef a = false := within_eq_false (.inr (Nat.lt_of_lt_of_le (by decide) ha.1))
  have h₄ : within 0xf0 0xf4 a = true := within_iff.mpr ha
  rw [pieces.eq_def]
  dsimp only
  rw [if_neg (not_lt_of_le (by omega)), h₂, if_neg Bool.false_ne_true, h₃,
    if_neg Bool.false_ne_true, if_pos h₄, if_pos hb, if_pos hc, if_pos hd]

end Pieces

theorem isTail_byte (n : Nat) : isTail (.ofNat (n % 64 + 128)) = true := by
  have hnat := toNat_byte (n := n % 64 + 128) (by omega)
  exact within_iff.mpr (by rw [hnat]; simp only [UInt8.reduceToNat]; omega)

theorem bits_tail (n : Nat) : bits 64 (.ofNat (n % 64 + 128)) = n % 64 := by
  rw [bits, toNat_byte (by omega)]
  omega

theorem second₃_byte {n : Nat} (hlo : 0x800 ≤ n) (hhi : n < 0xd800 ∨ 0xdfff < n)
    (hmax : n ≤ 0xffff) :
    second₃ (.ofNat (n / 4096 % 16 + 224)) (.ofNat (n / 64 % 64 + 128)) = true := by
  rw [second₃_iff, toNat_byte (by omega), toNat_byte (by omega)]
  omega

theorem second₄_byte {n : Nat} (hlo : 0x10000 ≤ n) (hmax : n < 0x110000) :
    second₄ (.ofNat (n / 262144 % 8 + 240)) (.ofNat (n / 4096 % 64 + 128)) = true := by
  rw [second₄_iff, toNat_byte (by omega), toNat_byte (by omega)]
  omega

theorem toNat_valid (c : Char) : c.toNat < 0xd800 ∨ (0xdfff < c.toNat ∧ c.toNat < 0x110000) :=
  c.valid

/-- A byte of a character that is ASCII is the character. -/
theorem toNat_of_mem_encodeChar {c : Char} {b : UInt8} (hb : b ∈ String.utf8EncodeChar c)
    (hlt : b.toNat < 0x80) : b.toNat = c.toNat := by
  have hval : c.val.toNat = c.toNat := rfl
  have hvalid := toNat_valid c
  -- Every byte of a longer form is marked by its highest bit.
  have hmarked : ∀ n, 0x80 ≤ n → n < 256 → b = .ofNat n → b.toNat = c.toNat := by
    rintro n hlo hhi rfl
    rw [toNat_byte hhi] at hlt
    omega
  unfold String.utf8EncodeChar at hb
  simp only [hval] at hb
  split at hb
  · rename_i hascii
    rw [List.mem_singleton.mp hb, toNat_byte (by omega)]
  split at hb
  · simp only [List.mem_cons, List.not_mem_nil, or_false] at hb
    rcases hb with hb | hb
    · exact hmarked _ (by omega) (by omega) hb
    · exact hmarked _ (by omega) (by omega) hb
  split at hb
  · simp only [List.mem_cons, List.not_mem_nil, or_false] at hb
    rcases hb with hb | hb | hb
    · exact hmarked _ (by omega) (by omega) hb
    · exact hmarked _ (by omega) (by omega) hb
    · exact hmarked _ (by omega) (by omega) hb
  · simp only [List.mem_cons, List.not_mem_nil, or_false] at hb
    rcases hb with hb | hb | hb | hb
    · exact hmarked _ (by omega) (by omega) hb
    · exact hmarked _ (by omega) (by omega) hb
    · exact hmarked _ (by omega) (by omega) hb
    · exact hmarked _ (by omega) (by omega) hb

/-- A character is the first piece of every text of bytes that begins with its own bytes. -/
theorem pieces_encodeChar (c : Char) (rest : Bytes) :
    pieces (String.utf8EncodeChar c ++ rest) = some c :: pieces rest := by
  have hvalid := toNat_valid c
  have hread : ∀ n, n = c.toNat → some (Char.ofNat n) :: pieces rest = some c :: pieces rest := by
    rintro n rfl
    rw [Char.ofNat_toNat]
  have hval : c.val.toNat = c.toNat := rfl
  simp only [String.utf8EncodeChar, hval]
  generalize c.toNat = n at hvalid hread
  by_cases h₁ : n ≤ 127
  · rw [if_pos h₁, List.singleton_append, pieces_one (by rw [toNat_byte] <;> omega)]
    exact hread _ (toNat_byte (by omega))
  rw [if_neg h₁]
  by_cases h₂ : n ≤ 2047
  · have ha := toNat_byte (n := n / 64 % 32 + 192) (by omega)
    rw [if_pos h₂, List.cons_append, List.singleton_append,
      pieces_two (by omega) (isTail_byte n)]
    refine hread _ ?_
    rw [bits_tail, bits, ha]
    omega
  rw [if_neg h₂]
  by_cases h₃ : n ≤ 65535
  · have ha := toNat_byte (n := n / 4096 % 16 + 224) (by omega)
    rw [if_pos h₃, List.cons_append, List.cons_append, List.singleton_append,
      pieces_three (by omega) (second₃_byte (by omega) (by omega) h₃) (isTail_byte n)]
    refine hread _ ?_
    rw [bits_tail, bits_tail, bits, ha]
    omega
  · have ha := toNat_byte (n := n / 262144 % 8 + 240) (by omega)
    rw [if_neg h₃, List.cons_append, List.cons_append, List.cons_append, List.singleton_append,
      pieces_four (by omega) (second₄_byte (by omega) (by omega)) (isTail_byte _) (isTail_byte n)]
    refine hread _ ?_
    rw [bits_tail, bits_tail, bits_tail, bits, ha]
    omega

theorem pieces_encode (t : Text) : pieces (encode t) = t.map some := by
  induction t with
  | nil => exact pieces.eq_1
  | cons c rest ih => rw [encode_cons, pieces_encodeChar, ih, List.map_cons]

theorem decode?_encode (t : Text) : decode? (encode t) = some t := by
  have hall : (t.map some).all Option.isSome = true := by simp
  have hmap : (t.map some).filterMap id = t := by simp
  unfold decode?
  simp only [pieces_encode, hall, hmap, ↓reduceIte]

theorem decodeLossy_encode (t : Text) : decodeLossy (encode t) = t := by
  rw [decodeLossy, pieces_encode, List.map_map]
  exact List.map_id t

theorem encode_injective {a b : Text} (h : encode a = encode b) : a = b := by
  have hdecode := congrArg decode? h
  rw [decode?_encode, decode?_encode] at hdecode
  exact Option.some.inj hdecode

section Back

variable {a b c d : UInt8}

theorem toNat_ofNat {n : Nat} (h : n < 0xd800 ∨ (0xdfff < n ∧ n < 0x110000)) :
    (Char.ofNat n).val.toNat = n := by
  unfold Char.ofNat
  rw [dif_pos h]
  rfl

theorem ofNat_eq {n : Nat} (h : n = a.toNat) : UInt8.ofNat n = a := by rw [h, UInt8.ofNat_toNat]

theorem encodeChar_one (ha : a.toNat < 0x80) :
    String.utf8EncodeChar (Char.ofNat a.toNat) = [a] := by
  have hn := toNat_ofNat (n := a.toNat) (by omega)
  simp only [String.utf8EncodeChar, hn]
  rw [if_pos (by omega), UInt8.ofNat_toNat]

theorem encodeChar_two (ha : 0xc2 ≤ a.toNat ∧ a.toNat ≤ 0xdf) (hb : isTail b = true) :
    String.utf8EncodeChar (Char.ofNat (bits 32 a * 64 + bits 64 b)) = [a, b] := by
  rw [isTail_iff] at hb
  unfold bits
  have hn := toNat_ofNat (n := a.toNat % 32 * 64 + b.toNat % 64) (by omega)
  simp only [String.utf8EncodeChar, hn]
  rw [if_neg (by omega), if_pos (by omega), ofNat_eq (a := a) (by omega),
    ofNat_eq (a := b) (by omega)]

theorem encodeChar_three (ha : 0xe0 ≤ a.toNat ∧ a.toNat ≤ 0xef) (hb : second₃ a b = true)
    (hc : isTail c = true) :
    String.utf8EncodeChar (Char.ofNat ((bits 16 a * 64 + bits 64 b) * 64 + bits 64 c)) =
      [a, b, c] := by
  rw [isTail_iff] at hc
  rw [second₃_iff] at hb
  unfold bits
  have hn := toNat_ofNat (n := (a.toNat % 16 * 64 + b.toNat % 64) * 64 + c.toNat % 64) (by omega)
  simp only [String.utf8EncodeChar, hn]
  rw [if_neg (by omega), if_neg (by omega), if_pos (by omega), ofNat_eq (a := a) (by omega),
    ofNat_eq (a := b) (by omega), ofNat_eq (a := c) (by omega)]

theorem encodeChar_four (ha : 0xf0 ≤ a.toNat ∧ a.toNat ≤ 0xf4) (hb : second₄ a b = true)
    (hc : isTail c = true) (hd : isTail d = true) :
    String.utf8EncodeChar
        (Char.ofNat (((bits 8 a * 64 + bits 64 b) * 64 + bits 64 c) * 64 + bits 64 d)) =
      [a, b, c, d] := by
  rw [isTail_iff] at hc hd
  rw [second₄_iff] at hb
  unfold bits
  have hn := toNat_ofNat
    (n := ((a.toNat % 8 * 64 + b.toNat % 64) * 64 + c.toNat % 64) * 64 + d.toNat % 64) (by omega)
  simp only [String.utf8EncodeChar, hn]
  rw [if_neg (by omega), if_neg (by omega), if_neg (by omega), ofNat_eq (a := a) (by omega),
    ofNat_eq (a := b) (by omega), ofNat_eq (a := c) (by omega), ofNat_eq (a := d) (by omega)]

end Back

/-- Bytes without a broken piece are those of their characters. -/
theorem encode_of_pieces {bs : Bytes} {t : Text} (h : pieces bs = t.map some) : encode t = bs := by
  have hstep : ∀ {c : Char} {front rest : Bytes} {t : Text}, String.utf8EncodeChar c = front →
      (∀ {t : Text}, pieces rest = t.map some → encode t = rest) →
      some c :: pieces rest = t.map some → encode t = front ++ rest := by
    intro c front rest t hc ih h
    cases t with
    | nil => cases h
    | cons x t =>
      rw [List.map_cons, List.cons.injEq, Option.some.injEq] at h
      obtain ⟨rfl, h⟩ := h
      rw [encode_cons, hc, ih h]
  fun_induction pieces bs generalizing t with
  | case1 =>
    cases t with
    | nil => rfl
    | cons x t => cases h
  | case2 a rest ha ih => exact hstep (encodeChar_one (UInt8.lt_iff_toNat_lt.mp ha)) ih h
  | case4 a _ ha b rest hb ih => exact hstep (encodeChar_two (within_iff.mp ha) hb) ih h
  | case8 a _ _ ha b hb c rest hc ih => exact hstep (encodeChar_three (within_iff.mp ha) hb hc) ih h
  | case14 a _ _ _ ha b hb c hc d rest hd ih =>
    exact hstep (encodeChar_four (within_iff.mp ha) hb hc hd) ih h
  | _ => cases t <;> cases h

theorem eq_map_some {ps : List (Option Char)} (h : ps.all Option.isSome = true) :
    ps = (ps.filterMap id).map some := by
  induction ps with
  | nil => rfl
  | cons p ps ih =>
    rw [List.all_cons, Bool.and_eq_true] at h
    obtain ⟨c, rfl⟩ := Option.isSome_iff_exists.mp h.1
    exact congrArg (some c :: ·) (ih h.2)

theorem decode?_eq_some_iff {bs : Bytes} {t : Text} : decode? bs = some t ↔ bs = encode t := by
  constructor
  · intro h
    unfold decode? at h
    dsimp only at h
    split at h
    · rename_i hall
      cases h
      exact (encode_of_pieces (eq_map_some hall)).symm
    · cases h
  · rintro rfl
    exact decode?_encode t

end MediaPerimeter.Utf8
