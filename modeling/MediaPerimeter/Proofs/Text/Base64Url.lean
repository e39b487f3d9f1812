import MediaPerimeter.Proofs.Text.Cut
import MediaPerimeter.Proofs.Text.Escape
import MediaPerimeter.Text.Base64Url

/-!
# One text for each sequence of bytes

Reading base64 is the inverse of writing it, in both directions, and nothing that is written holds a
character from outside the alphabet.
-/
namespace MediaPerimeter.Base64Url

theorem digit?_digit : ∀ i : Fin 64, digit? (digit i.val) = some i.val := by decide

theorem digit?_digit_of_lt {n : Nat} (h : n < 64) : digit? (digit n) = some n := digit?_digit ⟨n, h⟩

/-- A digit is the one that is written for its number. -/
theorem of_digit? {c : Char} {n : Nat} (h : digit? c = some n) : n < 64 ∧ digit n = c := by
  have hletter : ∀ m, m = c.toNat → Char.ofNat m = c := by
    rintro m rfl
    exact Char.ofNat_toNat c
  have hA : 'A'.toNat = 65 := rfl
  have ha : 'a'.toNat = 97 := rfl
  have h0 : '0'.toNat = 48 := rfl
  unfold digit? at h
  split at h
  · rename_i hupper
    have hc := Text.toNat_of_isUpper hupper
    cases h
    rw [digit, if_pos (by omega)]
    exact ⟨by omega, hletter _ (by omega)⟩
  split at h
  · rename_i hlower
    have hc := Text.toNat_of_isLower hlower
    cases h
    rw [digit, if_neg (by omega), if_pos (by omega)]
    exact ⟨by omega, hletter _ (by omega)⟩
  split at h
  · rename_i hdigit
    have hc := Text.toNat_of_isDigit hdigit
    cases h
    rw [digit, if_neg (by omega), if_neg (by omega), if_pos (by omega)]
    exact ⟨by omega, hletter _ (by omega)⟩
  split at h
  · rename_i hdash
    cases h
    exact ⟨by decide, hdash.symm⟩
  split at h
  · rename_i hline
    cases h
    exact ⟨by decide, hline.symm⟩
  · cases h

theorem digit_ne_dot (n : Nat) : digit n ≠ '.' := by
  by_cases h : n < 64
  · intro hdot
    have hread := digit?_digit_of_lt h
    rw [hdot] at hread
    cases hread
  · rw [digit, if_neg (by omega), if_neg (by omega), if_neg (by omega), if_neg (by omega)]
    decide

theorem encode_of_decode? {t : Text} {bs : Bytes} (h : decode? t = some bs) : encode bs = t := by
  induction t using decode?.induct generalizing bs with
  | case1 =>
    cases h
    rfl
  | case2 c => cases h
  | case3 a b =>
    simp only [decode?, Option.bind_eq_bind, Option.bind_eq_some_iff] at h
    obtain ⟨x, hx, y, hy, h⟩ := h
    obtain ⟨hx, rfl⟩ := of_digit? hx
    obtain ⟨hy, rfl⟩ := of_digit? hy
    split at h
    · cases h
      have h₁ : (x * 4 + y / 16) / 4 = x := by omega
      have h₂ : (x * 4 + y / 16) % 4 * 16 = y := by omega
      rw [encode, toNat_byte (by omega), h₁, h₂]
    · cases h
  | case4 a b c =>
    simp only [decode?, Option.bind_eq_bind, Option.bind_eq_some_iff] at h
    obtain ⟨x, hx, y, hy, z, hz, h⟩ := h
    obtain ⟨hx, rfl⟩ := of_digit? hx
    obtain ⟨hy, rfl⟩ := of_digit? hy
    obtain ⟨hz, rfl⟩ := of_digit? hz
    split at h
    · cases h
      have h₁ : (x * 4 + y / 16) / 4 = x := by omega
      have h₂ : (x * 4 + y / 16) % 4 * 16 + (y % 16 * 16 + z / 4) / 16 = y := by omega
      have h₃ : (y % 16 * 16 + z / 4) % 16 * 4 = z := by omega
      rw [encode, toNat_byte (by omega), toNat_byte (by omega), h₁, h₂, h₃]
    · cases h
  | case5 a b c d rest ih =>
    simp only [decode?, Option.bind_eq_bind, Option.bind_eq_some_iff] at h
    obtain ⟨x, hx, y, hy, z, hz, w, hw, more, hmore, h⟩ := h
    obtain ⟨hx, rfl⟩ := of_digit? hx
    obtain ⟨hy, rfl⟩ := of_digit? hy
    obtain ⟨hz, rfl⟩ := of_digit? hz
    obtain ⟨hw, rfl⟩ := of_digit? hw
    cases h
    have h₁ : (x * 4 + y / 16) / 4 = x := by omega
    have h₂ : (x * 4 + y / 16) % 4 * 16 + (y % 16 * 16 + z / 4) / 16 = y := by omega
    have h₃ : (y % 16 * 16 + z / 4) % 16 * 4 + (z % 4 * 64 + w) / 64 = z := by omega
    have h₄ : (z % 4 * 64 + w) % 64 = w := by omega
    rw [encode, ih hmore, toNat_byte (by omega), toNat_byte (by omega), toNat_byte (by omega), h₁,
      h₂, h₃, h₄]

theorem decode?_encode (bs : Bytes) : decode? (encode bs) = some bs := by
  have hbyte : ∀ (b : UInt8) (n : Nat), n = b.toNat → UInt8.ofNat n = b := by
    rintro b n rfl
    exact UInt8.ofNat_toNat
  induction bs using encode.induct with
  | case1 => rfl
  | case2 a =>
    have ha := a.toNat_lt
    simp only [encode, decode?, digit?_digit_of_lt (show a.toNat / 4 < 64 by omega),
      digit?_digit_of_lt (show a.toNat % 4 * 16 < 64 by omega), Option.bind_eq_bind,
      Option.bind_some]
    rw [if_pos (by omega), hbyte a _ (by omega)]
  | case3 a b =>
    have ha := a.toNat_lt
    have hb := b.toNat_lt
    simp only [encode, decode?, digit?_digit_of_lt (show a.toNat / 4 < 64 by omega),
      digit?_digit_of_lt (show a.toNat % 4 * 16 + b.toNat / 16 < 64 by omega),
      digit?_digit_of_lt (show b.toNat % 16 * 4 < 64 by omega), Option.bind_eq_bind,
      Option.bind_some]
    rw [if_pos (by omega), hbyte a _ (by omega), hbyte b _ (by omega)]
  | case4 a b c rest ih =>
    have ha := a.toNat_lt
    have hb := b.toNat_lt
    have hc := c.toNat_lt
    simp only [encode, decode?, digit?_digit_of_lt (show a.toNat / 4 < 64 by omega),
      digit?_digit_of_lt (show a.toNat % 4 * 16 + b.toNat / 16 < 64 by omega),
      digit?_digit_of_lt (show b.toNat % 16 * 4 + c.toNat / 64 < 64 by omega),
      digit?_digit_of_lt (show c.toNat % 64 < 64 by omega), ih, Option.bind_eq_bind,
      Option.bind_some]
    rw [hbyte a _ (by omega), hbyte b _ (by omega), hbyte c _ (by omega)]

theorem decode?_eq_some_iff {t : Text} {bs : Bytes} : decode? t = some bs ↔ t = encode bs := by
  constructor
  · exact fun h => (encode_of_decode? h).symm
  · rintro rfl
    exact decode?_encode bs

theorem dot_not_mem_encode (bs : Bytes) : '.' ∉ encode bs := by
  induction bs using encode.induct with
  | case1 => exact List.not_mem_nil
  | case2 a => simp [encode, (digit_ne_dot _).symm]
  | case3 a b => simp [encode, (digit_ne_dot _).symm]
  | case4 a b c rest ih => simp [encode, (digit_ne_dot _).symm, ih]

end MediaPerimeter.Base64Url
