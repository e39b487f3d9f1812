import MediaPerimeter.Proofs.Json.Strings

/-!
# Numbers

A number that is passed over is a numeral, and an integer that is read is its own decimal text.
Where a numeral ends is seen from what follows it.
-/
namespace MediaPerimeter.Json

open Outcome

namespace Number

theorem digits_takeWhile {t : Bytes} (h : t.takeWhile isDigit ≠ []) :
    Digits (t.takeWhile isDigit) := ⟨h, fun _ hd => List.all_eq_true.mp List.all_takeWhile _ hd⟩

theorem takeWhile_digits {ds rest : Bytes} (h : ∀ d ∈ ds, isDigit d = true)
    (hrest : ∀ b ∈ rest.head?, isDigit b = false) :
    (ds ++ rest).takeWhile isDigit = ds ∧ (ds ++ rest).dropWhile isDigit = rest := by
  rw [List.takeWhile_append_of_pos h, List.dropWhile_append_of_pos h]
  cases rest with
  | nil => exact ⟨List.append_nil ds, rfl⟩
  | cons b more =>
    have hb : ¬ isDigit b = true := by simp [hrest b rfl]
    rw [List.takeWhile_cons_of_neg hb, List.dropWhile_cons_of_neg hb]
    exact ⟨List.append_nil ds, rfl⟩

theorem of_skipPower {t rest : Bytes} (h : skip.skipPower t = .ok rest) :
    ∃ sign ds, (sign = [] ∨ sign = [0x2b] ∨ sign = [0x2d]) ∧ Digits ds ∧
      t = sign ++ ds ++ rest := by
  have hrun : ∀ u : Bytes, (if u.takeWhile isDigit = [] then malformedAt .invalidNumber u
      else .ok (u.dropWhile isDigit)) = Except.ok rest →
      Digits (u.takeWhile isDigit) ∧ u = u.takeWhile isDigit ++ rest := by
    intro u hu
    split at hu
    · cases hu
    · rename_i hne
      cases hu
      exact ⟨digits_takeWhile hne, List.takeWhile_append_dropWhile.symm⟩
  unfold skip.skipPower at h
  dsimp only at h
  split at h
  · rename_i u
    obtain ⟨hds, hu⟩ := hrun u h
    exact ⟨[0x2b], _, .inr (.inl rfl), hds, congrArg (0x2b :: ·) hu⟩
  · rename_i u
    obtain ⟨hds, hu⟩ := hrun u h
    exact ⟨[0x2d], _, .inr (.inr rfl), hds, congrArg (0x2d :: ·) hu⟩
  · obtain ⟨hds, hu⟩ := hrun t h
    exact ⟨[], _, .inl rfl, hds, hu⟩

theorem of_skipExponent {t rest : Bytes} (h : skip.skipExponent t = .ok rest) :
    ∃ power, Power power ∧ t = power ++ rest := by
  unfold skip.skipExponent at h
  split at h
  · obtain ⟨sign, ds, hsign, hds, rfl⟩ := of_skipPower h
    exact ⟨_, .inr ⟨0x65, sign, ds, .inl rfl, hsign, hds, rfl⟩, rfl⟩
  · obtain ⟨sign, ds, hsign, hds, rfl⟩ := of_skipPower h
    exact ⟨_, .inr ⟨0x45, sign, ds, .inr rfl, hsign, hds, rfl⟩, rfl⟩
  · cases h
    exact ⟨[], .inl rfl, rfl⟩

theorem of_skipFraction {t rest : Bytes} (h : skip.skipFraction t = .ok rest) :
    ∃ fraction power, Fraction fraction ∧ Power power ∧ t = fraction ++ power ++ rest := by
  unfold skip.skipFraction at h
  split at h
  · rename_i u
    split at h
    · cases h
    · rename_i hne
      obtain ⟨power, hpower, hu⟩ := of_skipExponent h
      refine ⟨_, power, .inr ⟨_, digits_takeWhile hne, rfl⟩, hpower, ?_⟩
      rw [List.append_assoc, ← hu, List.cons_append, List.takeWhile_append_dropWhile]
  · obtain ⟨power, hpower, rfl⟩ := of_skipExponent h
    exact ⟨[], power, .inl rfl, hpower, rfl⟩

/-- The digits in front of a fraction or an exponent. -/
theorem whole_of_takeWhile {t : Bytes} (hne : t.takeWhile isDigit ≠ [])
    (hzero : ∀ d more, t.takeWhile isDigit ≠ 0x30 :: d :: more) : Whole (t.takeWhile isDigit) := by
  refine ⟨digits_takeWhile hne, fun hhead => ?_⟩
  obtain ⟨tail, htail⟩ := List.head?_eq_some_iff.mp hhead
  cases tail with
  | nil => exact htail
  | cons d more => exact absurd htail (hzero d more)

def skipUnsigned (t : Bytes) : Except Fault Bytes :=
  match t.takeWhile isDigit with
  | [] => malformedAt .invalidNumber t
  | 0x30 :: _ :: _ => malformedAt .invalidNumber (t.drop 1)
  | _ => skip.skipFraction (t.dropWhile isDigit)

theorem skip_eq (t : Bytes) : skip t = skipUnsigned (match t with
    | 0x2d :: rest => rest
    | _ => t) := rfl

theorem of_skipUnsigned {t rest : Bytes} (h : skipUnsigned t = .ok rest) :
    ∃ whole fraction power, Whole whole ∧ Fraction fraction ∧ Power power ∧
      t = whole ++ fraction ++ power ++ rest := by
  unfold skipUnsigned at h
  split at h
  · cases h
  · cases h
  · rename_i hne hzero
    obtain ⟨fraction, power, hfraction, hpower, hrest⟩ := of_skipFraction h
    refine ⟨_, fraction, power, whole_of_takeWhile hne hzero, hfraction, hpower, ?_⟩
    rw [List.append_assoc, List.append_assoc, ← List.append_assoc fraction, ← hrest,
      List.takeWhile_append_dropWhile]

theorem of_skip {t rest : Bytes} (h : skip t = .ok rest) : ∃ v, Numeral v ∧ t = v ++ rest := by
  rw [skip_eq] at h
  split at h
  · rename_i u
    obtain ⟨whole, fraction, power, hwhole, hfraction, hpower, rfl⟩ := of_skipUnsigned h
    refine ⟨_, .parts (.inr rfl) hwhole hfraction hpower, ?_⟩
    simp only [List.append_assoc, List.cons_append, List.nil_append]
  · obtain ⟨whole, fraction, power, hwhole, hfraction, hpower, rfl⟩ := of_skipUnsigned h
    exact ⟨_, .parts (.inl rfl) hwhole hfraction hpower, rfl⟩

theorem skipPower_eq {sign ds rest : Bytes} (hsign : sign = [] ∨ sign = [0x2b] ∨ sign = [0x2d])
    (hds : Digits ds) (hrest : ∀ b ∈ rest.head?, isDigit b = false) :
    skip.skipPower (sign ++ ds ++ rest) = .ok rest := by
  obtain ⟨htake, hdrop⟩ := takeWhile_digits hds.2 hrest
  have hrun : ∀ u, u = ds ++ rest → (if u.takeWhile isDigit = [] then malformedAt .invalidNumber u
      else Except.ok (u.dropWhile isDigit)) = .ok rest := by
    rintro u rfl
    rw [htake, hdrop, if_neg hds.1]
  unfold skip.skipPower
  rcases hsign with rfl | rfl | rfl
  · refine hrun _ ?_
    cases ds with
    | nil => exact absurd rfl hds.1
    | cons d more =>
      have hd := hds.2 d List.mem_cons_self
      split
      · rename_i heq
        cases heq
        cases hd
      · rename_i heq
        cases heq
        cases hd
      · rfl
  · exact hrun _ rfl
  · exact hrun _ rfl

theorem skipExponent_eq {power rest : Bytes} (hpower : Power power) (hrest : EndsNumber rest) :
    skip.skipExponent (power ++ rest) = .ok rest := by
  rcases hpower with rfl | ⟨e, sign, ds, he, hsign, hds, rfl⟩
  · unfold skip.skipExponent
    split
    · rename_i heq
      rw [List.nil_append] at heq
      exact absurd rfl (hrest 0x65 (heq ▸ rfl)).2.2.1
    · rename_i heq
      rw [List.nil_append] at heq
      exact absurd rfl (hrest 0x45 (heq ▸ rfl)).2.2.2
    · rfl
  · have hdigits := skipPower_eq hsign hds fun b hb => (hrest b hb).1
    rcases he with rfl | rfl
    · exact hdigits
    · exact hdigits

theorem noDigit_power {power rest : Bytes} (hpower : Power power) (hrest : EndsNumber rest) :
    ∀ b ∈ (power ++ rest).head?, isDigit b = false ∧ b ≠ 0x2e := by
  rcases hpower with rfl | ⟨e, sign, ds, he, -, -, rfl⟩
  · exact fun b hb => ⟨(hrest b hb).1, (hrest b hb).2.1⟩
  · intro b hb
    cases hb
    rcases he with rfl | rfl <;> decide

theorem skipFraction_eq {fraction power rest : Bytes} (hfraction : Fraction fraction)
    (hpower : Power power) (hrest : EndsNumber rest) :
    skip.skipFraction (fraction ++ power ++ rest) = .ok rest := by
  have hnext := noDigit_power hpower hrest
  rw [List.append_assoc]
  rcases hfraction with rfl | ⟨ds, hds, rfl⟩
  · unfold skip.skipFraction
    split
    · rename_i heq
      rw [List.nil_append] at heq
      exact absurd rfl (hnext 0x2e (heq ▸ rfl)).2
    · exact skipExponent_eq hpower hrest
  · obtain ⟨htake, hdrop⟩ := takeWhile_digits hds.2 fun b hb => (hnext b hb).1
    rw [List.cons_append, skip.skipFraction, htake, hdrop, if_neg hds.1,
      skipExponent_eq hpower hrest]

theorem noDigit_fraction {fraction power rest : Bytes} (hfraction : Fraction fraction)
    (hpower : Power power) (hrest : EndsNumber rest) :
    ∀ b ∈ (fraction ++ power ++ rest).head?, isDigit b = false := by
  rw [List.append_assoc]
  rcases hfraction with rfl | ⟨ds, -, rfl⟩
  · exact fun b hb => (noDigit_power hpower hrest b hb).1
  · intro b hb
    cases hb
    rfl

theorem skipUnsigned_eq {whole fraction power rest : Bytes} (hwhole : Whole whole)
    (hfraction : Fraction fraction) (hpower : Power power) (hrest : EndsNumber rest) :
    skipUnsigned (whole ++ (fraction ++ power ++ rest)) = .ok rest := by
  obtain ⟨htake, hdrop⟩ := takeWhile_digits hwhole.1.2 (noDigit_fraction hfraction hpower hrest)
  unfold skipUnsigned
  rw [htake, hdrop]
  split
  · exact absurd rfl hwhole.1.1
  · have hzero := hwhole.2 rfl
    cases hzero
  · exact skipFraction_eq hfraction hpower hrest

theorem ne_minus_of_digits {ds rest : Bytes} (h : Digits ds) :
    ∀ more, ds ++ rest ≠ 0x2d :: more := by
  rintro more heq
  cases ds with
  | nil => exact h.1 rfl
  | cons d tail =>
    cases heq
    exact absurd (h.2 0x2d List.mem_cons_self) (by decide)

/-- A numeral is passed over when what follows it does not go on with it. -/
theorem skip_numeral {v rest : Bytes} (h : Numeral v) (hrest : EndsNumber rest) :
    skip (v ++ rest) = .ok rest := by
  cases h with
  | @parts sign whole fraction power hsign hwhole hfraction hpower =>
    have hunsigned := skipUnsigned_eq hwhole hfraction hpower hrest
    rw [skip_eq]
    simp only [List.append_assoc] at hunsigned ⊢
    rcases hsign with rfl | rfl
    · split
      · rename_i heq
        exact absurd heq (ne_minus_of_digits hwhole.1 _)
      · exact hunsigned
    · exact hunsigned

def value (ds : Bytes) : Nat := ds.foldl (fun n d => n * 10 + digit d) 0

theorem value_append (ds : Bytes) (d : UInt8) : value (ds ++ [d]) = value ds * 10 + digit d := by
  simp only [value, List.foldl_append, List.foldl_cons, List.foldl_nil]

theorem gather_all {s n : Nat} {ds : Bytes} (h : gather s ds = (n, [])) :
    n = ds.foldl (fun n d => n * 10 + digit d) s := by
  induction ds generalizing s with
  | nil =>
    cases h
    rfl
  | cons d ds ih =>
    rw [gather] at h
    split at h
    · exact ih h
    · cases h

theorem toNat_of_isDigit {d : UInt8} (h : isDigit d = true) : 48 ≤ d.toNat ∧ d.toNat ≤ 57 := by
  simpa [isDigit, UInt8.le_iff_toNat_le] using h

theorem digitChar_digit {d : UInt8} (h : isDigit d = true) :
    digit d < 10 ∧ String.utf8EncodeChar (Nat.digitChar (digit d)) = [d] := by
  have hrange := toNat_of_isDigit h
  have hall : ∀ i : Fin 10, String.utf8EncodeChar (Nat.digitChar i.val) = [.ofNat (i.val + 48)] := by
    decide
  have hlt : digit d < 10 := by
    simp only [digit]
    omega
  refine ⟨hlt, ?_⟩
  have hdigit := hall ⟨digit d, hlt⟩
  dsimp only at hdigit
  rw [hdigit, @Utf8.ofNat_eq d]
  simp only [digit]
  omega

/-- A number in front of whose digits stands no zero is written with these digits. The last digit
comes off the end. -/
theorem encode_text_value {ds : Bytes} (h : Digits ds) (hzero : ds.head? ≠ some 0x30) :
    0 < value ds ∧ Utf8.encode (Decimal.text (value ds)) = ds := by
  induction hlength : ds.length generalizing ds with
  | zero => exact absurd (List.length_eq_zero_iff.mp hlength) h.1
  | succ n ih =>
    obtain rfl | ⟨init, d, rfl⟩ := List.eq_nil_or_concat ds
    · exact absurd rfl h.1
    rw [List.concat_eq_append] at h hzero hlength ⊢
    have hd := h.2 d (List.mem_append_right _ List.mem_cons_self)
    obtain ⟨hlt, hchar⟩ := digitChar_digit hd
    rw [value_append]
    by_cases hinit : init = []
    · subst hinit
      have hfirst : d ≠ 0x30 := fun heq => hzero (congrArg some heq)
      have hne : d.toNat ≠ (0x30 : UInt8).toNat := fun heq => hfirst (UInt8.toNat_inj.mp heq)
      have hbyte : (0x30 : UInt8).toNat = 48 := rfl
      have hpos : 0 < digit d := by
        have hrange := toNat_of_isDigit hd
        simp only [digit]
        omega
      have hvalue : value [] * 10 + digit d = digit d := by simp [value]
      rw [hvalue, Decimal.text, Nat.toDigits_of_lt_base hlt]
      exact ⟨hpos, by rw [Utf8.encode, List.flatMap_singleton, hchar]; rfl⟩
    · have hhead : init.head? ≠ some 0x30 := by
        intro heq
        refine hzero ?_
        rw [List.head?_append, heq]
        rfl
      have hdigits : Digits init := ⟨hinit, fun b hb => h.2 b (List.mem_append_left _ hb)⟩
      obtain ⟨hpos, htext⟩ := ih hdigits hhead (by simpa using hlength)
      have hdiv : (value init * 10 + digit d) / 10 = value init := by omega
      have hmod : (value init * 10 + digit d) % 10 = digit d := by omega
      refine ⟨by omega, ?_⟩
      rw [Decimal.text, Nat.toDigits_of_base_le (by omega) (by omega), hdiv, hmod, Utf8.encode,
        List.flatMap_append, List.flatMap_singleton, hchar]
      exact congrArg (· ++ [d]) htext

theorem encode_text_whole {ds : Bytes} (h : Whole ds) :
    Utf8.encode (Decimal.text (value ds)) = ds := by
  by_cases hzero : ds.head? = some 0x30
  · rw [h.2 hzero]
    rfl
  · exact (encode_text_value h.1 hzero).2

def IsFloat (n : Number) : Prop := ∃ x, n = .float x

theorem ofParts_float {negative : Bool} {significand : Nat} {e : Int} {t rest : Bytes} {n : Number}
    (h : ofParts negative significand e t = .ok (n, rest)) : IsFloat n := by
  unfold ofParts at h
  split at h
  · cases h
    exact ⟨_, rfl⟩
  · cases h

def power (negative : Bool) (significand : Nat) (e : Int) (down : Bool) (t : Bytes) :
    Except Fault (Number × Bytes) :=
  let ds := t.takeWhile isDigit
  let rest := t.dropWhile isDigit
  if t = [] then malformed .endInValue t
  else if ds = [] then malformedAt .invalidNumber t
  else match exponentValue 0 ds with
    | .ok n => ofParts negative significand (if down then e - n else e + n) rest
    | .error left =>
      if significand ≠ 0 ∧ !down then malformed .numberOutOfRange (left ++ rest)
      else .ok (signed negative 0, rest)

theorem exponent_eq (negative : Bool) (significand : Nat) (e : Int) (t : Bytes) :
    ∃ down u, exponent negative significand e t = power negative significand e down u :=
  ⟨_, _, rfl⟩

theorem exponent_float {negative : Bool} {significand : Nat} {e : Int} {t rest : Bytes} {n : Number}
    (h : exponent negative significand e t = .ok (n, rest)) : IsFloat n := by
  obtain ⟨down, u, heq⟩ := exponent_eq negative significand e t
  rw [heq] at h
  unfold power at h
  dsimp only at h
  split at h
  · cases h
  split at h
  · cases h
  split at h
  · exact ofParts_float h
  split at h
  · cases h
  · cases h
    exact ⟨_, rfl⟩

theorem afterDigits_cases {negative : Bool} {significand : Nat} {e : Int} {t rest : Bytes}
    {otherwise : Except Fault (Number × Bytes)} {n : Number}
    (h : afterDigits negative significand e t otherwise = .ok (n, rest)) :
    IsFloat n ∨ otherwise = .ok (n, rest) := by
  unfold afterDigits at h
  split at h
  · exact .inl (exponent_float h)
  · exact .inl (exponent_float h)
  · exact .inr h

theorem fraction_float {negative : Bool} {significand : Nat} {e : Int} {t rest : Bytes} {n : Number}
    (h : fraction negative significand e t = .ok (n, rest)) : IsFloat n := by
  unfold fraction at h
  dsimp only at h
  split at h
  · split at h <;> cases h
  · rcases afterDigits_cases h with hfloat | hparts
    · exact hfloat
    · exact ofParts_float hparts

/-- A number that is read without its sign is a fraction, or its digits are its text. -/
theorem of_unsigned {negative : Bool} {t rest : Bytes} {n : Number}
    (h : unsigned negative t = .ok (n, rest)) :
    IsFloat n ∨ ∃ ds, Whole ds ∧ t = ds ++ rest ∧ n = ofInteger negative (value ds) := by
  unfold unsigned at h
  dsimp only at h
  split at h
  · split at h <;> cases h
  · cases h
  · rename_i hne hzero
    split at h
    · exact .inl (fraction_float h)
    rcases afterDigits_cases h with hfloat | h
    · exact .inl hfloat
    split at h
    · rename_i hleft
      have hvalue := gather_all (Prod.ext rfl hleft)
      cases h
      refine .inr ⟨_, whole_of_takeWhile hne hzero, List.takeWhile_append_dropWhile.symm, ?_⟩
      exact congrArg (ofInteger negative) hvalue
    · exact .inl (ofParts_float h)

theorem of_read {t rest : Bytes} {n : Number} (h : read t = .ok (n, rest)) :
    IsFloat n ∨ (∃ ds, Whole ds ∧ t = ds ++ rest ∧ n = .nonneg (value ds)) ∨
      ∃ ds, Whole ds ∧ t = 0x2d :: ds ++ rest ∧ n = ofInteger true (value ds) := by
  unfold read at h
  split at h
  · rcases of_unsigned h with hfloat | ⟨ds, hds, rfl, hn⟩
    · exact .inl hfloat
    · exact .inr (.inr ⟨ds, hds, rfl, hn⟩)
  · rcases of_unsigned h with hfloat | ⟨ds, hds, ht, hn⟩
    · exact .inl hfloat
    · exact .inr (.inl ⟨ds, hds, ht, hn⟩)

theorem of_ofInteger {n m : Nat} (h : ofInteger true n = .negative m) : n = m ∧ m ≠ 0 := by
  unfold ofInteger at h
  split at h
  · cases h
  split at h
  · cases h
  · rename_i hn
    cases h
    exact ⟨rfl, fun hzero => hn (.inl hzero)⟩

theorem ofInteger_ne_nonneg (n m : Nat) : ofInteger true n ≠ .nonneg m := by
  unfold ofInteger
  split
  · rename_i h
    cases h
  split
  · nofun
  · nofun

theorem numeral_of_whole {sign ds : Bytes} (hsign : sign = [] ∨ sign = [0x2d]) (h : Whole ds) :
    Numeral (sign ++ ds) := by
  have hnumeral := Numeral.parts hsign h (.inl rfl) (.inl rfl)
  rwa [List.append_nil, List.append_nil] at hnumeral

end Number

theorem isInteger_nonneg {ds : Bytes} (h : Whole ds) : IsInteger ds (Number.value ds : Nat) :=
  (Number.encode_text_whole h).symm

theorem isInteger_negative {ds : Bytes} (h : Whole ds) (hne : Number.value ds ≠ 0) :
    IsInteger (0x2d :: ds) (-(Number.value ds : Nat)) := by
  obtain ⟨m, hm⟩ := Nat.exists_eq_succ_of_ne_zero hne
  have hds := Number.encode_text_whole h
  rw [hm] at hds ⊢
  rw [IsInteger, ← hds]
  rfl

theorem read_of_integer {t rest : Bytes} {n : Int} (h : Read.integer t = .ok (n, rest)) :
    ∃ b u number, Blanks t (b :: u) ∧ (b = 0x2d ∨ Number.isDigit b = true) ∧
      Number.read (b :: u) = .ok (number, rest) ∧
      ((∃ m : Nat, number = .nonneg m ∧ n = m) ∨ ∃ m : Nat, number = .negative m ∧ n = -m) := by
  obtain ⟨b, u, hblanks, -, h⟩ := value_eq_ok_iff.mp h
  split at h
  case isFalse => cases h
  rename_i hstart
  have hb : b = 0x2d ∨ Number.isDigit b = true := hstart.imp_left fun hb => Option.some.inj hb
  obtain ⟨⟨number, u'⟩, hread, h⟩ := bind_eq_ok_iff.mp h
  cases number with
  | nonneg m =>
    dsimp only at h
    split at h
    · cases h
      exact ⟨b, u, _, hblanks, hb, hread, .inl ⟨m, rfl, rfl⟩⟩
    · cases h
  | negative m =>
    cases h
    exact ⟨b, u, _, hblanks, hb, hread, .inr ⟨m, rfl, rfl⟩⟩
  | float x => cases h

/-- An integer that is read is written without an exponent and without needless zeros. -/
theorem of_integer {t rest : Bytes} {n : Int} (h : Read.integer t = .ok (n, rest)) :
    ∃ v, Blanks t (v ++ rest) ∧ Value (v ++ rest) rest ∧ IsInteger v n := by
  obtain ⟨b, u, number, hblanks, -, hread, hnumber⟩ := read_of_integer h
  rcases Number.of_read hread with ⟨x, rfl⟩ | ⟨ds, hds, hu, rfl⟩ | ⟨ds, hds, hu, rfl⟩
  · rcases hnumber with ⟨m, heq, -⟩ | ⟨m, heq, -⟩
    · cases heq
    · cases heq
  · rcases hnumber with ⟨m, heq, rfl⟩ | ⟨m, heq, -⟩
    · cases heq
      have hnumeral := Number.numeral_of_whole (.inl rfl) hds
      exact ⟨ds, hu ▸ hblanks, .scalar (.number hnumeral), isInteger_nonneg hds⟩
    · cases heq
  · rcases hnumber with ⟨m, heq, -⟩ | ⟨m, heq, rfl⟩
    · exact absurd heq (Number.ofInteger_ne_nonneg _ _)
    · obtain ⟨rfl, hne⟩ := Number.of_ofInteger heq
      have hnumeral := Number.numeral_of_whole (.inr rfl) hds
      exact ⟨0x2d :: ds, hu ▸ hblanks, .scalar (.number hnumeral), isInteger_negative hds hne⟩

end MediaPerimeter.Json
