import MediaPerimeter.Proofs.Json.Grammar
import MediaPerimeter.Proofs.Outcome
import MediaPerimeter.Proofs.Text.Utf8

/-!
# Strings and blanks

The readers of strings take exactly what the grammar calls a string. The closing mark ends it, so
what follows does not matter.
-/
namespace MediaPerimeter.Json

open Read Outcome

theorem Blanks.refl (t : Bytes) : Blanks t t := ⟨[], rfl, List.forall_mem_nil _⟩

theorem Blanks.length_le {t rest : Bytes} (h : Blanks t rest) : rest.length ≤ t.length := by
  obtain ⟨ws, rfl, -⟩ := h
  rw [List.length_append]
  exact Nat.le_add_left _ _

theorem blanks_skipBlanks (t : Bytes) : Blanks t (skipBlanks t) :=
  ⟨t.takeWhile Read.isBlank, List.takeWhile_append_dropWhile.symm,
    fun _ hb => List.all_eq_true.mp List.all_takeWhile _ hb⟩

theorem blanks_of_skipBlanks {t rest : Bytes} (h : skipBlanks t = rest) : Blanks t rest :=
  h ▸ blanks_skipBlanks t

theorem Blanks.skipBlanks_eq {t rest : Bytes} (h : Blanks t rest) :
    skipBlanks t = skipBlanks rest := by
  obtain ⟨ws, rfl, hws⟩ := h
  exact List.dropWhile_append_of_pos hws

theorem skipBlanks_cons {b : UInt8} (h : Read.isBlank b = false) (rest : Bytes) :
    skipBlanks (b :: rest) = b :: rest :=
  List.dropWhile_cons_of_neg (by simp [h])

theorem Blanks.skipBlanks_eq_cons {t rest : Bytes} {b : UInt8} (h : Blanks t (b :: rest))
    (hb : Read.isBlank b = false) : skipBlanks t = b :: rest := by
  rw [h.skipBlanks_eq, skipBlanks_cons hb]

theorem isBlank_of_skipBlanks {t rest : Bytes} {b : UInt8} (h : skipBlanks t = b :: rest) :
    Read.isBlank b = false := by
  have hhead := List.head?_dropWhile_not Read.isBlank t
  have hdrop : List.dropWhile Read.isBlank t = b :: rest := h
  rw [hdrop] at hhead
  exact hhead

theorem Blanks.trans {t u rest : Bytes} (h : Blanks t u) (h' : Blanks u rest) : Blanks t rest := by
  obtain ⟨ws, rfl, hws⟩ := h
  obtain ⟨ws', rfl, hws'⟩ := h'
  refine ⟨ws ++ ws', by rw [List.append_assoc], ?_⟩
  exact List.forall_mem_append.mpr ⟨hws, hws'⟩

theorem Blanks.value_eq {α : Type} {t u : Bytes} {b : UInt8} (h : Blanks t (b :: u))
    (hb : Read.isBlank b = false) (read : Reader α) : value read t = read (b :: u) := by
  unfold value
  rw [h.skipBlanks_eq_cons hb]

theorem value_eq_ok_iff {α : Type} {read : Reader α} {t rest : Bytes} {x : α} :
    value read t = .ok (x, rest) ↔
      ∃ b u, Blanks t (b :: u) ∧ Read.isBlank b = false ∧ read (b :: u) = .ok (x, rest) := by
  constructor
  · intro h
    unfold value at h
    split at h
    · cases h
    · rename_i b u hskip
      exact ⟨b, u, blanks_of_skipBlanks hskip, isBlank_of_skipBlanks hskip, h⟩
  · rintro ⟨b, u, hblanks, hb, h⟩
    exact (hblanks.value_eq hb read).trans h

theorem hexNumber_eq_ok_iff {t : Bytes} {n : Nat} :
    hexNumber t = .ok n ↔ Hex4 t n (t.drop 4) := by
  constructor
  · intro h
    unfold hexNumber at h
    split at h
    · split at h
      · rename_i hhigh hlow
        cases h
        exact .digits hhigh hlow
      · cases h
    · cases h
  · intro h
    cases h with
    | digits hhigh hlow => simp only [hexNumber, hhigh, hlow]

theorem Hex4.drop_eq {t rest : Bytes} {n : Nat} (h : Hex4 t n rest) : t.drop 4 = rest := by
  cases h
  rfl

theorem Hex4.hexNumber_eq {t rest : Bytes} {n : Nat} (h : Hex4 t n rest) :
    hexNumber t = .ok n := hexNumber_eq_ok_iff.mpr (h.drop_eq ▸ h)

theorem numberEscape_eq {t rest : Bytes} {n : Nat} (h : Hex4 t n rest)
    (hlead : isLeading n = false) (htrail : isTrailing n = false) :
    numberEscape t = .ok (Utf8.encode [Char.ofNat n], 4) := by
  refine bind_eq_ok_iff.mpr ⟨n, h.hexNumber_eq, ?_⟩
  rw [htrail, hlead]
  rfl

theorem isTrailing_of_isLeading {n : Nat} (h : isLeading n = true) : isTrailing n = false := by
  simp only [isLeading, isTrailing, Bool.and_eq_true, Bool.and_eq_false_iff, decide_eq_true_eq,
    decide_eq_false_iff_not] at h ⊢
  omega

theorem numberEscape_pair {t u rest : Bytes} {high low : Nat}
    (h : Hex4 t high (0x5c :: 0x75 :: u)) (hlead : isLeading high = true) (h' : Hex4 u low rest)
    (htrail : isTrailing low = true) :
    numberEscape t = .ok (Utf8.encode [pairChar high low], 10) := by
  refine bind_eq_ok_iff.mpr ⟨high, h.hexNumber_eq, ?_⟩
  rw [isTrailing_of_isLeading hlead, hlead, h.drop_eq]
  refine bind_eq_ok_iff.mpr ⟨low, h'.hexNumber_eq, ?_⟩
  rw [htrail]
  rfl

/-- An escape by number is that of one character or of a pair of surrogates. -/
theorem of_numberEscape {t bs : Bytes} {count : Nat} (h : numberEscape t = .ok (bs, count)) :
    (∃ n, Hex4 t n (t.drop 4) ∧ isLeading n = false ∧ isTrailing n = false ∧
      bs = Utf8.encode [Char.ofNat n] ∧ count = 4) ∨
    (∃ high u low, Hex4 t high (0x5c :: 0x75 :: u) ∧ isLeading high = true ∧
      Hex4 u low (t.drop 10) ∧ isTrailing low = true ∧
      bs = Utf8.encode [pairChar high low] ∧ count = 10) := by
  obtain ⟨n, hn, h⟩ := bind_eq_ok_iff.mp h
  have hdigits := hexNumber_eq_ok_iff.mp hn
  split at h
  · cases h
  rename_i htrail
  split at h
  · rename_i hlead
    cases h
    exact .inl ⟨n, hdigits, by simpa using hlead, eq_false_of_ne_true htrail, rfl, rfl⟩
  rename_i hlead
  split at h
  · cases h
  · cases h
  · rename_i u hdrop
    obtain ⟨low, hlow, h⟩ := bind_eq_ok_iff.mp h
    have hsecond := hexNumber_eq_ok_iff.mp hlow
    split at h
    · rename_i hlow
      obtain ⟨hbs, hcount⟩ := Prod.mk.inj (Except.ok.inj h)
      have hrest : u.drop 4 = t.drop 10 := by
        have hsplit : t.drop 10 = (t.drop 4).drop 6 := by rw [List.drop_drop]
        rw [hsplit, hdrop]
        rfl
      exact .inr ⟨n, u, low, hdrop ▸ hdigits, by simpa using hlead, hrest ▸ hsecond, hlow, hbs.symm,
        hcount.symm⟩
    · cases h
  · cases h
  · cases h

theorem spells_of_escaped {t bs bs' rest : Bytes} {count : Nat}
    (h : escaped false t = .ok (bs, count)) (more : Spells (t.drop count) bs' rest) :
    Spells (0x5c :: t) (bs ++ bs') rest := by
  unfold escaped at h
  split at h
  · cases h
  rename_i b t
  split at h
  · rename_i hb
    subst hb
    rw [if_neg Bool.false_ne_true] at h
    obtain ⟨⟨x, n⟩, hx, h⟩ := map_eq_ok_iff.mp h
    cases h
    rcases of_numberEscape hx with ⟨n, hdigits, hlead, htrail, hbs, hcount⟩ |
      ⟨high, u, low, hfirst, hlead, hsecond, htrail, hbs, hcount⟩
    · subst hcount
      rw [hbs]
      exact .number hdigits hlead htrail more
    · subst hcount
      dsimp only
      rw [hbs]
      exact .pair hfirst hlead hsecond htrail more
  · split at h
    · rename_i x hshort
      cases h
      exact .short hshort more
    · cases h

theorem spells_of_stringBytes {t bs rest : Bytes} (h : stringBytes false t = .ok (bs, rest)) :
    Spells t bs rest := by
  induction t using stringBytes.induct false generalizing bs with
  | case1 =>
    rw [stringBytes] at h
    cases h
  | case2 more =>
    rw [stringBytes, if_pos rfl] at h
    cases h
    exact .close
  | case3 more f hescaped hmark =>
    rw [stringBytes, if_neg hmark, if_pos rfl, hescaped] at h
    cases h
  | case4 more bs' count hescaped hmark ih =>
    rw [stringBytes, if_neg hmark, if_pos rfl, hescaped] at h
    obtain ⟨⟨tail, _⟩, htail, h⟩ := map_eq_ok_iff.mp h
    cases h
    exact spells_of_escaped hescaped (ih htail)
  | case5 b more hmark hslash hcontrol =>
    rw [stringBytes, if_neg hmark, if_neg hslash, if_pos hcontrol] at h
    cases h
  | case6 b more hmark hslash hcontrol ih =>
    rw [stringBytes, if_neg hmark, if_neg hslash, if_neg hcontrol] at h
    obtain ⟨⟨tail, _⟩, htail, h⟩ := map_eq_ok_iff.mp h
    cases h
    exact .plain hmark hslash hcontrol (ih htail)

theorem stringBytes_escaped {skimmed : Bool} {t bs u bs' rest : Bytes} {count : Nat}
    (h : escaped skimmed t = .ok (bs, count)) (hdrop : t.drop count = u)
    (more : stringBytes skimmed u = .ok (bs', rest)) :
    stringBytes skimmed (0x5c :: t) = .ok (bs ++ bs', rest) := by
  rw [stringBytes, if_neg (by decide), if_pos rfl, h]
  dsimp only
  rw [hdrop, more]
  rfl

theorem ne_of_shortEscape? {b x : UInt8} (h : shortEscape? b = some x) : b ≠ 0x75 := by
  rintro rfl
  cases h

theorem escaped_short {b x : UInt8} (h : shortEscape? b = some x) (skimmed : Bool) (t : Bytes) :
    escaped skimmed (b :: t) = .ok ([x], 1) := by
  simp only [escaped, if_neg (ne_of_shortEscape? h), h]

theorem escaped_number {t bs : Bytes} {count : Nat} (h : numberEscape t = .ok (bs, count)) :
    escaped false (0x75 :: t) = .ok (bs, count + 1) := by
  rw [escaped, if_pos rfl, if_neg Bool.false_ne_true, h]
  rfl

theorem Spells.stringBytes_eq {t bs rest : Bytes} (h : Spells t bs rest) :
    stringBytes false t = .ok (bs, rest) := by
  induction h with
  | close => rw [stringBytes, if_pos rfl]
  | plain hmark hslash hcontrol _ ih =>
    rw [stringBytes, if_neg hmark, if_neg hslash, if_neg hcontrol, ih]
    rfl
  | short hshort _ ih => exact stringBytes_escaped (escaped_short hshort false _) rfl ih
  | number digits hlead htrail _ ih =>
    refine stringBytes_escaped (escaped_number ?_) digits.drop_eq ih
    exact numberEscape_eq digits hlead htrail
  | @pair t high u low v bs rest first hlead second htrail _ ih =>
    have hdrop : t.drop 10 = v := by
      have hsplit : t.drop 10 = (t.drop 4).drop 6 := by rw [List.drop_drop]
      rw [hsplit, first.drop_eq]
      exact second.drop_eq
    exact stringBytes_escaped (escaped_number (numberEscape_pair first hlead second htrail)) hdrop ih

theorem stringTail_eq_ok_iff {t rest : Bytes} {s : Text} :
    stringTail t = .ok (s, rest) ↔ Spells t (Utf8.encode s) rest := by
  constructor
  · intro h
    obtain ⟨⟨bs, u⟩, hbs, h⟩ := bind_eq_ok_iff.mp h
    dsimp only at h
    cases hdecode : Utf8.decode? bs with
    | none =>
      rw [hdecode] at h
      cases h
    | some s' =>
      rw [hdecode] at h
      cases h
      exact Utf8.decode?_eq_some_iff.mp hdecode ▸ spells_of_stringBytes hbs
  · intro h
    refine bind_eq_ok_iff.mpr ⟨(Utf8.encode s, rest), h.stringBytes_eq, ?_⟩
    dsimp only
    rw [Utf8.decode?_encode]
    rfl

/-- The mark that closes a string ends it, whatever follows. -/
theorem Spells.exists_append {t bs rest : Bytes} (h : Spells t bs rest) :
    ∃ v, t = v ++ rest ∧ ∀ rest', Spells (v ++ rest') bs rest' := by
  induction h with
  | close => exact ⟨[0x22], rfl, fun _ => .close⟩
  | plain hmark hslash hcontrol _ ih =>
    obtain ⟨v, rfl, hv⟩ := ih
    exact ⟨_ :: v, rfl, fun rest' => .plain hmark hslash hcontrol (hv rest')⟩
  | short hshort _ ih =>
    obtain ⟨v, rfl, hv⟩ := ih
    exact ⟨0x5c :: _ :: v, rfl, fun rest' => .short hshort (hv rest')⟩
  | number digits hlead htrail _ ih =>
    obtain ⟨v, rfl, hv⟩ := ih
    cases digits with
    | digits hhigh hlow =>
      exact ⟨0x5c :: 0x75 :: _ :: _ :: _ :: _ :: v, rfl,
        fun rest' => .number (.digits hhigh hlow) hlead htrail (hv rest')⟩
  | pair first hlead second htrail _ ih =>
    obtain ⟨v, rfl, hv⟩ := ih
    cases second with
    | digits hhigh' hlow' =>
      cases first with
      | digits hhigh hlow =>
        exact ⟨0x5c :: 0x75 :: _ :: _ :: _ :: _ :: 0x5c :: 0x75 :: _ :: _ :: _ :: _ :: v, rfl,
          fun rest' => .pair (.digits hhigh hlow) hlead (.digits hhigh' hlow') htrail (hv rest')⟩

/-- A string that is read is a string. -/
theorem of_string {t rest : Bytes} {s : Text} (h : Read.string t = .ok (s, rest)) :
    ∃ v, Blanks t (v ++ rest) ∧ Value (v ++ rest) rest ∧ IsString v s := by
  obtain ⟨b, u, hblanks, -, h⟩ := value_eq_ok_iff.mp h
  split at h
  · rename_i u heq
    cases heq
    have hspells := stringTail_eq_ok_iff.mp h
    obtain ⟨v, rfl, hv⟩ := hspells.exists_append
    refine ⟨0x22 :: v, hblanks, .scalar (.string hspells.skims), v, rfl, ?_⟩
    have hend := hv []
    rwa [List.append_nil] at hend
  · cases h

theorem IsString.string_eq {v t rest : Bytes} {s : Text} (h : IsString v s)
    (blanks : Blanks t (v ++ rest)) : Read.string t = .ok (s, rest) := by
  obtain ⟨u, rfl, hu⟩ := h
  obtain ⟨v, rfl, hv⟩ := hu.exists_append
  rw [List.append_nil, List.cons_append] at blanks
  exact value_eq_ok_iff.mpr ⟨0x22, v ++ rest, blanks, rfl, stringTail_eq_ok_iff.mpr (hv rest)⟩

theorem skims_of_stringBytes {t bs rest : Bytes} (h : stringBytes true t = .ok (bs, rest)) :
    Skims t rest := by
  induction t using stringBytes.induct true generalizing bs with
  | case1 =>
    rw [stringBytes] at h
    cases h
  | case2 more =>
    rw [stringBytes, if_pos rfl] at h
    cases h
    exact .close
  | case3 more f hescaped hmark =>
    rw [stringBytes, if_neg hmark, if_pos rfl, hescaped] at h
    cases h
  | case4 more bs' count hescaped hmark ih =>
    rw [stringBytes, if_neg hmark, if_pos rfl, hescaped] at h
    obtain ⟨⟨tail, _⟩, htail, h⟩ := map_eq_ok_iff.mp h
    cases h
    have hmore := ih htail
    unfold escaped at hescaped
    split at hescaped
    · cases hescaped
    split at hescaped
    · rename_i hb
      subst hb
      rw [if_pos rfl] at hescaped
      obtain ⟨n, hn, hescaped⟩ := map_eq_ok_iff.mp hescaped
      cases hescaped
      exact .number (hexNumber_eq_ok_iff.mp hn) hmore
    · split at hescaped
      · rename_i x hshort
        cases hescaped
        exact .short hshort hmore
      · cases hescaped
  | case5 b more hmark hslash hcontrol =>
    rw [stringBytes, if_neg hmark, if_neg hslash, if_pos hcontrol] at h
    cases h
  | case6 b more hmark hslash hcontrol ih =>
    rw [stringBytes, if_neg hmark, if_neg hslash, if_neg hcontrol] at h
    obtain ⟨⟨tail, _⟩, htail, h⟩ := map_eq_ok_iff.mp h
    cases h
    exact .plain hmark hslash hcontrol (ih htail)

theorem Skims.exists_stringBytes {t rest : Bytes} (h : Skims t rest) :
    ∃ bs, stringBytes true t = .ok (bs, rest) := by
  induction h with
  | close => exact ⟨[], by rw [stringBytes, if_pos rfl]⟩
  | @plain b t rest hmark hslash hcontrol _ ih =>
    obtain ⟨bs, ih⟩ := ih
    refine ⟨b :: bs, ?_⟩
    rw [stringBytes, if_neg hmark, if_neg hslash, if_neg hcontrol, ih]
    rfl
  | short hshort _ ih =>
    obtain ⟨bs, ih⟩ := ih
    exact ⟨_, stringBytes_escaped (escaped_short hshort true _) rfl ih⟩
  | @number t n u rest digits _ ih =>
    obtain ⟨bs, ih⟩ := ih
    have hescaped : escaped true (0x75 :: t) = .ok ([], 5) := by
      rw [escaped, if_pos rfl, if_pos rfl, digits.hexNumber_eq]
      rfl
    exact ⟨_, stringBytes_escaped hescaped digits.drop_eq ih⟩

end MediaPerimeter.Json
