import MediaPerimeter.Proofs.Json.Record

/-!
# Records that are written

What is written as a record of strings and integers is an object in the sense of the grammar, with
the texts of the values as its members. So a reader takes each of them back.
-/
namespace MediaPerimeter.Json

open Read Outcome

def IsPlain (b : UInt8) : Prop := b ≠ 0x22 ∧ b ≠ 0x5c ∧ ¬ b < 0x20

theorem isPlain_iff {b : UInt8} : IsPlain b ↔ b.toNat ≠ 0x22 ∧ b.toNat ≠ 0x5c ∧ 0x20 ≤ b.toNat := by
  have hmark : b = 0x22 ↔ b.toNat = 0x22 := UInt8.toNat_inj.symm
  have hslash : b = 0x5c ↔ b.toNat = 0x5c := UInt8.toNat_inj.symm
  have hcontrol : b < 0x20 ↔ b.toNat < 0x20 := UInt8.lt_iff_toNat_lt
  rw [IsPlain, Ne, Ne, hmark, hslash, hcontrol, Nat.not_lt]

/-- A byte is that of the character itself or beyond all marks. -/
theorem isPlain_of_mem_encodeChar {c : Char} (hcontrol : 0x20 ≤ c.toNat) (hmark : c ≠ '"')
    (hslash : c ≠ '\\') {b : UInt8} (hb : b ∈ String.utf8EncodeChar c) : IsPlain b := by
  have hmark : c.toNat ≠ 0x22 := fun h => hmark (Char.toNat_inj.mp h)
  have hslash : c.toNat ≠ 0x5c := fun h => hslash (Char.toNat_inj.mp h)
  have hascii : b.toNat < 0x80 → b.toNat = c.toNat := Utf8.toNat_of_mem_encodeChar hb
  rw [isPlain_iff]
  omega

theorem spells_plain {plain t bs rest : Bytes} (h : ∀ b ∈ plain, IsPlain b)
    (more : Spells t bs rest) : Spells (plain ++ t) (plain ++ bs) rest := by
  induction plain with
  | nil => exact more
  | cons b plain ih =>
    obtain ⟨hb, hplain⟩ := List.forall_mem_cons.mp h
    exact .plain hb.1 hb.2.1 hb.2.2 (ih hplain)

/-- A control is escaped by its number. -/
theorem spells_control {c : Char} (h : c.toNat < 0x20) {t bs rest : Bytes}
    (more : Spells t bs rest) :
    Spells (Utf8.encode ['\\', 'u', '0', '0', Hex.small (c.toNat / 16), Hex.small (c.toNat % 16)] ++ t)
      (Utf8.encode [c] ++ bs) rest := by
  have hdigits : ∀ i : Fin 32, ∃ x y, Utf8.encode ['\\', 'u', '0', '0', Hex.small (i.val / 16),
      Hex.small (i.val % 16)] = [0x5c, 0x75, 0x30, 0x30, x, y] ∧
      Percent.pair? x y = some (.ofNat i.val) := by
    intro i
    refine ⟨.ofNat (Hex.small (i.val / 16)).toNat, .ofNat (Hex.small (i.val % 16)).toNat, ?_⟩
    revert i
    decide
  obtain ⟨x, y, hbytes, hpair⟩ := hdigits ⟨c.toNat, h⟩
  dsimp only at hbytes hpair
  have hbyte : (UInt8.ofNat c.toNat).toNat = c.toNat := toNat_byte (by omega)
  have hnumber : (0 : UInt8).toNat * 256 + (UInt8.ofNat c.toNat).toNat = c.toNat := by
    rw [hbyte]
    exact Nat.zero_add _
  have hfour : Hex4 (0x30 :: 0x30 :: x :: y :: t) c.toNat t := hnumber ▸ .digits rfl hpair
  have hlead : isLeading c.toNat = false := by
    simp only [isLeading, Bool.and_eq_false_iff, decide_eq_false_iff_not]
    omega
  have htrail : isTrailing c.toNat = false := by
    simp only [isTrailing, Bool.and_eq_false_iff, decide_eq_false_iff_not]
    omega
  have hspells := Spells.number hfour hlead htrail more
  rw [Char.ofNat_toNat] at hspells
  rw [hbytes]
  exact hspells

theorem spells_escape (c : Char) {t bs rest : Bytes} (more : Spells t bs rest) :
    Spells (Utf8.encode (escape c) ++ t) (Utf8.encode [c] ++ bs) rest := by
  unfold escape
  split
  · rename_i h
    subst h
    exact .short rfl more
  split
  · rename_i h
    subst h
    exact .short rfl more
  split
  · rename_i h
    subst h
    exact .short rfl more
  split
  · rename_i h
    subst h
    exact .short rfl more
  split
  · rename_i h
    subst h
    exact .short rfl more
  split
  · rename_i h
    subst h
    exact .short rfl more
  split
  · rename_i h
    subst h
    exact .short rfl more
  split
  · rename_i h
    exact spells_control h more
  · rename_i hmark hslash _ _ _ _ _ hcontrol
    have hchar : Utf8.encode [c] = String.utf8EncodeChar c := List.flatMap_singleton _ _
    rw [hchar]
    exact spells_plain
      (fun b hb => isPlain_of_mem_encodeChar (Nat.not_lt.mp hcontrol) hmark hslash hb) more

theorem spells_written (s : Text) (rest : Bytes) :
    Spells (Utf8.encode (s.flatMap escape) ++ 0x22 :: rest) (Utf8.encode s) rest := by
  induction s with
  | nil => exact .close
  | cons c s ih =>
    have hspells := spells_escape c ih
    rwa [← List.append_assoc, ← Utf8.encode_append, ← List.flatMap_cons, ← Utf8.encode_append]
      at hspells

theorem encode_quote (s : Text) :
    Utf8.encode (quote s) = 0x22 :: (Utf8.encode (s.flatMap escape) ++ [0x22]) := by
  unfold quote
  rw [Utf8.encode_append, Utf8.encode_cons]
  rfl

theorem isString_written (s : Text) : IsString (Json.string s).bytes s := by
  refine ⟨Utf8.encode (s.flatMap escape) ++ [0x22], ?_, spells_written s []⟩
  rw [bytes, text, encode_quote]

namespace Number

theorem encode_digitChar : ∀ i : Fin 10,
    Utf8.encode [Nat.digitChar i.val] = [.ofNat (i.val + 48)] := by decide

theorem digit_byte : ∀ i : Fin 10, isDigit (.ofNat (i.val + 48)) = true ∧
    digit (.ofNat (i.val + 48)) = i.val := by decide

/-- The digits of a number are read back. The last digit comes off the end. -/
theorem whole_text (n : Nat) : Whole (Utf8.encode (Decimal.text n)) ∧
    value (Utf8.encode (Decimal.text n)) = n := by
  induction n using Nat.strongRecOn with
  | _ n ih =>
  by_cases hlt : n < 10
  · have hbyte := encode_digitChar ⟨n, hlt⟩
    obtain ⟨hdigit, hvalue⟩ := digit_byte ⟨n, hlt⟩
    rw [Decimal.text, Nat.toDigits_of_lt_base hlt, hbyte]
    refine ⟨⟨⟨List.cons_ne_nil _ _, ?_⟩, ?_⟩, ?_⟩
    · intro d hd
      rw [List.mem_singleton.mp hd]
      exact hdigit
    · intro hhead
      exact congrArg (fun b => [b]) (Option.some.inj hhead)
    · simpa [value] using hvalue
  · have hmod : n % 10 < 10 := Nat.mod_lt n (by decide)
    have hbyte := encode_digitChar ⟨n % 10, hmod⟩
    obtain ⟨hdigit, hvalue⟩ := digit_byte ⟨n % 10, hmod⟩
    obtain ⟨⟨⟨hne, hall⟩, hzero⟩, hfront⟩ := ih (n / 10) (by omega)
    have htext : Utf8.encode (Decimal.text n) =
        Utf8.encode (Decimal.text (n / 10)) ++ [.ofNat (n % 10 + 48)] := by
      rw [Decimal.text, Nat.toDigits_of_base_le (by decide) (Nat.not_lt.mp hlt), Utf8.encode_append,
        hbyte]
      rfl
    rw [htext]
    refine ⟨⟨⟨by simp, ?_⟩, ?_⟩, ?_⟩
    · intro d hd
      rcases List.mem_append.mp hd with hd | hd
      · exact hall d hd
      · rw [List.mem_singleton.mp hd]
        exact hdigit
    · intro hhead
      rw [List.head?_append_of_ne_nil _ hne] at hhead
      -- A leading zero would be the whole front, which is not zero.
      rw [hzero hhead] at hfront
      have hpos : value [0x30] = 0 := rfl
      omega
    · rw [value_append, hfront, hvalue]
      exact Nat.div_add_mod' n 10

theorem gather_eq {s : Nat} {ds : Bytes} (h : ds.foldl (fun n d => n * 10 + digit d) s < limit) :
    gather s ds = (ds.foldl (fun n d => n * 10 + digit d) s, []) := by
  induction ds generalizing s with
  | nil => rfl
  | cons d ds ih =>
    rw [List.foldl_cons] at h ⊢
    have hgrows : ∀ (ds : Bytes) (n : Nat), n ≤ ds.foldl (fun n d => n * 10 + digit d) n := by
      intro ds
      induction ds with
      | nil => exact fun n => Nat.le_refl n
      | cons d ds ih =>
        intro n
        rw [List.foldl_cons]
        exact Nat.le_trans (by omega) (ih _)
    rw [gather, if_pos (Nat.lt_of_le_of_lt (hgrows ds _) h), ih h]

theorem unsigned_whole {ds rest : Bytes} (hds : Whole ds) (hlimit : value ds < limit)
    (ends : EndsNumber rest) (negative : Bool) :
    unsigned negative (ds ++ rest) = .ok (ofInteger negative (value ds), rest) := by
  obtain ⟨htake, hdrop⟩ := takeWhile_digits hds.1.2 fun b hb => (ends b hb).1
  unfold unsigned
  rw [htake, hdrop]
  dsimp only
  split
  · exact absurd rfl hds.1.1
  · exact absurd (hds.2 rfl) (by simp)
  · have hgather : gather 0 ds = (value ds, []) := gather_eq hlimit
    rw [hgather]
    dsimp only
    split
    · rename_i more
      exact absurd rfl (ends _ rfl).2.1
    · unfold afterDigits
      split
      · exact absurd rfl (ends _ rfl).2.2.1
      · exact absurd rfl (ends _ rfl).2.2.2
      · rfl

theorem read_of_digits {ds : Bytes} (hds : Whole ds) (rest : Bytes) :
    read (ds ++ rest) = unsigned false (ds ++ rest) := by
  unfold read
  split
  · rename_i more heq
    exact absurd heq (ne_minus_of_digits hds.1 more)
  · rfl

end Number

def FitsWord (n : Int) : Prop := -9223372036854775808 ≤ n ∧ n < 9223372036854775808

instance : DecidablePred FitsWord := fun n =>
  inferInstanceAs (Decidable (-9223372036854775808 ≤ n ∧ n < 9223372036854775808))

theorem IsInteger.integer_eq {v t rest : Bytes} {n : Int} (h : IsInteger v n) (hfits : FitsWord n)
    (blanks : Blanks t (v ++ rest)) (ends : EndsNumber rest) :
    Read.integer t = .ok (n, rest) := by
  have hlimit : Number.limit = 18446744073709551616 := rfl
  obtain ⟨hlo, hhi⟩ := hfits
  subst h
  cases n with
  | ofNat n =>
    obtain ⟨hwhole, hvalue⟩ := Number.whole_text n
    have hsmall : n < 9223372036854775808 := Int.ofNat_lt.mp hhi
    have hread : Number.read (Utf8.encode (Decimal.text n) ++ rest) = .ok (.nonneg n, rest) := by
      rw [Number.read_of_digits hwhole, Number.unsigned_whole hwhole (by omega) ends, hvalue]
      rfl
    have htext : Utf8.encode (Decimal.intText (.ofNat n)) = Utf8.encode (Decimal.text n) := rfl
    rw [htext] at blanks
    cases hbytes : Utf8.encode (Decimal.text n) with
    | nil => exact absurd hbytes hwhole.1.1
    | cons b u =>
      have hb : Number.isDigit b = true := hwhole.1.2 b (hbytes ▸ List.mem_cons_self)
      rw [hbytes] at blanks hread
      refine value_eq_ok_iff.mpr ⟨b, u ++ rest, blanks, (StartsScalar.number (.inr hb)).plain.1, ?_⟩
      have hstart : some b = some 0x2d ∨ (some b).any Number.isDigit = true := .inr hb
      rw [List.head?_cons, if_pos hstart]
      refine bind_eq_ok_iff.mpr ⟨_, hread, ?_⟩
      dsimp only
      rw [if_pos (show n < Nat.pow 2 63 from hsmall)]
      rfl
  | negSucc n =>
    obtain ⟨hwhole, hvalue⟩ := Number.whole_text (n + 1)
    have hsmall : n + 1 ≤ 9223372036854775808 := by omega
    have hread : Number.read (0x2d :: (Utf8.encode (Decimal.text (n + 1)) ++ rest)) =
        .ok (.negative (n + 1), rest) := by
      have hinteger : Number.ofInteger true (n + 1) = .negative (n + 1) := by
        have hno : ¬ (n + 1 = 0 ∨ Nat.pow 2 63 < n + 1) := by
          rintro (h | h)
          · omega
          · exact absurd h (Nat.not_lt.mpr hsmall)
        unfold Number.ofInteger
        rw [if_neg (by decide), if_neg hno]
      rw [Number.read, Number.unsigned_whole hwhole (by omega) ends, hvalue, hinteger]
    have htext : Utf8.encode (Decimal.intText (.negSucc n)) =
        0x2d :: Utf8.encode (Decimal.text (n + 1)) := rfl
    rw [htext] at blanks
    refine value_eq_ok_iff.mpr ⟨0x2d, _, blanks, rfl, ?_⟩
    rw [List.head?_cons, if_pos (.inl rfl)]
    exact bind_eq_ok_iff.mpr ⟨_, hread, rfl⟩

/-- What is written for the value is a value, whatever ends it. -/
def IsLeaf (v : Json) : Prop := ∀ rest, EndsNumber rest → Value (v.bytes ++ rest) rest

theorem isLeaf_string (s : Text) : IsLeaf (.string s) := by
  intro rest _
  have hspells := (spells_written s rest).skims
  rw [bytes, text, encode_quote, List.cons_append, List.append_assoc]
  exact .scalar (.string hspells)

theorem numeral_int (n : Int) : Numeral (Json.int n).bytes := by
  cases n with
  | ofNat n => exact Number.numeral_of_whole (.inl rfl) (Number.whole_text n).1
  | negSucc n => exact Number.numeral_of_whole (.inr rfl) (Number.whole_text (n + 1)).1

theorem isLeaf_int (n : Int) : IsLeaf (.int n) := fun _ _ => .scalar (.number (numeral_int n))

def members (fields : List (String × Json)) : List (Text × Bytes) :=
  fields.map fun f => (f.1.toList, f.2.bytes)

def named (fields : List (String × Json)) : List (Text × Json) :=
  fields.map fun f => (f.1.toList, f.2)

def comma (first : Bool) : Bytes := if first then [] else [0x2c]

theorem leads_comma (first : Bool) (u : Bytes) : Leads first (comma first ++ 0x22 :: u) u := by
  cases first with
  | true => exact Blanks.refl _
  | false => exact ⟨_, .refl _, .refl _⟩

theorem member_written {first : Bool} {name : Text} {v : Json} {ms : List (Text × Bytes)}
    {t rest : Bytes} (hleaf : v.IsLeaf) (more : Members false ms t rest) :
    Members first ((name, v.bytes) :: ms)
      (comma first ++ (Utf8.encode (quote name ++ ':' :: v.text) ++ t)) rest := by
  have hbytes : Utf8.encode (quote name ++ ':' :: v.text) ++ t =
      0x22 :: (Utf8.encode (name.flatMap escape) ++ 0x22 :: 0x3a :: (v.bytes ++ t)) := by
    rw [Utf8.encode_append, encode_quote, Utf8.encode_cons]
    simp [bytes, String.utf8EncodeChar]
  rw [hbytes]
  exact .member (leads_comma first _) (spells_written name _) (.refl _) (.refl _)
    (hleaf t more.endsNumber) more

theorem members_written {fields : List (String × Json)} (hleaf : ∀ f ∈ fields, f.2.IsLeaf)
    (hne : fields ≠ []) (first : Bool) (rest : Bytes) :
    Members first (members fields)
      (comma first ++ (Utf8.encode (fieldsText (named fields)) ++ 0x7d :: rest)) rest := by
  induction fields generalizing first with
  | nil => exact absurd rfl hne
  | cons f fields ih =>
    obtain ⟨hf, hfields⟩ := List.forall_mem_cons.mp hleaf
    cases fields with
    | nil => exact member_written hf (.close (.refl _))
    | cons g fields =>
      have hmore := ih hfields (List.cons_ne_nil g fields) false
      have htext : Utf8.encode (fieldsText (named (f :: g :: fields))) ++ 0x7d :: rest =
          Utf8.encode (quote f.1.toList ++ ':' :: f.2.text) ++
            (comma false ++ (Utf8.encode (fieldsText (named (g :: fields))) ++ 0x7d :: rest)) := by
        simp only [named, List.map_cons, fieldsText, Utf8.encode_append, Utf8.encode_cons,
          List.append_assoc]
        rfl
      rw [htext]
      exact member_written hf hmore

/-- A record of leaves is an object with just these members. -/
theorem isObject_record {fields : List (String × Json)} (hleaf : ∀ f ∈ fields, f.2.IsLeaf)
    (hne : fields ≠ []) : IsObject (Json.record fields).bytes (members fields) := by
  refine ⟨Utf8.encode (fieldsText (named fields)) ++ [0x7d], [], ?_,
    members_written hleaf hne true [], .refl []⟩
  have hbytes : (Json.record fields).bytes =
      0x7b :: (Utf8.encode (fieldsText (named fields)) ++ [0x7d]) := by
    rw [bytes, record, text, Utf8.encode_append, Utf8.encode_cons]
    rfl
  rw [hbytes]
  exact .refl _

/-- What is written for a record of one text has that text as its only member. -/
theorem isObject_text (name : String) (t : Text) :
    IsObject (Json.record [(name, .string t)]).bytes (members [(name, .string t)]) ∧
      valuesOf name (members [(name, .string t)]) = [(Json.string t).bytes] := by
  constructor
  · refine isObject_record ?_ (List.cons_ne_nil _ _)
    intro f hf
    obtain rfl := List.mem_singleton.mp hf
    exact isLeaf_string t
  · rw [members, List.map_singleton, valuesOf_cons, if_pos rfl]
    rfl

section Rules

variable {σ : Type}

def Takes (rule : Rule σ) (v : Bytes) (put : σ → σ) : Prop :=
  ∀ t rest, Blanks t (v ++ rest) → EndsNumber rest → rule.read t = .ok (put, rest)

theorem complete_takes (rules : List (Rule σ)) : Complete Takes rules :=
  fun _ _ _ _ htakes => htakes

theorem takes_string (name : String) (put : Text → σ → σ) {v : Bytes} {s : Text}
    (h : IsString v s) : Takes (.must name Read.string put) v (put s) :=
  fun _ rest hblanks _ => map_eq_ok_iff.mpr ⟨(s, rest), h.string_eq hblanks, rfl⟩

theorem takes_integer (name : String) (put : Int → σ → σ) {v : Bytes} {n : Int}
    (h : IsInteger v n) (hfits : FitsWord n) :
    Takes (.must name Read.integer put) v (put n) :=
  fun _ rest hblanks ends =>
    map_eq_ok_iff.mpr ⟨(n, rest), h.integer_eq hfits hblanks ends, rfl⟩

theorem document_object {title : String} {rules : List (Rule σ)} {s s' : σ} {t : Bytes}
    {ms : List (Text × Bytes)} {seen : List Text} (h : IsObject t ms)
    (hcollects : Collects Takes rules [] s ms seen s') (hall : HasAll rules seen) :
    document (Read.record title rules s) t = .ok s' := by
  obtain ⟨u, rest, hblanks, hmembers, hrest⟩ := h
  refine document_eq_ok_iff.mpr ⟨rest, ?_, hrest⟩
  rw [record_object hblanks]
  exact hcollects.objectRecord_eq (complete_takes rules) hall hmembers

end Rules
end MediaPerimeter.Json
